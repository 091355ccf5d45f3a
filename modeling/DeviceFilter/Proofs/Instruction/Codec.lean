import DeviceFilter.Bytes.Lemmas
import DeviceFilter.Instruction.Codec
import Mathlib.Data.List.Basic

/-!
What encoding and decoding keep: everything but the high halves of the register numbers.
-/
set_option autoImplicit false

namespace DeviceFilter

namespace Instruction

/-! ## The register byte -/

theorem and_fifteen (n : Nat) : n &&& 15 = n % 16 := Nat.and_two_pow_sub_one_eq_mod n 4

theorem toNat_halves (a b : UInt8) :
    ((a <<< 4) ||| (b &&& 0x0F)).toNat = 16 * (a.toNat % 16) + b.toNat % 16 := by
  have hhigh : (a <<< 4).toNat = (a.toNat % 16) <<< 4 := by
    simp only [UInt8.toNat_shiftLeft, Nat.shiftLeft_eq, UInt8.reduceToNat, Nat.reduceMod,
      Nat.reducePow]
    omega
  have hlow : (b &&& 0x0F).toNat = b.toNat % 16 := by
    rw [UInt8.toNat_and]
    exact and_fifteen _
  rw [UInt8.toNat_or, hhigh, hlow, ← Nat.shiftLeft_add_eq_or_of_lt (by omega), Nat.shiftLeft_eq]
  omega

theorem low_half (a b : UInt8) : ((a <<< 4) ||| (b &&& 0x0F)) &&& 0x0F = b % 16 := by
  apply UInt8.toNat_inj.mp
  rw [UInt8.toNat_and, toNat_halves]
  simp [and_fifteen]

theorem high_half (a b : UInt8) : ((a <<< 4) ||| (b &&& 0x0F)) >>> 4 = a % 16 := by
  apply UInt8.toNat_inj.mp
  rw [UInt8.toNat_shiftRight, toNat_halves]
  simp [Nat.shiftRight_eq_div_pow]
  omega

theorem dstOf_registerByte (order : ByteOrder) (dst src : UInt8) :
    dstOf order (registerByte order dst src) = dst % 16 := by
  cases order with
  | little => exact low_half src dst
  | big => exact high_half dst src

theorem srcOf_registerByte (order : ByteOrder) (dst src : UInt8) :
    srcOf order (registerByte order dst src) = src % 16 := by
  cases order with
  | little => exact high_half src dst
  | big => exact low_half dst src

/-! ## Records -/

/-- What is kept of an instruction. -/
def reduced (i : Instruction) : Instruction := { i with dst := i.dst % 16, src := i.src % 16 }

theorem ofFields_encode (order : ByteOrder) (i : Instruction) :
    ofFields order i.code (registerByte order i.dst i.src)
      (order.bytes 2 i.offset.toUInt16.toNat) (order.bytes 4 i.imm.toUInt32.toNat) = i.reduced := by
  have hoffset : i.offset.toUInt16.toNat < 65536 := i.offset.toUInt16.toNat_lt
  have himm : i.imm.toUInt32.toNat < 4294967296 := i.imm.toUInt32.toNat_lt
  simp only [ofFields, reduced, dstOf_registerByte, srcOf_registerByte, ByteOrder.value_bytes,
    Nat.reducePow, Nat.mod_eq_of_lt hoffset, Nat.mod_eq_of_lt himm, UInt16.ofNat_toNat,
    UInt32.ofNat_toNat, Int16.toInt16_toUInt16, Int32.toInt32_toUInt32]

end Instruction

namespace Program

theorem records_encode_append (order : ByteOrder) (i : Instruction) (rest : List UInt8) :
    records order (i.encode order ++ rest) = i.reduced :: records order rest := by
  obtain ⟨b2, b3, hoffset⟩ := List.length_eq_two.mp (order.length_bytes 2 i.offset.toUInt16.toNat)
  obtain ⟨b4, b5, b6, b7, himm⟩ :=
    List.length_eq_four.mp (order.length_bytes 4 i.imm.toUInt32.toNat)
  have hfields := i.ofFields_encode order
  rw [hoffset, himm] at hfields
  simp only [Instruction.encode, hoffset, himm, List.cons_append, List.nil_append, records, hfields]

theorem records_encode (order : ByteOrder) (p : Program) :
    records order (p.encode order) = p.map (·.reduced) := by
  induction p with
  | nil => rfl
  | cons i p ih =>
    change records order (i.encode order ++ encode order p) = _
    rw [records_encode_append, ih, List.map_cons]

theorem decode_encode (order : ByteOrder) (p : Program) :
    decode order (p.encode order) = .ok (p.map (·.reduced)) := by
  rw [decode, length_encode, Nat.mul_mod_right, if_pos rfl, records_encode]

/-- Register numbers that a record has room for. -/
def Encodable (p : Program) : Prop := ∀ i ∈ p, i.dst < 16 ∧ i.src < 16

theorem map_reduced {p : Program} (h : p.Encodable) : p.map (·.reduced) = p := by
  induction p with
  | nil => rfl
  | cons i p ih =>
    obtain ⟨⟨hdst, hsrc⟩, hp⟩ := List.forall_mem_cons.mp h
    have hi : i.reduced = i := by
      simp only [Instruction.reduced, UInt8.mod_eq_of_lt hdst, UInt8.mod_eq_of_lt hsrc]
    rw [List.map_cons, hi, ih hp]

theorem decode_encode_of_encodable (order : ByteOrder) {p : Program} (h : p.Encodable) :
    decode order (p.encode order) = .ok p := by
  rw [decode_encode, map_reduced h]

end Program

end DeviceFilter
