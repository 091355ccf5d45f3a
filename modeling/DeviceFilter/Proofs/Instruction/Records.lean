import DeviceFilter.Proofs.Instruction.Codec

/-!
Records and instructions correspond. In either byte order, eight bytes are the record of exactly
one instruction whose register numbers have four bits, and a whole number of records that of exactly
one program. A record read in the wrong order is an instruction too: code and length are right, the
registers change places, and offset and immediate have their bytes reversed.
-/
set_option autoImplicit false

namespace DeviceFilter

/-! ## Words read in the wrong order -/

def ByteOrder.opposite : ByteOrder → ByteOrder
  | .little => .big
  | .big => .little

/-- The low `width` bytes of `n`, taken off one after another and put behind those of `high`. -/
def swapOnto (high : Nat) : Nat → Nat → Nat
  | 0, _ => high
  | width + 1, n => swapOnto (n % 256 + 256 * high) width (n / 256)

/-- A word of `width` bytes with its bytes in the reverse order. -/
def byteSwap (width n : Nat) : Nat := swapOnto 0 width n

theorem ofLowBytes_reverse_append (width n : Nat) (bs : List UInt8) :
    ofLowBytes ((lowBytes width n).reverse ++ bs) = swapOnto (ofLowBytes bs) width n := by
  induction width generalizing n bs with
  | zero => rfl
  | succ width ih =>
    have hlow : (UInt8.ofNat n).toNat = n % 256 := by simp
    rw [lowBytes, List.reverse_cons, List.append_assoc, List.singleton_append, ih, ofLowBytes, hlow,
      swapOnto]

theorem ByteOrder.value_opposite_bytes (order : ByteOrder) (width n : Nat) :
    order.opposite.value (order.bytes width n) = byteSwap width n := by
  have hreverse : ofLowBytes (lowBytes width n).reverse = byteSwap width n := by
    have h := ofLowBytes_reverse_append width n []
    rwa [List.append_nil] at h
  cases order with
  | little => exact hreverse
  | big => exact hreverse

example : byteSwap 4 0x12345678 = 0x78563412 := rfl

namespace Instruction

/-! ## One record -/

/-- The instruction of eight bytes. -/
def ofRecord (order : ByteOrder) (b : Vector UInt8 8) : Instruction :=
  ofFields order b[0] b[1] [b[2], b[3]] [b[4], b[5], b[6], b[7]]

def record (order : ByteOrder) (i : Instruction) : Vector UInt8 8 :=
  ⟨(i.encode order).toArray, by simp⟩

theorem toList_record (order : ByteOrder) (i : Instruction) :
    (i.record order).toList = i.encode order := rfl

theorem exists_eight {bytes : List UInt8} (h : bytes.length = 8) :
    ∃ b0 b1 b2 b3 b4 b5 b6 b7, bytes = [b0, b1, b2, b3, b4, b5, b6, b7] := by
  match bytes, h with
  | [b0, b1, b2, b3, b4, b5, b6, b7], _ => exact ⟨b0, b1, b2, b3, b4, b5, b6, b7, rfl⟩

theorem exists_bytes (b : Vector UInt8 8) :
    ∃ b0 b1 b2 b3 b4 b5 b6 b7, b = #v[b0, b1, b2, b3, b4, b5, b6, b7] := by
  obtain ⟨b0, b1, b2, b3, b4, b5, b6, b7, hbytes⟩ := exists_eight b.length_toList
  exact ⟨b0, b1, b2, b3, b4, b5, b6, b7, Vector.toList_inj.mp hbytes⟩

theorem halves_of_byte (b : UInt8) : ((b >>> 4) <<< 4) ||| ((b &&& 0x0F) &&& 0x0F) = b := by
  apply UInt8.toNat_inj.mp
  have hb : b.toNat < 256 := b.toNat_lt
  have hhigh : (b >>> 4).toNat = b.toNat / 16 := by
    rw [UInt8.toNat_shiftRight]
    simp [Nat.shiftRight_eq_div_pow]
  have hlow : (b &&& 0x0F).toNat = b.toNat % 16 := by
    rw [UInt8.toNat_and]
    exact and_fifteen _
  rw [toNat_halves, hhigh, hlow]
  omega

theorem registerByte_of_byte (order : ByteOrder) (b : UInt8) :
    registerByte order (dstOf order b) (srcOf order b) = b := by
  cases order with
  | little => exact halves_of_byte b
  | big => exact halves_of_byte b

theorem bytes_value_half (order : ByteOrder) (b0 b1 : UInt8) :
    order.bytes 2 (UInt16.ofNat (order.value [b0, b1])).toNat = [b0, b1] := by
  have hvalue : order.value [b0, b1] < 2 ^ 16 := by simpa using order.value_lt [b0, b1]
  rw [UInt16.toNat_ofNat_of_lt' hvalue]
  exact order.bytes_value [b0, b1]

theorem bytes_value_word (order : ByteOrder) (b0 b1 b2 b3 : UInt8) :
    order.bytes 4 (UInt32.ofNat (order.value [b0, b1, b2, b3])).toNat = [b0, b1, b2, b3] := by
  have hvalue : order.value [b0, b1, b2, b3] < 2 ^ 32 := by
    simpa using order.value_lt [b0, b1, b2, b3]
  rw [UInt32.toNat_ofNat_of_lt' hvalue]
  exact order.bytes_value [b0, b1, b2, b3]

theorem encode_ofRecord (order : ByteOrder) (b : Vector UInt8 8) :
    (ofRecord order b).encode order = b.toList := by
  obtain ⟨b0, b1, b2, b3, b4, b5, b6, b7, rfl⟩ := exists_bytes b
  change b0 :: registerByte order (dstOf order b1) (srcOf order b1)
    :: (order.bytes 2 (UInt16.ofNat (order.value [b2, b3])).toInt16.toUInt16.toNat
      ++ order.bytes 4 (UInt32.ofNat (order.value [b4, b5, b6, b7])).toInt32.toUInt32.toNat)
    = [b0, b1, b2, b3, b4, b5, b6, b7]
  rw [registerByte_of_byte, UInt16.toUInt16_toInt16, UInt32.toUInt32_toInt32, bytes_value_half,
    bytes_value_word]
  rfl

theorem record_ofRecord (order : ByteOrder) (b : Vector UInt8 8) :
    (ofRecord order b).record order = b := by
  apply Vector.toList_inj.mp
  rw [toList_record, encode_ofRecord]

/-- Reading a record in the order `o` reads its fields so, whatever order it was written in. -/
theorem ofRecord_record (i : Instruction) (o order : ByteOrder) :
    ofRecord o (i.record order) = ofFields o i.code (registerByte order i.dst i.src)
      (order.bytes 2 i.offset.toUInt16.toNat) (order.bytes 4 i.imm.toUInt32.toNat) := by
  obtain ⟨b2, b3, hoffset⟩ := List.length_eq_two.mp (order.length_bytes 2 i.offset.toUInt16.toNat)
  obtain ⟨b4, b5, b6, b7, himm⟩ :=
    List.length_eq_four.mp (order.length_bytes 4 i.imm.toUInt32.toNat)
  have hrecord : i.record order
      = #v[i.code, registerByte order i.dst i.src, b2, b3, b4, b5, b6, b7] := by
    apply Vector.toList_inj.mp
    rw [toList_record, encode, hoffset, himm]
    rfl
  rw [hrecord, hoffset, himm]
  rfl

theorem reduced_eq_iff (i : Instruction) : i.reduced = i ↔ i.dst < 16 ∧ i.src < 16 := by
  have hmod (r : UInt8) : r % 16 = r ↔ r < 16 := by
    constructor
    · intro h
      rw [← h]
      exact UInt8.mod_lt r (by decide)
    · exact UInt8.mod_eq_of_lt
  rw [← hmod, ← hmod]
  constructor
  · intro h
    exact ⟨congrArg dst h, congrArg src h⟩
  · rintro ⟨hdst, hsrc⟩
    rw [reduced, hdst, hsrc]

/-- What the record of an instruction says in the other byte order. -/
def crossed (i : Instruction) : Instruction where
  code := i.code
  dst := i.src % 16
  src := i.dst % 16
  offset := (UInt16.ofNat (byteSwap 2 i.offset.toUInt16.toNat)).toInt16
  imm := (UInt32.ofNat (byteSwap 4 i.imm.toUInt32.toNat)).toInt32

theorem dstOf_opposite (order : ByteOrder) (dst src : UInt8) :
    dstOf order.opposite (registerByte order dst src) = src % 16 := by
  cases order with
  | little => exact high_half src dst
  | big => exact low_half dst src

theorem srcOf_opposite (order : ByteOrder) (dst src : UInt8) :
    srcOf order.opposite (registerByte order dst src) = dst % 16 := by
  cases order with
  | little => exact low_half src dst
  | big => exact high_half dst src

theorem ofRecord_opposite_record (i : Instruction) (order : ByteOrder) :
    ofRecord order.opposite (i.record order) = i.crossed := by
  rw [ofRecord_record, ofFields, dstOf_opposite, srcOf_opposite, order.value_opposite_bytes,
    order.value_opposite_bytes, crossed]

end Instruction

namespace Program

/-! ## Whole buffers -/

theorem records_toList_append (order : ByteOrder) (b : Vector UInt8 8) (rest : List UInt8) :
    records order (b.toList ++ rest) = Instruction.ofRecord order b :: records order rest := by
  obtain ⟨b0, b1, b2, b3, b4, b5, b6, b7, rfl⟩ := Instruction.exists_bytes b
  rfl

theorem decode_toList (order : ByteOrder) (b : Vector UInt8 8) :
    decode order b.toList = .ok [Instruction.ofRecord order b] := by
  have hrecords := records_toList_append order b []
  rw [List.append_nil] at hrecords
  rw [decode, b.length_toList, if_pos rfl, hrecords]
  rfl

/-- What is left out at the end of a buffer is no whole record. -/
theorem exists_encode_records (order : ByteOrder) (bytes : List UInt8) :
    ∃ rest, rest.length < 8 ∧ (records order bytes).encode order ++ rest = bytes := by
  fun_induction records order bytes with
  | case1 b0 b1 b2 b3 b4 b5 b6 b7 bytes ih =>
    obtain ⟨rest, hrest, hbytes⟩ := ih
    refine ⟨rest, hrest, ?_⟩
    have hrecord := Instruction.encode_ofRecord order #v[b0, b1, b2, b3, b4, b5, b6, b7]
    change ((Instruction.ofRecord order #v[b0, b1, b2, b3, b4, b5, b6, b7]).encode order
      ++ encode order (records order bytes)) ++ rest = _
    rw [hrecord, List.append_assoc, hbytes]
    rfl
  | case2 bytes hshort =>
    refine ⟨bytes, Nat.lt_of_not_le fun hlong => ?_, rfl⟩
    have htake : (bytes.take 8).length = 8 := List.length_take_of_le hlong
    obtain ⟨b0, b1, b2, b3, b4, b5, b6, b7, hbytes⟩ := Instruction.exists_eight htake
    have hsplit := (List.take_append_drop 8 bytes).symm
    rw [hbytes] at hsplit
    exact hshort b0 b1 b2 b3 b4 b5 b6 b7 (bytes.drop 8) hsplit

theorem encode_records (order : ByteOrder) {bytes : List UInt8} (h : bytes.length % 8 = 0) :
    (records order bytes).encode order = bytes := by
  obtain ⟨rest, hrest, hbytes⟩ := exists_encode_records order bytes
  have hlength := congrArg List.length hbytes
  rw [List.length_append, length_encode] at hlength
  have hempty : rest = [] := List.length_eq_zero_iff.mp (by omega)
  rwa [hempty, List.append_nil] at hbytes

theorem encodable_iff_map_reduced (p : Program) : p.Encodable ↔ p.map (·.reduced) = p := by
  constructor
  · exact map_reduced
  · intro h i hi
    have heach : ∀ i ∈ p, i.reduced = id i := List.map_inj_left.mp (h.trans p.map_id.symm)
    exact i.reduced_eq_iff.mp (heach i hi)

theorem decode_eq_ok_iff (order : ByteOrder) (bytes : List UInt8) (p : Program) :
    decode order bytes = .ok p ↔ p.Encodable ∧ p.encode order = bytes := by
  constructor
  · intro h
    unfold decode at h
    split at h
    · rename_i hwhole
      cases h
      have hbytes := encode_records order hwhole
      refine ⟨?_, hbytes⟩
      rw [encodable_iff_map_reduced, ← records_encode order, hbytes]
    · cases h
  · rintro ⟨hencodable, rfl⟩
    exact decode_encode_of_encodable order hencodable

theorem decode_eq_error_iff (order : ByteOrder) (bytes : List UInt8) (e : Truncated) :
    decode order bytes = .error e ↔
      bytes.length % 8 ≠ 0 ∧ e = ⟨bytes.length / 8, bytes.length % 8⟩ := by
  unfold decode
  split
  · rename_i hwhole
    simp [hwhole]
  · rename_i hragged
    simp [hragged, eq_comm]

theorem exists_decode_eq_ok_iff (order : ByteOrder) (bytes : List UInt8) :
    (∃ p, decode order bytes = .ok p) ↔ bytes.length % 8 = 0 := by
  constructor
  · rintro ⟨p, hp⟩
    obtain ⟨-, rfl⟩ := (decode_eq_ok_iff order bytes p).mp hp
    rw [length_encode, Nat.mul_mod_right]
  · intro hwhole
    exact ⟨records order bytes, if_pos hwhole⟩

/-- Records and instructions, and buffers and programs, correspond one to one. -/
theorem codec_bijective (order : ByteOrder) :
    (∀ b : Vector UInt8 8, decode order b.toList = .ok [Instruction.ofRecord order b] ∧
        (Instruction.ofRecord order b).record order = b) ∧
      (∀ i : Instruction, Instruction.ofRecord order (i.record order) = i.reduced ∧
        (Instruction.ofRecord order (i.record order) = i ↔ i.dst < 16 ∧ i.src < 16) ∧
        Instruction.ofRecord order.opposite (i.record order) = i.crossed) ∧
      ∀ bytes : List UInt8,
        ((∃ p, decode order bytes = .ok p) ↔ bytes.length % 8 = 0) ∧
        (∀ p, decode order bytes = .ok p ↔ p.Encodable ∧ p.encode order = bytes) ∧
        ∀ e, decode order bytes = .error e ↔
          bytes.length % 8 ≠ 0 ∧ e = ⟨bytes.length / 8, bytes.length % 8⟩ := by
  refine ⟨fun b => ⟨decode_toList order b, Instruction.record_ofRecord order b⟩, fun i => ?_,
    fun bytes => ?_⟩
  · have hsame : Instruction.ofRecord order (i.record order) = i.reduced :=
      (i.ofRecord_record order order).trans (i.ofFields_encode order)
    refine ⟨hsame, ?_, i.ofRecord_opposite_record order⟩
    rw [hsame]
    exact i.reduced_eq_iff
  · exact ⟨exists_decode_eq_ok_iff order bytes, decode_eq_ok_iff order bytes,
      decode_eq_error_iff order bytes⟩

end Program

end DeviceFilter
