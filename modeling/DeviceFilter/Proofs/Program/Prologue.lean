import DeviceFilter.Bytes.Lemmas
import DeviceFilter.Proofs.Machine.Steps
import DeviceFilter.Program.Compile

/-!
The event in the registers. Compiled programs work in registers 2 to 6, expect the others as they
are at the start, and keep it so; `Holds` says that the working registers hold the parts of an
event. The prologue brings them there, whatever the registers held before, on hosts of either byte
order.
-/
set_option autoImplicit false

namespace DeviceFilter

namespace Machine

/-- The records of `p` lie in `code` from `position` on. -/
def Lies (code : Array Instruction) : Nat → Program → Prop
  | _, [] => True
  | position, i :: p => code[position]? = some i ∧ Lies code (position + 1) p

theorem lies_append {code : Array Instruction} {position : Nat} {p q : Program} :
    Lies code position (p ++ q) ↔
      Lies code position p ∧ Lies code (position + p.length) q := by
  induction p generalizing position with
  | nil => simp [Lies]
  | cons i p ih =>
    have hnext : position + (p.length + 1) = position + 1 + p.length := by omega
    simp only [List.cons_append, Lies, ih, List.length_cons, hnext, and_assoc]

theorem lies_toArray (front p : Program) : Lies (front ++ p).toArray front.length p := by
  induction p generalizing front with
  | nil => trivial
  | cons i p ih =>
    refine ⟨by simp, ?_⟩
    have h := ih (front ++ [i])
    rwa [List.append_assoc, List.length_append] at h

/-- The registers that compiled programs do not work in are as at the start. -/
def Clean (rs : Registers) : Prop :=
  ∀ r : Fin registerCount, r.val < 2 ∨ 6 < r.val → rs.get r = initial.registers.get r

theorem clean_initial : Clean initial.registers := fun _ _ => rfl

theorem Clean.context {rs : Registers} (h : Clean rs) : rs[(1 : Fin registerCount)] = contextBase :=
  h 1 (.inl (by decide))

theorem get_set_self (rs : Registers) (d : Fin registerCount) (value : UInt64) :
    (rs.set d value d.isLt).get d = value :=
  Vector.getElem_set_self ..

theorem get_set_ne (rs : Registers) {d r : Fin registerCount} (h : d ≠ r) (value : UInt64) :
    (rs.set d value d.isLt).get r = rs.get r := by
  have hne : d.val ≠ r.val := fun hv => h (Fin.ext hv)
  exact Vector.getElem_set_ne _ _ hne

theorem Clean.set {rs : Registers} (h : Clean rs) {d : Fin registerCount}
    (hd : 2 ≤ d.val ∧ d.val ≤ 6) (value : UInt64) : Clean (rs.set d value d.isLt) := by
  intro r hr
  have hne : d ≠ r := by
    rintro rfl
    omega
  rw [get_set_ne rs hne]
  exact h r hr

/-- The working registers hold the event. -/
structure Holds (e : Event) (rs : Registers) : Prop where
  clean : Clean rs
  type : rs[(2 : Fin registerCount)] = e.type.number.toUInt64
  access : rs[(3 : Fin registerCount)] = e.access.bits.toUInt64
  major : rs[(4 : Fin registerCount)] = e.major.toUInt64
  minor : rs[(5 : Fin registerCount)] = e.minor.toUInt64

theorem Holds.set_scratch {e : Event} {rs : Registers} (h : Holds e rs) (value : UInt64) :
    Holds e (rs.set 6 value) where
  clean := h.clean.set (d := 6) (by decide) value
  type := (get_set_ne rs (d := 6) (by decide) value).trans h.type
  access := (get_set_ne rs (d := 6) (by decide) value).trans h.access
  major := (get_set_ne rs (d := 6) (by decide) value).trans h.major
  minor := (get_set_ne rs (d := 6) (by decide) value).trans h.minor

end Machine

/-! ## The event record -/

namespace Event

variable (order : ByteOrder) (e : Event)

theorem value_word (v : UInt32) : order.value (order.bytes 4 v.toNat) = v.toNat := by
  rw [ByteOrder.value_bytes]
  exact Nat.mod_eq_of_lt v.toNat_lt

theorem accessType_in_context :
    order.value (((e.context order).drop 0).take 4) = e.accessType.toNat := by
  rw [List.drop_zero, context, List.append_assoc, List.take_left' (by simp), value_word]

theorem major_in_context :
    order.value (((e.context order).drop 4).take 4) = e.major.toNat := by
  rw [context, List.append_assoc, List.drop_left' (by simp), List.take_left' (by simp), value_word]

theorem minor_in_context :
    order.value (((e.context order).drop 8).take 4) = e.minor.toNat := by
  rw [context, List.drop_left' (by simp), List.take_of_length_le (by simp), value_word]

variable {e}

/-- The access modes lie above the type without touching it. -/
theorem toNat_accessType (he : e.access.bits.toNat < 65536) :
    e.accessType.toNat = e.access.bits.toNat * 65536 + e.type.number.toNat := by
  have hnumber : e.type.number.toNat < 2 ^ 16 := by cases e.type <;> decide
  have hshift : e.access.bits.toNat <<< 16 % 2 ^ 32 = e.access.bits.toNat <<< 16 := by
    rw [Nat.shiftLeft_eq]
    omega
  have hsixteen : (16 : UInt32).toNat % 32 = 16 := rfl
  rw [accessType, UInt32.toNat_or, UInt32.toNat_shiftLeft, hsixteen, hshift,
    ← Nat.shiftLeft_add_eq_or_of_lt hnumber, Nat.shiftLeft_eq]

theorem accessType_and (he : e.access.bits.toNat < 65536) :
    e.accessType &&& 0xFFFF = e.type.number := by
  have hnumber : e.type.number.toNat < 65536 := by cases e.type <;> decide
  have hmask : (0xFFFF : UInt32).toNat = 2 ^ 16 - 1 := rfl
  apply UInt32.toNat_inj.mp
  rw [UInt32.toNat_and, hmask, Nat.and_two_pow_sub_one_eq_mod, toNat_accessType he]
  omega

theorem accessType_shift (he : e.access.bits.toNat < 65536) :
    e.accessType >>> 16 = e.access.bits := by
  have hnumber : e.type.number.toNat < 65536 := by cases e.type <;> decide
  have hsixteen : (16 : UInt32).toNat % 32 = 16 := rfl
  apply UInt32.toNat_inj.mp
  rw [UInt32.toNat_shiftRight, hsixteen, Nat.shiftRight_eq_div_pow, toNat_accessType he]
  omega

end Event

/-! ## The prologue -/

namespace Machine

open Compile Instruction

variable (order : ByteOrder) {code : Array Instruction}

/-- From clean registers the prologue leads to registers that hold the event. -/
theorem reaches_prologue {e : Event} (he : e.access.bits.toNat < 65536) {rs : Registers}
    (hclean : Clean rs) (hcode : Lies code 0 prologue) :
    ∃ rs', Holds e rs' ∧ Reaches order (e.context order) code ⟨0, rs⟩ ⟨prologue.length, rs'⟩ := by
  obtain ⟨h0, h1, h2, h3, h4, h5, -⟩ := hcode
  let r1 := rs.set (2 : Fin registerCount) e.accessType.toUInt64
  let r2 := r1.set (2 : Fin registerCount) e.type.number.toUInt64
  let r3 := r2.set (3 : Fin registerCount) e.accessType.toUInt64
  let r4 := r3.set (3 : Fin registerCount) e.access.bits.toUInt64
  let r5 := r4.set (4 : Fin registerCount) e.major.toUInt64
  let r6 := r5.set (5 : Fin registerCount) e.minor.toUInt64
  have c1 : Clean r1 := hclean.set (by decide) _
  have c2 : Clean r2 := c1.set (by decide) _
  have c3 : Clean r3 := c2.set (by decide) _
  have c4 : Clean r4 := c3.set (by decide) _
  have c5 : Clean r5 := c4.set (by decide) _
  have c6 : Clean r6 := c5.set (by decide) _
  have s0 := step_loadWord order (e.context order) (s := ⟨0, rs⟩) (d := 2) h0 (by decide) (by decide) hclean.context
    (by decide) (by decide) (Event.accessType_in_context order e)
  have hmask : code[1]? = some (and32Imm register.type (0xFFFF : UInt32).toInt32) := h1
  have s1 := step_and32Imm order (e.context order) (s := ⟨1, r1⟩) (d := 2) hmask (by decide)
    (get_set_self ..)
  have s2 := step_loadWord order (e.context order) (s := ⟨2, r2⟩) (d := 3) h2 (by decide) (by decide) c2.context
    (by decide) (by decide) (Event.accessType_in_context order e)
  have s3 := step_rsh32Imm_sixteen order (e.context order) (s := ⟨3, r3⟩)
    (d := 3) h3 (by decide) (get_set_self ..)
  have s4 := step_loadWord order (e.context order) (s := ⟨4, r4⟩) (d := 4) h4 (by decide) (by decide) c4.context
    (by decide) (by decide) (Event.major_in_context order e)
  have s5 := step_loadWord order (e.context order) (s := ⟨5, r5⟩) (d := 5) h5 (by decide) (by decide) c5.context
    (by decide) (by decide) (Event.minor_in_context order e)
  rw [Event.accessType_and he] at s1
  rw [Event.accessType_shift he] at s3
  have later4 {r : Fin registerCount} (h4 : (4 : Fin registerCount) ≠ r)
      (h5 : (5 : Fin registerCount) ≠ r) : r6[r] = r4[r] :=
    (get_set_ne r5 h5 _).trans (get_set_ne r4 h4 _)
  have later2 {r : Fin registerCount} (h3 : (3 : Fin registerCount) ≠ r) : r4[r] = r2[r] :=
    (get_set_ne r3 h3 _).trans (get_set_ne r2 h3 _)
  have hholds : Holds e r6 :=
    { clean := c6
      type := (later4 (by decide) (by decide)).trans <|
        (later2 (by decide)).trans (get_set_self ..)
      access := (later4 (by decide) (by decide)).trans (get_set_self ..)
      major := (get_set_ne r5 (d := 5) (by decide) _).trans (get_set_self ..)
      minor := get_set_self .. }
  refine ⟨r6, hholds, ?_⟩
  exact (Reaches.single s0).trans <| (Reaches.single s1).trans <| (Reaches.single s2).trans <|
    (Reaches.single s3).trans <| (Reaches.single s4).trans <| Reaches.single s5

end Machine

end DeviceFilter
