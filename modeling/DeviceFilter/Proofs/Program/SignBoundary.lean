import DeviceFilter.Proofs.Program.Compiled

/-!
Comparing device numbers on both sides of the sign bit. A register that a word was loaded into is
compared with a number in 64 bits as long as the operand has no sign to extend, and in 32 bits
beyond. Either way the branch is taken exactly on a difference; in 64 bits it would be taken by
every word if the number has the sign bit.
-/
set_option autoImplicit false

namespace DeviceFilter

namespace Machine

variable (order : ByteOrder) (context : List UInt8) (code : Array Instruction) (s : State)

/-- The branch `i` is taken if `p`; if not, the next record follows. -/
structure BranchesIf (i : Instruction) (p : Prop) : Prop where
  taken : p → ∀ target : Nat, (target : Int) = Program.branchTarget s.position i →
    step order context code s = .next { s with position := target }
  outside : p → Program.branchTarget s.position i < 0 →
    step order context code s = .fault (.outOfBounds s.position)
  passed : ¬ p → step order context code s = .next { s with position := s.position + 1 }

theorem branchesIf_of_step {i : Instruction} {p : Prop} [Decidable p]
    (h : step order context code s = jumpTo s i (decide p)) :
    BranchesIf order context code s i p := by
  constructor
  · intro hp target htarget
    rw [h, decide_eq_true hp, jumpTo_true htarget]
  · intro hp hneg
    rw [h, decide_eq_true hp]
    exact if_pos hneg
  · intro hp
    rw [h, decide_eq_false hp, jumpTo_false]

/-! ## Words -/

/-- A number that fits a word is the extension of that word. -/
theorem toUInt64_toUInt32_of_lt {x : UInt64} (h : x.toNat < 4294967296) :
    x.toUInt32.toUInt64 = x := by
  apply UInt64.toNat_inj.mp
  rw [UInt32.toNat_toUInt64, UInt64.toNat_toUInt32]
  exact Nat.mod_eq_of_lt h

/-- With the sign bit set, the operand of a 64-bit comparison is no word any more. -/
theorem compares_ne_wide_of_le {v : UInt32} (h : 2147483648 ≤ v.toNat) (c : UInt32) :
    compares .ne c.toUInt64 (extended v.toInt32) true = some true := by
  have hdiffer : c.toUInt64 ≠ extended v.toInt32 := by
    intro heq
    have hnat := congrArg UInt64.toNat heq
    have hc := c.toNat_lt
    rw [UInt32.toNat_toUInt64, toNat_extended, if_pos h] at hnat
    omega
  simp [compares, hdiffer]

theorem toInt_toInt32 (v : UInt32) :
    v.toInt32.toInt = if v.toNat < 2147483648 then (v.toNat : Int) else v.toNat - 4294967296 := by
  have hbits : v.toInt32.toInt = v.toBitVec.toInt := rfl
  have hnat : v.toBitVec.toNat = v.toNat := rfl
  rw [hbits, BitVec.toInt_eq_toNat_cond, hnat]
  split <;> split <;> omega

end Machine

namespace Compile

open Machine

/-- The comparison of a device number, with a branch of the given length. -/
def branchUnless (reg : UInt8) (v : UInt32) (offset : Int16) : Instruction :=
  { jumpUnless reg v with offset := offset }

section
variable {reg : UInt8} (hreg : reg.toNat < registerCount) (v : UInt32) (offset : Int16)
include hreg

theorem step_branchUnless (order : ByteOrder) (context : List UInt8) {code : Array Instruction}
    {s : State} (hi : code[s.position]? = some (branchUnless reg v offset))
    (hword : (s.registers[reg.toNat]).toNat < 4294967296) :
    step order context code s
      = jumpTo s (branchUnless reg v offset) (decide ((s.registers[reg.toNat]).toNat ≠ v.toNat)) := by
  have himm := comparesImm_jumpUnless reg v
  have hplaced : ComparesImm (branchUnless reg v offset) (v.toNat < 2147483648) :=
    ⟨himm.source, himm.opClass, himm.op, himm.immediate⟩
  have hdst : register? (branchUnless reg v offset).dst = some ⟨reg.toNat, hreg⟩ := by
    change register? (jumpUnless reg v).dst = _
    rw [dst_jumpUnless]
    exact dif_pos hreg
  have hoperand : (branchUnless reg v offset).imm = v.toInt32 := imm_jumpUnless reg v
  have hread : s.registers.get ⟨reg.toNat, hreg⟩ = (s.registers[reg.toNat]).toUInt32.toUInt64 :=
    (toUInt64_toUInt32_of_lt hword).symm
  have hsame : (s.registers[reg.toNat]).toUInt32.toNat = (s.registers[reg.toNat]).toNat := by
    rw [UInt64.toNat_toUInt32]
    exact Nat.mod_eq_of_lt hword
  apply step_of_compares order context hi hdst hplaced.source hplaced.opClass hplaced.op
  rw [hplaced.jumpOperand_eq, hoperand, hread, compares_ne_extended, ← hsame]
  simp only [ne_eq, UInt32.toNat_inj]

theorem encodable_branchUnless : Program.Encodable [branchUnless reg v offset] := by
  have hsmall : reg < 16 := UInt8.lt_iff_toNat_lt.mpr (Nat.lt_trans hreg (by decide))
  have hregisters : (branchUnless reg v offset).dst < 16 ∧ (branchUnless reg v offset).src < 16 :=
    jumpUnless_registers hsmall v
  intro i hi
  rw [List.mem_singleton.mp hi]
  exact hregisters

/-- Which comparison is made, that its branch is taken exactly if the number in the register is
another one, and that its record is read back. -/
theorem branchUnless_at_sign_boundary :
    (branchUnless reg v offset).jumpOp? = some .ne ∧
      (v.toNat < 2147483648 → (branchUnless reg v offset).opClass = .jump ∧
        (branchUnless reg v offset).imm.toInt = v.toNat) ∧
      (2147483648 ≤ v.toNat → (branchUnless reg v offset).opClass = .jump32 ∧
        (branchUnless reg v offset).imm.toInt = v.toNat - 4294967296 ∧
        ∀ c : UInt32, compares .ne c.toUInt64 (extended (branchUnless reg v offset).imm) true
          = some true) ∧
      (∀ (order : ByteOrder) (context : List UInt8) (code : Array Instruction) (s : State),
        code[s.position]? = some (branchUnless reg v offset) →
        (s.registers[reg.toNat]).toNat < 4294967296 →
        BranchesIf order context code s (branchUnless reg v offset)
          ((s.registers[reg.toNat]).toNat ≠ v.toNat)) ∧
      ∀ order : ByteOrder,
        Program.decode order ((branchUnless reg v offset).encode order)
          = .ok [branchUnless reg v offset] := by
  have himm := comparesImm_jumpUnless reg v
  have hoperand : (branchUnless reg v offset).imm = v.toInt32 := imm_jumpUnless reg v
  have hclass : (branchUnless reg v offset).opClass
      = if decide (v.toNat < 2147483648) = true then .jump else .jump32 := himm.opClass
  refine ⟨himm.op, ?_, ?_, ?_, ?_⟩
  · intro hsmall
    rw [hclass, hoperand, toInt_toInt32, decide_eq_true hsmall, if_pos rfl, if_pos hsmall]
    exact ⟨rfl, rfl⟩
  · intro hlarge
    have hnot : ¬ v.toNat < 2147483648 := Nat.not_lt.mpr hlarge
    rw [hclass, hoperand, toInt_toInt32, decide_eq_false hnot, if_neg hnot]
    exact ⟨rfl, rfl, compares_ne_wide_of_le hlarge⟩
  · intro order context code s hi hword
    have hstep := step_branchUnless hreg v offset order context hi hword
    exact branchesIf_of_step order context code s hstep
  · intro order
    have hencode : (branchUnless reg v offset).encode order
        = Program.encode order [branchUnless reg v offset] := by
      rw [Program.encode, List.flatMap_singleton]
    rw [hencode, Program.decode_encode_of_encodable order (encodable_branchUnless hreg v offset)]

end

/-- A state in which register 4 holds `major`. -/
def boundaryState (major : UInt64) : State :=
  { initial with registers := initial.registers.set 4 major }

/-- Compared with the first number that has the sign bit, that number goes on, and the one before it
branches. -/
theorem branchUnless_at_sign_boundary_first : (4 : UInt8).toNat < registerCount ∧
    step .big [] #[branchUnless 4 0x80000000 5] (boundaryState 0x80000000)
        = .next { boundaryState 0x80000000 with position := 1 } ∧
      step .big [] #[branchUnless 4 0x80000000 5] (boundaryState 0x7FFFFFFF)
        = .next { boundaryState 0x7FFFFFFF with position := 6 } := by
  obtain ⟨-, -, -, hstep, -⟩ := branchUnless_at_sign_boundary
    (show (4 : UInt8).toNat < registerCount by decide) 0x80000000 5
  refine ⟨by decide, ?_, ?_⟩
  · exact (hstep .big [] _ (boundaryState 0x80000000) rfl (by decide)).passed (by decide)
  · exact (hstep .big [] _ (boundaryState 0x7FFFFFFF) rfl (by decide)).taken (by decide) 6
      (by decide)

end Compile

end DeviceFilter
