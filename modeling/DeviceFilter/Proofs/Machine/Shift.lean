import DeviceFilter.Proofs.Machine.Run

/-!
A program behind other instructions. Without backward branches it does there what it does alone,
at positions that are higher by the number of instructions in front.
-/
set_option autoImplicit false

namespace DeviceFilter

namespace Fault

/-- The same fault `n` records later. -/
def shift (n : Nat) : Fault → Fault
  | unsupported position code => unsupported (position + n) code
  | outOfBounds position => outOfBounds (position + n)
  | badAccess position address => badAccess (position + n) address
  | stepLimit => stepLimit

end Fault

namespace Machine

def State.shift (n : Nat) (s : State) : State := { s with position := s.position + n }

@[simp] theorem State.position_shift (n : Nat) (s : State) :
    (s.shift n).position = s.position + n := rfl

@[simp] theorem State.registers_shift (n : Nat) (s : State) :
    (s.shift n).registers = s.registers := rfl

def Outcome.shift (n : Nat) : Outcome → Outcome
  | .next s => .next (s.shift n)
  | .answer value => .answer value
  | .fault f => .fault (f.shift n)

section
variable (n : Nat) (s : State) (i : Instruction) (dst src : Fin registerCount)

theorem State.write_shift (r : Fin registerCount) (value : UInt64) (advance : Nat) :
    (s.shift n).write r value advance = (s.write r value advance).shift n := by
  simp only [State.write, State.shift, State.mk.injEq, and_true]
  omega

theorem stepAlu_shift (wide : Bool) :
    stepAlu (s.shift n) i dst src wide = (stepAlu s i dst src wide).shift n := by
  unfold stepAlu
  cases i.aluOp? with
  | none => rfl
  | some op =>
    simp only [State.write_shift, State.registers_shift]
    cases wide <;> rfl

theorem stepLoad_shift (order : ByteOrder) (context : List UInt8) :
    stepLoad (s.shift n) i dst src order context = (stepLoad s i dst src order context).shift n := by
  simp only [stepLoad, State.write_shift, State.registers_shift]
  split
  · rfl
  · split <;> rfl

theorem stepWideLoad_shift (front tail : Program) :
    stepWideLoad (s.shift front.length) i dst (front ++ tail).toArray
      = (stepWideLoad s i dst tail.toArray).shift front.length := by
  have hget : (front ++ tail)[s.position + front.length + 1]? = tail[s.position + 1]? := by
    rw [List.getElem?_append_right (by omega)]
    congr 1
    omega
  have hnext : s.position + front.length + 1 = s.position + 1 + front.length := by omega
  simp only [stepWideLoad, State.write_shift, List.getElem?_toArray, State.position_shift, hget]
  cases tail[s.position + 1]? with
  | none => simp only [Outcome.shift, Fault.shift, hnext]
  | some high => rfl

theorem jumpTo_shift (taken : Bool) (hforward : 0 ≤ i.offset.toInt) :
    jumpTo (s.shift n) i taken = (jumpTo s i taken).shift n := by
  cases taken with
  | false =>
    rw [jumpTo_false, jumpTo_false]
    simp only [Outcome.shift, State.shift, Outcome.next.injEq, State.mk.injEq, and_true]
    omega
  | true =>
    have htarget : ((Program.branchTarget s.position i).toNat : Int)
        = Program.branchTarget s.position i := by
      rw [Program.branchTarget]
      omega
    have hshifted : (((Program.branchTarget s.position i).toNat + n : Nat) : Int)
        = Program.branchTarget (s.shift n).position i := by
      simp only [Program.branchTarget, State.shift]
      omega
    rw [jumpTo_true htarget, jumpTo_true hshifted]
    rfl

theorem stepJump_shift (wide : Bool) (hclass : i.opClass = .jump ∨ i.opClass = .jump32)
    (hforward : i.isJump = true → 0 ≤ i.offset.toInt) :
    stepJump (s.shift n) i dst src wide = (stepJump s i dst src wide).shift n := by
  cases hop : i.jumpOp? with
  | none => simp only [stepJump, hop]; rfl
  | some op =>
    by_cases hexit : op = .exit
    · subst hexit
      simp only [stepJump, hop]
      rfl
    · have hoperand : jumpOperand (s.shift n) i src = jumpOperand s i src := rfl
      rw [stepJump_eq hop hexit, stepJump_eq hop hexit, hoperand, State.registers_shift]
      cases htaken : compares op (s.registers.get dst) (jumpOperand s i src) wide with
      | none => rfl
      | some taken =>
        exact jumpTo_shift n s i taken (hforward (isJump_of_compares hclass hop htaken))

end

variable {order : ByteOrder} {context : List UInt8}

/-- Behind other instructions, one step of a program without backward branches is the same step at
a higher position. -/
theorem step_append {front tail : Program} (hf : tail.Forward) (s : State) :
    step order context (front ++ tail).toArray (s.shift front.length)
      = (step order context tail.toArray s).shift front.length := by
  have hget : (front ++ tail).toArray[(s.shift front.length).position]?
      = tail.toArray[s.position]? := by
    simp only [State.shift, List.getElem?_toArray]
    rw [List.getElem?_append_right (by omega)]
    congr 1
    omega
  unfold step
  rw [hget]
  cases hi : tail.toArray[s.position]? with
  | none => rfl
  | some i =>
    have hforward := hf i (List.mem_of_getElem? (by simpa using hi))
    simp only
    split
    · split
      · exact stepAlu_shift ..
      · exact stepAlu_shift ..
      · exact stepJump_shift _ _ _ _ _ _ (.inl ‹_›) hforward
      · exact stepJump_shift _ _ _ _ _ _ (.inr ‹_›) hforward
      · split
        · exact stepLoad_shift ..
        · rfl
      · split
        · exact stepWideLoad_shift ..
        · rfl
      · rfl
      · rfl
    · rfl

theorem ends_append (front : Program) {tail : Program} (hf : tail.Forward) {s : State}
    {r : Except Fault UInt64} (h : Ends order context tail.toArray s r) :
    Ends order context (front ++ tail).toArray (s.shift front.length)
      (r.mapError (·.shift front.length)) := by
  induction h with
  | answer h => exact .answer (by rw [step_append hf, h]; rfl)
  | fault h => exact .fault (by rw [step_append hf, h]; rfl)
  | next h _ ih => exact .next (by rw [step_append hf, h]; rfl) ih

end Machine

end DeviceFilter
