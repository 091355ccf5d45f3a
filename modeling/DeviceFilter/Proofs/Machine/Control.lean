import DeviceFilter.Proofs.Machine.Run

/-!
Where control can go. What a record does to the order of execution is a matter of its operation code
alone, and its successors are the positions that can come next, inside the program or not. A program
is sealed when all of its records are reachable and all successors lie inside it; no run of such a
program falls off it.
-/
set_option autoImplicit false

namespace DeviceFilter

/-- What a record does to the order of execution. -/
inductive Control where
  | stop
  | goto
  | branch
  /-- The record is the first of two. -/
  | wide
  | next
deriving DecidableEq, Repr

namespace Instruction

def control (i : Instruction) : Control :=
  if i.isJump then if i.opBits = JumpOp.always.bits then .goto else .branch
  else if (i.opClass = .jump ∨ i.opClass = .jump32) ∧ i.opBits = JumpOp.exit.bits then .stop
  else if i.isWideLoad then .wide
  else .next

theorem control_congr {i j : Instruction} (h : i.code = j.code) : i.control = j.control := by
  cases i
  cases j
  cases h
  rfl

theorem isJump_iff_control (i : Instruction) :
    i.isJump = true ↔ i.control = .goto ∨ i.control = .branch := by
  cases hjump : i.isJump with
  | true => by_cases hop : i.opBits = JumpOp.always.bits <;> simp [control, hjump, hop]
  | false =>
    simp only [control, hjump, Bool.false_eq_true, if_false, false_iff]
    split
    · simp
    · split <;> simp

theorem opClass_of_isWideLoad {i : Instruction} (h : i.isWideLoad = true) :
    i.opClass = .load := by
  have hcode : i.code = 0x18 := by simpa [isWideLoad] using h
  rw [opClass, classBits, hcode]
  rfl

theorem isJump_eq_false {i : Instruction} (hjump : i.opClass ≠ .jump)
    (hjump32 : i.opClass ≠ .jump32) : i.isJump = false := by
  simp [isJump, hjump, hjump32]

theorem control_of_isWideLoad {i : Instruction} (h : i.isWideLoad = true) :
    i.control = .wide := by
  have hclass := opClass_of_isWideLoad h
  have hjump : i.isJump = false := isJump_eq_false (by simp [hclass]) (by simp [hclass])
  simp [control, hjump, hclass, h]

theorem control_eq_next {i : Instruction} (hjump : i.opClass ≠ .jump)
    (hjump32 : i.opClass ≠ .jump32) (hload : i.opClass ≠ .load) : i.control = .next := by
  have hwide : i.isWideLoad = false :=
    Bool.eq_false_iff.mpr fun h => hload (opClass_of_isWideLoad h)
  simp [control, isJump_eq_false hjump hjump32, hjump, hjump32, hwide]

end Instruction

namespace Program

/-- The positions that can come after the record `i` at `position`. -/
def successors (position : Nat) (i : Instruction) : List Int :=
  match i.control with
  | .stop => []
  | .goto => [branchTarget position i]
  | .branch => [(position : Int) + 1, branchTarget position i]
  | .wide => [(position : Int) + 2]
  | .next => [(position : Int) + 1]

/-- Reachable from the first record; the second record of a wide load is reached with the first. -/
inductive Reachable (p : Program) : Nat → Prop where
  | start : Reachable p 0
  | next {position n : Nat} {i : Instruction} : Reachable p position → p[position]? = some i →
      (n : Int) ∈ successors position i → Reachable p n
  | second {position : Nat} {i : Instruction} : Reachable p position → p[position]? = some i →
      i.isWideLoad = true → Reachable p (position + 1)

/-- No record is dead, and none leads outside. -/
structure Sealed (p : Program) : Prop where
  reachable : ∀ position < p.length, Reachable p position
  inside : ∀ position i, p[position]? = some i → ∀ n ∈ successors position i, 0 ≤ n ∧ n < p.length

/-- The test of all branches is passed. -/
theorem checkBranchesFrom_eq_ok {size position : Nat} {p : Program}
    (h : ∀ k i, p[k]? = some i → i.isJump = true →
      0 ≤ branchTarget (position + k) i ∧ branchTarget (position + k) i < size) :
    checkBranchesFrom size position p = .ok () := by
  induction p generalizing position with
  | nil => rfl
  | cons i p ih =>
    have hfirst : ¬ (i.isJump = true ∧
        (branchTarget position i < 0 ∨ (size : Int) ≤ branchTarget position i)) := by
      rintro ⟨hjump, hout⟩
      have hinside := h 0 i rfl hjump
      rw [Nat.add_zero] at hinside
      omega
    rw [checkBranchesFrom, if_neg hfirst]
    apply ih
    intro k j hj hjump
    have hlater := h (k + 1) j hj hjump
    rwa [Nat.add_comm k, ← Nat.add_assoc] at hlater

theorem branchTarget_mem_successors {i : Instruction} (h : i.isJump = true) (position : Nat) :
    branchTarget position i ∈ successors position i := by
  rcases i.isJump_iff_control.mp h with hgoto | hbranch
  · simp [successors, hgoto]
  · simp [successors, hbranch]

theorem Sealed.checkBranches {p : Program} (h : p.Sealed) : p.checkBranches = .ok () := by
  apply checkBranchesFrom_eq_ok
  intro k i hi hjump
  rw [Nat.zero_add]
  exact h.inside k i hi _ (branchTarget_mem_successors hjump k)

end Program

namespace Machine

open Program

/-! ## Steps follow the successors -/

/-- An outcome that goes on does so at a successor, and one that falls off the program has a
successor outside. -/
def Follows (size position : Nat) (i : Instruction) : Outcome → Prop
  | .next s => (s.position : Int) ∈ successors position i
  | .fault (.outOfBounds _) => ∃ n ∈ successors position i, n < 0 ∨ (size : Int) ≤ n
  | _ => True

theorem Does.follows {code : Array Instruction} {s : State} {i : Instruction} {o : Outcome}
    (h : Does code s i o) : Follows code.size s.position i o := by
  cases h with
  | write value hd hclass =>
    have hnext : i.control = .next := by
      rcases hclass with h | h | h <;> exact Instruction.control_eq_next (by simp [h]) (by simp [h])
        (by simp [h])
    have hmem : ((s.position + 1 : Nat) : Int) ∈ successors s.position i := by
      simp [successors, hnext]
    exact hmem
  | wide value hd hwide hsize =>
    have hmem : ((s.position + 2 : Nat) : Int) ∈ successors s.position i := by
      simp [successors, Instruction.control_of_isWideLoad hwide]
    exact hmem
  | pass hjump hop =>
    have hbranch : i.control = .branch := by simp [Instruction.control, hjump, hop]
    have hmem : ((s.position + 1 : Nat) : Int) ∈ successors s.position i := by
      simp [successors, hbranch]
    exact hmem
  | branch hjump htarget =>
    have hmem := branchTarget_mem_successors hjump s.position
    rw [← htarget] at hmem
    exact hmem
  | answer => trivial
  | unsupported => trivial
  | badAccess => trivial
  | cutOff hwide hsecond =>
    have hmem : (s.position : Int) + 2 ∈ successors s.position i := by
      simp [successors, Instruction.control_of_isWideLoad hwide]
    have hsize := Array.getElem?_eq_none_iff.mp hsecond
    exact ⟨_, hmem, .inr (by omega)⟩
  | backward hjump hneg => exact ⟨_, branchTarget_mem_successors hjump s.position, .inl hneg⟩

theorem step_follows (order : ByteOrder) (context : List UInt8) {code : Array Instruction}
    {s : State} {i : Instruction} (hi : code[s.position]? = some i) :
    Follows code.size s.position i (step order context code s) :=
  (step_does hi).follows

end Machine

/-! ## Sealed programs -/

open Machine

theorem Program.Sealed.runFrom_ne_outOfBounds {p : Program} (h : p.Sealed) (order : ByteOrder)
    (context : List UInt8) (fuel : Nat) {s : State} (hs : s.position < p.length) (position : Nat) :
    runFrom order context p.toArray fuel s ≠ .error (.outOfBounds position) := by
  induction fuel generalizing s with
  | zero => simp [runFrom]
  | succ fuel ih =>
    obtain ⟨i, hi⟩ : ∃ i, p[s.position]? = some i := ⟨p[s.position], List.getElem?_eq_getElem hs⟩
    have hinside := h.inside s.position i hi
    have hcode : p.toArray[s.position]? = some i := by simpa using hi
    have hfollows := step_follows order context hcode
    rw [runFrom]
    cases hstep : step order context p.toArray s with
    | answer value => simp
    | next s' =>
      rw [hstep] at hfollows
      have hnext := hinside _ hfollows
      exact ih (by omega)
    | fault f =>
      rw [hstep] at hfollows
      rintro ⟨rfl⟩
      obtain ⟨n, hn, hout⟩ := hfollows
      have hn' := hinside n hn
      rw [List.size_toArray] at hout
      omega

/-- No event makes a sealed program fall off its end. -/
theorem Program.Sealed.runOn_ne_outOfBounds {p : Program} (h : p.Sealed) (hne : p ≠ [])
    (order : ByteOrder) (e : Event) (position : Nat) :
    p.runOn order e ≠ .error (.outOfBounds position) :=
  h.runFrom_ne_outOfBounds order _ _ (List.length_pos_iff.mpr hne) position

end DeviceFilter
