import DeviceFilter.Proofs.Program.Outcome

/-!
Leaving a program whose branches have been tested. The test goes by the code of a record, the
machine by what it finds while it runs, and the two agree on what a branch is: no branch that is
taken leads out. So a run can leave such a program at one place only, behind its last record, and
only by going on from there: from the last record itself, or from a wide load that takes the last
record with it or finds none.
-/
set_option autoImplicit false

namespace DeviceFilter

namespace Machine

open Program

/-- The branch `i` is taken in the state `s`. -/
def Takes (s : State) (i : Instruction) : Prop :=
  ∃ (wide : Bool) (op : JumpOp) (dst src : Fin registerCount),
    i.opClass = (if wide then .jump else .jump32) ∧ i.jumpOp? = some op ∧
    register? i.dst = some dst ∧ register? i.src = some src ∧
    compares op (s.registers.get dst) (jumpOperand s i src) wide = some true

/-- How the program can be left, and the position that is then named. -/
inductive Leaves (code : Array Instruction) (position : Nat) : Nat → Prop where
  | behind : code[position]? = none → Leaves code position position
  | cutOff {i : Instruction} : code[position]? = some i → i.isWideLoad = true →
      code[position + 1]? = none → Leaves code position (position + 1)
  | backward {i : Instruction} : code[position]? = some i → i.isJump = true →
      branchTarget position i < 0 → Leaves code position position

section
variable {order : ByteOrder} {context : List UInt8} {code : Array Instruction}
variable {s : State} {i : Instruction} {dst src : Fin registerCount} {n : Nat}

theorem step_leaves (h : step order context code s = .fault (.outOfBounds n)) :
    Leaves code s.position n := by
  cases hi : code[s.position]? with
  | none =>
    rw [step_of_none hi] at h
    cases h
    exact .behind hi
  | some i =>
    have hdoes : Does code s i (step order context code s) := step_does hi
    rw [h] at hdoes
    cases hdoes with
    | cutOff hwide hsecond => exact .cutOff hi hwide hsecond
    | backward hjump hneg => exact .backward hi hjump hneg

/-- What the machine takes for a branch is one to the test of branches. -/
theorem Takes.isJump (h : Takes s i) : i.isJump = true := by
  obtain ⟨wide, op, dst, src, hclass, hop, -, -, htaken⟩ := h
  have hclass' : i.opClass = .jump ∨ i.opClass = .jump32 := by
    cases wide with
    | true => exact .inl hclass
    | false => exact .inr hclass
  exact isJump_of_compares hclass' hop htaken

theorem Takes.step_eq (h : Takes s i) (hi : code[s.position]? = some i) :
    step order context code s = jumpTo s i true := by
  obtain ⟨wide, op, dst, src, hclass, hop, hd, hr, htaken⟩ := h
  exact step_of_compares order context hi hd hr hclass hop htaken

end

end Machine

namespace Program

open Machine

/-- How control goes on behind the last record: from the last record, or from a wide load that
takes the last record with it or should have had one more. -/
inductive Departs (p : Program) (position : Nat) (i : Instruction) : Outcome → Prop where
  | last {s : State} : position + 1 = p.length → s.position = p.length →
      Departs p position i (.next s)
  | lastTwo {s : State} : i.isWideLoad = true → position + 2 = p.length →
      s.position = p.length → Departs p position i (.next s)
  | cutOff : i.isWideLoad = true → position + 1 = p.length →
      Departs p position i (.fault (.outOfBounds p.length))

section
variable {p : Program} (h : p.checkBranches = .ok ())
variable {order : ByteOrder} {context : List UInt8}
include h

theorem branchTarget_inside {position : Nat} {i : Instruction} (hi : p[position]? = some i)
    (hjump : i.isJump = true) :
    0 ≤ branchTarget position i ∧ branchTarget position i < p.length := by
  have hinside := inside_of_checkBranchesFrom h hi hjump
  rwa [Nat.zero_add] at hinside

/-- A branch that is taken leads to a record of the program. -/
theorem exists_target_of_takes {s : State} {i : Instruction} (hi : p[s.position]? = some i)
    (htakes : Takes s i) :
    ∃ target, target < p.length ∧ (target : Int) = branchTarget s.position i ∧
      step order context p.toArray s = .next { s with position := target } := by
  obtain ⟨hlow, hhigh⟩ := branchTarget_inside h hi htakes.isJump
  have htarget := Int.toNat_of_nonneg hlow
  have hcode : p.toArray[s.position]? = some i := by rwa [List.getElem?_toArray]
  refine ⟨(branchTarget s.position i).toNat, by omega, htarget, ?_⟩
  rw [htakes.step_eq hcode, jumpTo_true htarget]

theorem departs_of_next {s s' : State} (hnext : step order context p.toArray s = .next s')
    (hlength : p.length ≤ s'.position) :
    ∃ i, p[s.position]? = some i ∧ Departs p s.position i (.next s') := by
  obtain ⟨i, hi, hmoves⟩ := step_moves hnext
  rw [List.getElem?_toArray] at hi
  obtain ⟨hlt, -⟩ := List.getElem?_eq_some_iff.mp hi
  refine ⟨i, hi, ?_⟩
  generalize hq : s'.position = q at hmoves hlength
  cases hmoves with
  | succ => exact .last (by omega) (by omega)
  | wide hwide hsize =>
    rw [List.size_toArray] at hsize
    exact .lastTwo hwide (by omega) (by omega)
  | branch hjump htarget =>
    obtain ⟨-, hhigh⟩ := branchTarget_inside h hi hjump
    omega

theorem departs_of_fault {s : State} {n : Nat} (hs : s.position < p.length)
    (hfault : step order context p.toArray s = .fault (.outOfBounds n)) :
    n = p.length ∧ ∃ i, p[s.position]? = some i ∧
      Departs p s.position i (.fault (.outOfBounds p.length)) := by
  have hleaves := step_leaves hfault
  cases hleaves with
  | behind hnone =>
    have hsize := Array.getElem?_eq_none_iff.mp hnone
    rw [List.size_toArray] at hsize
    omega
  | @cutOff i hi hwide hnone =>
    have hsize := Array.getElem?_eq_none_iff.mp hnone
    rw [List.size_toArray] at hsize
    rw [List.getElem?_toArray] at hi
    have hlast : s.position + 1 = p.length := by omega
    exact ⟨hlast, i, hi, .cutOff hwide hlast⟩
  | backward hi hjump hneg =>
    rw [List.getElem?_toArray] at hi
    obtain ⟨hlow, -⟩ := branchTarget_inside h hi hjump
    omega

/-- A run that leaves the program has gone on behind its last record. -/
theorem runFrom_outOfBounds {fuel n : Nat} {s : State} (hs : s.position < p.length)
    (hrun : runFrom order context p.toArray fuel s = .error (.outOfBounds n)) :
    n = p.length ∧ ∃ t i, Reaches order context p.toArray s t ∧ p[t.position]? = some i ∧
      Departs p t.position i (step order context p.toArray t) := by
  induction fuel generalizing s with
  | zero => cases hrun
  | succ fuel ih =>
    rw [runFrom] at hrun
    cases hstep : step order context p.toArray s with
    | answer value =>
      rw [hstep] at hrun
      cases hrun
    | fault f =>
      rw [hstep] at hrun
      cases hrun
      obtain ⟨rfl, i, hi, hdeparts⟩ := departs_of_fault h hs hstep
      exact ⟨rfl, s, i, .refl, hi, hstep ▸ hdeparts⟩
    | next s' =>
      rw [hstep] at hrun
      dsimp only at hrun
      by_cases hinside : s'.position < p.length
      · obtain ⟨hn, t, i, hreaches, hi, hdeparts⟩ := ih hinside hrun
        exact ⟨hn, t, i, (Reaches.single hstep).trans hreaches, hi, hdeparts⟩
      · -- The step that left the program; the next one finds no record.
        obtain ⟨i, hi, hdeparts⟩ := departs_of_next h hstep (Nat.not_lt.mp hinside)
        have hposition : s'.position = p.length := by cases hdeparts <;> assumption
        have hnone : p.toArray[s'.position]? = none := by simp [hposition]
        cases fuel with
        | zero => cases hrun
        | succ fuel =>
          simp only [runFrom, step, hnone] at hrun
          cases hrun
          exact ⟨hposition, s, i, .refl, hi, hstep ▸ hdeparts⟩

theorem not_takes_of_departs {s : State} {i : Instruction} (hi : p[s.position]? = some i)
    (hdeparts : Departs p s.position i (step order context p.toArray s)) : ¬ Takes s i := by
  intro htakes
  obtain ⟨target, hlt, -, hstep⟩ := exists_target_of_takes h hi htakes
  rw [hstep] at hdeparts
  have hposition : target = p.length := by cases hdeparts <;> assumption
  omega

/-- A program whose branches have passed the test is left behind its last record or not at all, and
no branch that is taken leads out of it. -/
theorem leaves_behind_last (order : ByteOrder) (e : Event) :
    (∀ n, p.runOn order e = .error (.outOfBounds n) → n = p.length ∧
      (p = [] ∨ ∃ s i, Reaches order (e.context order) p.toArray initial s ∧
        p[s.position]? = some i ∧ ¬ Takes s i ∧
        Departs p s.position i (step order (e.context order) p.toArray s))) ∧
    ∀ s i, p[s.position]? = some i → Takes s i →
      ∃ target, target < p.length ∧ (target : Int) = branchTarget s.position i ∧
        step order (e.context order) p.toArray s = .next { s with position := target } := by
  constructor
  · intro n hrun
    by_cases hempty : p = []
    · subst hempty
      cases hrun
      exact ⟨rfl, .inl rfl⟩
    · have hstart : initial.position < p.length := List.length_pos_iff.mpr hempty
      obtain ⟨hn, s, i, hreaches, hi, hdeparts⟩ := runFrom_outOfBounds h hstart hrun
      exact ⟨hn, .inr ⟨s, i, hreaches, hi, not_takes_of_departs h hi hdeparts, hdeparts⟩⟩
  · intro s i hi htakes
    exact exists_target_of_takes h hi htakes

end

/-- A branch that is taken, one back to the start that is not, and a wide load without its second
record. -/
def unfinished : Program := [.jumpNe32Imm 1 0 0, .jumpNeImm 0 0 (-2), ⟨0x18, 0, 0, 0, 1⟩]

theorem leaves_behind_last_unfinished :
    unfinished.checkBranches = .ok () ∧
      unfinished.runOn .little ⟨.block, ⟨0⟩, 8, 0⟩ = .error (.outOfBounds 3) ∧
      3 = unfinished.length ∧
      ∃ s i, Reaches .little (Event.context .little ⟨.block, ⟨0⟩, 8, 0⟩) unfinished.toArray
          initial s ∧ unfinished[s.position]? = some i ∧ ¬ Takes s i ∧
        Departs unfinished s.position i
          (step .little (Event.context .little ⟨.block, ⟨0⟩, 8, 0⟩) unfinished.toArray s) := by
  have hbranches : unfinished.checkBranches = .ok () := by decide
  have hrun : unfinished.runOn .little ⟨.block, ⟨0⟩, 8, 0⟩ = .error (.outOfBounds 3) := by decide
  obtain ⟨hlength, hlast⟩ := (leaves_behind_last hbranches .little ⟨.block, ⟨0⟩, 8, 0⟩).1 3 hrun
  exact ⟨hbranches, hrun, hlength, hlast.resolve_left (List.cons_ne_nil _ _)⟩

end Program

end DeviceFilter
