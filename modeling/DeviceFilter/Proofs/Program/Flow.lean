import DeviceFilter.Proofs.Machine.Control
import DeviceFilter.Proofs.Program.Compiled

/-!
What the records of a compiled program do to the order of execution. A block goes from one record to
the next, its comparisons may lead to its end instead, and its last record stops. It has a
comparison unless its rule compares nothing, and such a rule is the last that is compiled.
-/
set_option autoImplicit false

namespace DeviceFilter

open Machine Program

namespace Compile

open Instruction

theorem control_alu32Imm (op : AluOp) (dst : UInt8) (imm : Int32) :
    (alu32Imm op dst imm).control = .next := by
  have hcode : (alu32Imm op 0 0).control = .next := by cases op <;> decide
  exact (control_congr rfl).trans hcode

theorem control_mov32Reg (dst src : UInt8) : (mov32Reg dst src).control = .next := by
  have hcode : (mov32Reg 0 0).control = .next := by decide
  exact (control_congr rfl).trans hcode

theorem control_jumpNeImm (dst : UInt8) (imm : Int32) (offset : Int16) :
    (jumpNeImm dst imm offset).control = .branch := by
  have hcode : (jumpNeImm 0 0 0).control = .branch := by decide
  exact (control_congr rfl).trans hcode

theorem control_jumpNe32Imm (dst : UInt8) (imm : Int32) (offset : Int16) :
    (jumpNe32Imm dst imm offset).control = .branch := by
  have hcode : (jumpNe32Imm 0 0 0).control = .branch := by decide
  exact (control_congr rfl).trans hcode

theorem control_jumpNeReg (dst src : UInt8) (offset : Int16) :
    (jumpNeReg dst src offset).control = .branch := by
  have hcode : (jumpNeReg 0 0 0).control = .branch := by decide
  exact (control_congr rfl).trans hcode

theorem control_jumpUnless (reg : UInt8) (value : UInt32) :
    (jumpUnless reg value).control = .branch := by
  unfold jumpUnless
  split
  · exact control_jumpNeImm _ _ _
  · exact control_jumpNe32Imm _ _ _

theorem control_exit : exit.control = .stop := by decide

theorem control_of_mem_prologue {i : Instruction} (hi : i ∈ prologue) : i.control = .next := by
  have hall : ∀ i ∈ prologue, i.control = .next := by decide
  exact hall i hi

theorem control_of_mem_comparisons {next : Label} {r : RuleMatch} {q : Pending}
    (hq : q ∈ comparisons next r) :
    q.target = none ∧ q.instruction.control = .next ∨
      q.target = some next ∧ q.instruction.control = .branch := by
  have hall : ∀ q ∈ comparisons next r, q.target = none ∧ q.instruction.control = .next ∨
      q.target = some next ∧ q.instruction.control = .branch :=
    forall_mem_comparisons (fun _ => .inr ⟨rfl, control_jumpNeImm _ _ _⟩)
      (.inl ⟨rfl, control_mov32Reg _ _⟩) (fun _ => .inl ⟨rfl, control_alu32Imm _ _ _⟩)
      (.inr ⟨rfl, control_jumpNeReg _ _ _⟩) (fun _ => .inr ⟨rfl, control_jumpUnless _ _⟩)
      (fun _ => .inr ⟨rfl, control_jumpUnless _ _⟩)
  exact hall q hq

/-- A rule that compares something branches. -/
theorem exists_branch_of_compares (next : Label) {r : RuleMatch} (h : r.isWildcard = false) :
    ∃ q ∈ comparisons next r, q.target = some next := by
  obtain ⟨allow, type, access, major, minor⟩ := r
  cases type with
  | some type =>
    refine ⟨.branch (jumpNeImm register.type type.number.toInt32 0) next, ?_, rfl⟩
    simp [comparisons]
  | none =>
    cases access with
    | some access =>
      refine ⟨.branch (jumpNeReg register.scratch register.access 0) next, ?_, rfl⟩
      simp [comparisons]
    | none =>
      cases major with
      | some major =>
        refine ⟨.branch (jumpUnless register.major major) next, ?_, rfl⟩
        simp [comparisons]
      | none =>
        cases minor with
        | some minor =>
          refine ⟨.branch (jumpUnless register.minor minor) next, ?_, rfl⟩
          simp [comparisons]
        | none => cases h

/-! ## Linked blocks, record by record -/

theorem getElem?_link {after k : Nat} {ps : List Pending} {i : Instruction}
    (hi : (link after ps)[k]? = some i) :
    ∃ q, ps[k]? = some q ∧ i.control = q.instruction.control ∧
      (q.target.isSome = true → i.offset = Int16.ofInt (ps.length - (k + 1) + after : Nat)) := by
  induction ps generalizing k with
  | nil => simp [link] at hi
  | cons q ps ih =>
    cases k with
    | zero =>
      refine ⟨q, rfl, ?_⟩
      have hi' := Option.some.inj hi
      cases htarget : q.target with
      | none =>
        rw [htarget] at hi'
        exact ⟨congrArg Instruction.control hi'.symm, by simp⟩
      | some label =>
        rw [htarget] at hi'
        subst hi'
        exact ⟨rfl, fun _ => by simp⟩
    | succ k =>
      obtain ⟨q', hq', hcontrol, hoffset⟩ := ih hi
      have hlength : (q :: ps).length - (k + 1 + 1) = ps.length - (k + 1) := by
        rw [List.length_cons]
        omega
      exact ⟨q', hq', hcontrol, by rwa [hlength]⟩

theorem linked_eq (r : RuleMatch) :
    linked r = link 2 (comparisons 0 r) ++ answer r.allow := by
  rw [linked, block, link_append, link_plain]
  rfl

theorem length_linked_le (r : RuleMatch) : (linked r).length ≤ 8 := by
  rw [linked, length_link]
  exact length_block_le 0 r

theorem length_linked_pos (r : RuleMatch) : 0 < (linked r).length := by
  rw [linked, length_link]
  exact length_block_pos 0 r

/-- Inside a block a record goes on to the next one, or branches to the end of the block; the last
one stops. -/
theorem linked_record {r : RuleMatch} {k : Nat} {i : Instruction}
    (hi : (linked r)[k]? = some i) :
    (i.control = .next ∧ k + 1 < (linked r).length) ∨
      (i.control = .branch ∧ k + 1 < (linked r).length ∧ r.isWildcard = false ∧
        ∀ position, branchTarget (position + k) i = (position + (linked r).length : Nat)) ∨
      (i.control = .stop ∧ k + 1 = (linked r).length) := by
  have hlength := length_linked r
  have hsmall := length_comparisons_le 0 r
  rw [linked_eq] at hi
  by_cases hk : k < (comparisons 0 r).length
  · rw [List.getElem?_append_left (by rwa [length_link])] at hi
    obtain ⟨q, hq, hcontrol, hoffset⟩ := getElem?_link hi
    have hmem := List.mem_of_getElem? hq
    rcases control_of_mem_comparisons hmem with ⟨-, hnext⟩ | ⟨htarget, hbranch⟩
    · exact .inl ⟨hcontrol.trans hnext, by omega⟩
    · have hr := (target_of_mem_block (List.mem_append_left _ hmem) htarget).2
      refine .inr (.inl ⟨hcontrol.trans hbranch, by omega, hr, fun position => ?_⟩)
      rw [branchTarget, hoffset (by rw [htarget]; rfl), Int16.toInt_ofInt_of_le (by omega) (by omega)]
      omega
  · obtain ⟨j, rfl⟩ := Nat.exists_eq_add_of_le (Nat.le_of_not_lt hk)
    rw [List.getElem?_append_right (by rw [length_link]; omega), length_link,
      Nat.add_sub_cancel_left] at hi
    rcases j with _ | _ | j
    · cases hi
      exact .inl ⟨control_alu32Imm _ _ _, by omega⟩
    · cases hi
      exact .inr (.inr ⟨control_exit, by omega⟩)
    · cases hi

theorem exists_branch_linked {r : RuleMatch} (h : r.isWildcard = false) :
    ∃ (k : Nat) (i : Instruction), (linked r)[k]? = some i ∧ i.control = .branch := by
  obtain ⟨q, hq, htarget⟩ := exists_branch_of_compares 0 h
  obtain ⟨k, hk⟩ := List.mem_iff_getElem?.mp hq
  have hlt : k < (link 2 (comparisons 0 r)).length := by
    rw [length_link]
    exact (List.getElem?_eq_some_iff.mp hk).1
  have hi : (link 2 (comparisons 0 r))[k]? = some _ := List.getElem?_eq_getElem hlt
  obtain ⟨q', hq', hcontrol, -⟩ := getElem?_link hi
  obtain rfl : q = q' := Option.some.inj (hk.symm.trans hq')
  have hlinked : (linked r)[k]? = some (link 2 (comparisons 0 r))[k] := by
    rw [linked_eq, List.getElem?_append_left hlt, hi]
  refine ⟨k, _, hlinked, hcontrol.trans ?_⟩
  rcases control_of_mem_comparisons hq with ⟨hnone, -⟩ | ⟨-, hbranch⟩
  · rw [hnone] at htarget
    cases htarget
  · exact hbranch

/-! ## The rules that are compiled -/

/-- Only the last rule may compare nothing. -/
def CutOff : List RuleMatch → Prop
  | [] => True
  | r :: rs => (rs = [] ∨ r.isWildcard = false) ∧ CutOff rs

theorem cutOff_of_deciding {rules : List DeviceRule} {rs : List RuleMatch}
    (h : deciding rules = .ok rs) : CutOff rs := by
  induction rules generalizing rs with
  | nil =>
    cases h
    trivial
  | cons rule rules ih =>
    obtain ⟨r, -, ⟨-, rfl⟩ | ⟨hr, later, hlater, rfl⟩⟩ := exists_of_deciding_cons h
    · exact ⟨.inl rfl, trivial⟩
    · exact ⟨.inr hr, ih hlater⟩

theorem isClosed_singleton (r : RuleMatch) : isClosed [r] = r.isWildcard := rfl

theorem isClosed_cons (r : RuleMatch) {rs : List RuleMatch} (h : rs ≠ []) :
    isClosed (r :: rs) = isClosed rs := by
  obtain ⟨r', rs', rfl⟩ := List.exists_cons_of_ne_nil h
  exact isClosed_cons_cons r r' rs'

end Compile

end DeviceFilter
