import DeviceFilter.Proofs.Program.Flow

/-!
Compiled programs have no dead record and cannot be left at their end. Each block is reached from a
comparison of the block before, and so is the tail; behind a block without comparisons comes neither
a block nor the tail.
-/
set_option autoImplicit false

namespace DeviceFilter

open Machine Compile Program

/-! ## Reaching -/

theorem lies_getElem? {code : Array Instruction} {position k : Nat} {part : Program}
    {i : Instruction} (hcode : Lies code position part) (hi : part[k]? = some i) :
    code[position + k]? = some i := by
  induction part generalizing position k with
  | nil => simp at hi
  | cons j part ih =>
    cases k with
    | zero =>
      cases hi
      exact hcode.1
    | succ k =>
      have hnext := ih hcode.2 hi
      rwa [Nat.add_assoc, Nat.add_comm 1] at hnext

section
variable {p : Program} {position : Nat}

theorem Program.Reachable.succ {i : Instruction} (h : Reachable p position)
    (hi : p[position]? = some i) (hcontrol : i.control = .next ∨ i.control = .branch) :
    Reachable p (position + 1) := by
  refine h.next hi ?_
  rcases hcontrol with hnext | hbranch
  · simp [successors, hnext]
  · simp [successors, hbranch]

theorem reachable_straight {part : Program} (hpart : ∀ i ∈ part, i.control = .next)
    (hcode : Lies p.toArray position part) (h : Reachable p position) {k : Nat}
    (hk : k ≤ part.length) : Reachable p (position + k) := by
  induction k with
  | zero => exact h
  | succ k ih =>
    have hi : part[k]? = some part[k] := List.getElem?_eq_getElem hk
    have hp := lies_getElem? hcode hi
    rw [List.getElem?_toArray] at hp
    exact (ih (Nat.le_of_succ_le hk)).succ hp (.inl (hpart _ (List.getElem_mem hk)))

theorem reachable_linked {r : RuleMatch} (hcode : Lies p.toArray position (linked r))
    (h : Reachable p position) {k : Nat} (hk : k < (linked r).length) :
    Reachable p (position + k) := by
  induction k with
  | zero => exact h
  | succ k ih =>
    have hi : (linked r)[k]? = some (linked r)[k] := List.getElem?_eq_getElem (by omega)
    have hp := lies_getElem? hcode hi
    rw [List.getElem?_toArray] at hp
    refine (ih (by omega)).succ hp ?_
    rcases linked_record hi with ⟨hnext, -⟩ | ⟨hbranch, -⟩ | ⟨-, hlast⟩
    · exact .inl hnext
    · exact .inr hbranch
    · omega

theorem reachable_behind_linked {r : RuleMatch} (hcode : Lies p.toArray position (linked r))
    (h : Reachable p position) (hr : r.isWildcard = false) :
    Reachable p (position + (linked r).length) := by
  obtain ⟨k, i, hi, hbranch⟩ := exists_branch_linked hr
  have hk : k < (linked r).length := (List.getElem?_eq_some_iff.mp hi).1
  have hp := lies_getElem? hcode hi
  rw [List.getElem?_toArray] at hp
  refine (reachable_linked hcode h hk).next hp ?_
  rcases linked_record hi with ⟨hnext, -⟩ | ⟨-, -, -, htarget⟩ | ⟨hstop, -⟩
  · rw [hnext] at hbranch
    cases hbranch
  · rw [← htarget position]
    exact branchTarget_mem_successors (i.isJump_iff_control.mpr (.inr hbranch)) _
  · rw [hstop] at hbranch
    cases hbranch

/-- Block after block is reached, and so is what follows an open end. -/
theorem reachable_blocks {rs : List RuleMatch} (hcut : CutOff rs)
    (hcode : Lies p.toArray position (rs.flatMap linked)) (h : Reachable p position) :
    (∀ k < (rs.flatMap linked).length, Reachable p (position + k)) ∧
      (isClosed rs = false → Reachable p (position + (rs.flatMap linked).length)) := by
  induction rs generalizing position with
  | nil => exact ⟨fun k hk => absurd hk (Nat.not_lt_zero k), fun _ => h⟩
  | cons r rs ih =>
    obtain ⟨hlast, hcut⟩ := hcut
    rw [List.flatMap_cons, lies_append] at hcode
    simp only [List.flatMap_cons, List.length_append]
    by_cases hrs : rs = []
    · subst hrs
      exact ⟨fun k hk => reachable_linked hcode.1 h (by simpa using hk),
        fun hopen => reachable_behind_linked hcode.1 h (by rwa [isClosed_singleton] at hopen)⟩
    · have hbehind := reachable_behind_linked hcode.1 h (hlast.resolve_left hrs)
      obtain ⟨hblocks, hend⟩ := ih hcut hcode.2 hbehind
      constructor
      · intro k hk
        by_cases hfirst : k < (linked r).length
        · exact reachable_linked hcode.1 h hfirst
        · obtain ⟨j, rfl⟩ := Nat.exists_eq_add_of_le (Nat.le_of_not_lt hfirst)
          rw [← Nat.add_assoc]
          exact hblocks j (by omega)
      · intro hopen
        rw [isClosed_cons r hrs] at hopen
        rw [← Nat.add_assoc]
        exact hend hopen

end

theorem Program.branchTarget_add (front position : Nat) (i : Instruction) :
    branchTarget (front + position) i = (front : Int) + branchTarget position i := by
  simp only [branchTarget, Int.natCast_add]
  omega

theorem successors_add (front position : Nat) (i : Instruction) :
    successors (front + position) i = (successors position i).map fun n => (front : Int) + n := by
  cases hcontrol : i.control <;> simp [successors, hcontrol, branchTarget_add, Int.add_assoc]

theorem getElem?_append_add (front tail : Program) (k : Nat) :
    (front ++ tail)[front.length + k]? = tail[k]? := by
  rw [List.getElem?_append_right (Nat.le_add_right _ _), Nat.add_sub_cancel_left]

/-- What is reached in a program is reached in it behind other records, when its start is. -/
theorem reachable_append {front tail : Program} {position : Nat} (h : Reachable tail position)
    (hstart : Reachable (front ++ tail) front.length) :
    Reachable (front ++ tail) (front.length + position) := by
  induction h with
  | start => exact hstart
  | next _ hi hn ih =>
    refine ih.next ((getElem?_append_add front tail _).trans hi) ?_
    rw [successors_add]
    exact List.mem_map.mpr ⟨_, hn, by simp⟩
  | second _ hi hwide ih => exact ih.second ((getElem?_append_add front tail _).trans hi) hwide

/-! ## Successors inside -/

/-- A record of the blocks goes forward, by no more records than a block has, and as far as the end
of the last block only when something may follow it. -/
theorem inside_blocks {rs : List RuleMatch} (hcut : CutOff rs) {position k : Nat} {i : Instruction}
    (hi : (rs.flatMap linked)[k]? = some i) {n : Int} (hn : n ∈ successors (position + k) i) :
    (position + k : Nat) < n ∧ n ≤ (position + k : Nat) + 8 ∧
      n ≤ (position + (rs.flatMap linked).length : Nat) ∧
      (isClosed rs = true → n < (position + (rs.flatMap linked).length : Nat)) := by
  induction rs generalizing position k with
  | nil => simp at hi
  | cons r rs ih =>
    obtain ⟨hlast, hcut⟩ := hcut
    rw [List.flatMap_cons] at hi ⊢
    rw [List.length_append]
    have hsmall := length_linked_le r
    by_cases hk : k < (linked r).length
    · rw [List.getElem?_append_left hk] at hi
      rcases linked_record hi with ⟨hnext, hlt⟩ | ⟨hbranch, hlt, hr, htarget⟩ | ⟨hstop, -⟩
      · have hn' : n = (position + k : Nat) + 1 := by simpa [successors, hnext] using hn
        exact ⟨by omega, by omega, by omega, fun _ => by omega⟩
      · have hn' : n = (position + k : Nat) + 1 ∨ n = (position + (linked r).length : Nat) := by
          rw [← htarget position]
          simpa [successors, hbranch] using hn
        have hclosed : isClosed (r :: rs) = true → 0 < (rs.flatMap linked).length := by
          intro hclosed
          cases rs with
          | nil =>
            rw [isClosed_singleton, hr] at hclosed
            cases hclosed
          | cons r' rs =>
            have hpos := length_linked_pos r'
            rw [List.flatMap_cons, List.length_append]
            omega
        exact ⟨by omega, by omega, by omega, fun h => by have := hclosed h; omega⟩
      · simp [successors, hstop] at hn
    · obtain ⟨j, rfl⟩ := Nat.exists_eq_add_of_le (Nat.le_of_not_lt hk)
      rw [getElem?_append_add] at hi
      rw [← Nat.add_assoc] at hn ⊢
      rw [← Nat.add_assoc]
      have hrs : rs ≠ [] := by
        rintro rfl
        simp at hi
      rw [isClosed_cons r hrs]
      exact ih hcut hi hn

/-! ## The whole program -/

section
variable {tail : Program} {rs : List RuleMatch}

theorem reachable_front (hcut : CutOff rs) (kept : Program) :
    (∀ k < (prologue ++ rs.flatMap linked).length,
        Reachable (prologue ++ rs.flatMap linked ++ kept) k) ∧
      (isClosed rs = false → Reachable (prologue ++ rs.flatMap linked ++ kept)
        (prologue ++ rs.flatMap linked).length) := by
  have hcode := lies_toArray [] (prologue ++ rs.flatMap linked ++ kept)
  rw [List.nil_append, lies_append, lies_append] at hcode
  obtain ⟨⟨hprologue, hblocks⟩, -⟩ := hcode
  have hstraight {k : Nat} (hk : k ≤ prologue.length) :
      Reachable (prologue ++ rs.flatMap linked ++ kept) (0 + k) :=
    reachable_straight (fun i hi => control_of_mem_prologue hi) hprologue .start hk
  obtain ⟨hreach, hend⟩ := reachable_blocks hcut hblocks (hstraight (Nat.le_refl _))
  simp only [List.length_nil, Nat.zero_add] at hstraight hreach hend
  rw [List.length_append]
  refine ⟨fun k hk => ?_, hend⟩
  by_cases hfirst : k ≤ prologue.length
  · exact hstraight hfirst
  · obtain ⟨j, rfl⟩ := Nat.exists_eq_add_of_le (Nat.le_of_not_le hfirst)
    exact hreach j (by omega)

theorem inside_front (hcut : CutOff rs) {k : Nat} {i : Instruction}
    (hi : (prologue ++ rs.flatMap linked)[k]? = some i) {n : Int} (hn : n ∈ successors k i) :
    0 ≤ n ∧ n ≤ (prologue ++ rs.flatMap linked).length ∧
      (isClosed rs = true → n < (prologue ++ rs.flatMap linked).length) := by
  rw [List.length_append]
  by_cases hk : k < prologue.length
  · rw [List.getElem?_append_left hk] at hi
    have hcontrol := control_of_mem_prologue (List.mem_of_getElem? hi)
    have hn' : n = (k : Int) + 1 := by simpa [successors, hcontrol] using hn
    refine ⟨by omega, by omega, fun hclosed => ?_⟩
    cases rs with
    | nil => cases hclosed
    | cons r rs =>
      have hpos := length_linked_pos r
      rw [List.flatMap_cons, List.length_append]
      omega
  · obtain ⟨j, rfl⟩ := Nat.exists_eq_add_of_le (Nat.le_of_not_lt hk)
    rw [getElem?_append_add] at hi
    obtain ⟨hlt, -, hle, hclosed⟩ := inside_blocks hcut hi hn
    exact ⟨by omega, hle, hclosed⟩

theorem keptTail_of_open (h : isClosed rs = false) : keptTail tail rs = tail := by
  simp [keptTail, h]

theorem keptTail_of_closed (h : isClosed rs = true) : keptTail tail rs = [] := by
  simp [keptTail, h]

theorem sealed_layout (htail : tail ≠ []) (hsealed : tail.Sealed) (hcut : CutOff rs) :
    (prologue ++ rs.flatMap linked ++ keptTail tail rs).Sealed := by
  obtain ⟨hfront, hend⟩ := reachable_front hcut (keptTail tail rs)
  have hpos : 0 < tail.length := List.length_pos_iff.mpr htail
  cases hclosed : isClosed rs with
  | true =>
    rw [keptTail_of_closed hclosed, List.append_nil] at hfront ⊢
    constructor
    · exact hfront
    · intro position i hi n hn
      obtain ⟨hnonneg, -, hlt⟩ := inside_front hcut hi hn
      exact ⟨hnonneg, hlt hclosed⟩
  | false =>
    have hlength : (prologue ++ rs.flatMap linked ++ tail).length
        = (prologue ++ rs.flatMap linked).length + tail.length := List.length_append
    have hstart := hend hclosed
    rw [keptTail_of_open hclosed] at hfront hstart ⊢
    constructor
    · intro position hposition
      rw [hlength] at hposition
      by_cases hk : position < (prologue ++ rs.flatMap linked).length
      · exact hfront position hk
      · obtain ⟨j, rfl⟩ := Nat.exists_eq_add_of_le (Nat.le_of_not_lt hk)
        exact reachable_append (hsealed.reachable j (by omega)) hstart
    · intro position i hi n hn
      rw [hlength]
      by_cases hk : position < (prologue ++ rs.flatMap linked).length
      · rw [List.getElem?_append_left hk] at hi
        obtain ⟨hnonneg, hle, -⟩ := inside_front hcut hi hn
        omega
      · obtain ⟨j, rfl⟩ := Nat.exists_eq_add_of_le (Nat.le_of_not_lt hk)
        rw [getElem?_append_add] at hi
        rw [successors_add] at hn
        obtain ⟨m, hm, rfl⟩ := List.mem_map.mp hn
        have hinside := hsealed.inside j i hi m hm
        omega

end

namespace Program

variable {tail p : Program} {rules : List DeviceRule}

/-- In front of a sealed program, valid rules compile. -/
theorem compile_eq_ok {rs : List RuleMatch} (htail : tail ≠ []) (hsealed : tail.Sealed)
    (hrules : rules ≠ []) (hdeciding : deciding rules.reverse = .ok rs) :
    compile tail rules = .ok (prologue ++ rs.flatMap linked ++ keptTail tail rs) := by
  have hp := sealed_layout htail hsealed (cutOff_of_deciding hdeciding)
  rw [compile_of_deciding hrules hdeciding (.inr htail), hp.checkBranches]
  rfl

theorem length_flatMap_linked (label : Label) (rs : List RuleMatch) :
    (rs.flatMap linked).length = (blocks label rs).length := by
  induction rs generalizing label with
  | nil => rfl
  | cons r rs ih =>
    rw [List.flatMap_cons, List.length_append, blocks, List.length_append, ih (label + 1),
      linked, length_link, length_block (label + 1)]

/-- Rules in front of a program without dead records and exits at its end make such a program, and
the branches of their blocks go forward by at most eight records. -/
theorem sealed_compile (htail : tail ≠ []) (hsealed : tail.Sealed)
    (hp : compile tail rules = .ok p) :
    p.Sealed ∧ (∀ order e position, p.runOn order e ≠ .error (.outOfBounds position)) ∧
      ∃ rs, deciding rules.reverse = .ok rs ∧
        ∀ position i, prologue.length ≤ position →
          position < prologue.length + (blocks 0 rs).length → p[position]? = some i →
          i.isJump = true →
          (position : Int) < branchTarget position i ∧ branchTarget position i ≤ position + 8 := by
  by_cases hrules : rules = []
  · subst hrules
    have hp' : tail = p := Except.ok.inj hp
    subst hp'
    exact ⟨hsealed, hsealed.runOn_ne_outOfBounds htail, [], rfl, fun position i hle hlt => by
      simp only [blocks, List.length_nil] at hlt
      omega⟩
  · have hne := compile_ne_nil htail hp
    obtain ⟨rs, hdeciding, rfl⟩ := compile_shape htail hrules hp
    have hcut := cutOff_of_deciding hdeciding
    have hsealed' := sealed_layout htail hsealed hcut
    refine ⟨hsealed', hsealed'.runOn_ne_outOfBounds hne, rs, hdeciding, ?_⟩
    intro position i hle hlt hi hjump
    rw [← length_flatMap_linked 0 rs] at hlt
    obtain ⟨k, rfl⟩ := Nat.exists_eq_add_of_le hle
    rw [List.append_assoc, getElem?_append_add, List.getElem?_append_left (by omega)] at hi
    obtain ⟨hforward, hnear, -⟩ := inside_blocks hcut hi (branchTarget_mem_successors hjump _)
    exact ⟨hforward, hnear⟩

/-- A wide load, and a branch back to it. -/
def looping : Program :=
  [⟨0x18, 0, 0, 0, 1⟩, ⟨0, 0, 0, 0, 0⟩, .jumpNeImm 0 1 (-3), .jumpAlways 0, .exit]

theorem sealed_looping : looping.Sealed := by
  have h1 : Reachable looping 1 := Reachable.start.second (i := ⟨0x18, 0, 0, 0, 1⟩) rfl (by decide)
  have h2 : Reachable looping 2 := h1.next (i := ⟨0, 0, 0, 0, 0⟩) rfl (by decide)
  have h3 : Reachable looping 3 := h2.next (i := .jumpNeImm 0 1 (-3)) rfl (by decide)
  have h4 : Reachable looping 4 := h3.next (i := .jumpAlways 0) rfl (by decide)
  have hinside : ∀ k : Fin looping.length, ∀ n ∈ successors k looping[k],
      0 ≤ n ∧ n < looping.length := by decide
  constructor
  · intro position hposition
    match position, hposition with
    | 0, _ => exact .start
    | 1, _ => exact h1
    | 2, _ => exact h2
    | 3, _ => exact h3
    | 4, _ => exact h4
  · intro position i hi
    obtain ⟨hlt, rfl⟩ := List.getElem?_eq_some_iff.mp hi
    exact hinside ⟨position, hlt⟩

/-- The first comparison of a block with all comparisons goes forward by the eight records. -/
theorem sealed_compile_looping : ∃ p, compile looping
      [⟨true, "b", none, none, "r"⟩, ⟨false, "c", some 4294967295, some 3, "rw"⟩] = .ok p ∧
    p.Sealed ∧ p[6]?.map (branchTarget 6) = some 14 ∧
    ∀ e, p.run e ≠ .error (.outOfBounds p.length) := by
  obtain ⟨p, hp⟩ : ∃ p, compile looping
      [⟨true, "b", none, none, "r"⟩, ⟨false, "c", some 4294967295, some 3, "rw"⟩] = .ok p := ⟨_, rfl⟩
  obtain ⟨hsealed, hends, -⟩ := sealed_compile (by decide) sealed_looping hp
  refine ⟨p, hp, hsealed, ?_, fun e => hends .native e p.length⟩
  cases hp
  decide

end Program

end DeviceFilter
