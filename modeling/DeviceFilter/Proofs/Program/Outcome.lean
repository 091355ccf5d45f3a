import DeviceFilter.Proofs.Program.Sealed

/-!
When rules compile. The rules alone decide as far as the search for the deciding ones ends at one of
them: an invalid rule fails, and a rule that answers every event leaves no tail to fail with. Where
the search takes all rules, the tail decides. It must be there, for the last block to go on to, and
its branches must land in it or in what is compiled in front of it.

Labels are never in the way, whatever the number of rules: each comparison goes to the next block.
-/
set_option autoImplicit false

namespace DeviceFilter

/-- The rule is valid and leaves something to compare. -/
def DeviceRule.Compares (rule : DeviceRule) : Prop :=
  ∃ r, rule.validate = .ok r ∧ r.isWildcard = false

/-- Branches land in the program or in the `front` records before it. -/
def Program.LandsFrom (front : Nat) (p : Program) : Prop :=
  ∀ position i, p[position]? = some i → i.isJump = true →
    -(front : Int) ≤ Program.branchTarget position i ∧ Program.branchTarget position i < p.length

/-! ## The test of all branches -/

namespace Program

theorem checkBranchesFrom_append (size position : Nat) (p q : Program) :
    checkBranchesFrom size position (p ++ q) = (do
      checkBranchesFrom size position p
      checkBranchesFrom size (position + p.length) q) := by
  induction p generalizing position with
  | nil => rfl
  | cons i p ih =>
    have hnext : position + (i :: p).length = position + 1 + p.length := by
      rw [List.length_cons]
      omega
    rw [hnext, List.cons_append, checkBranchesFrom, checkBranchesFrom]
    split
    · rfl
    · exact ih (position + 1)

theorem inside_of_checkBranchesFrom {size position : Nat} {p : Program}
    (h : checkBranchesFrom size position p = .ok ()) {k : Nat} {i : Instruction}
    (hi : p[k]? = some i) (hjump : i.isJump = true) :
    0 ≤ branchTarget (position + k) i ∧ branchTarget (position + k) i < size := by
  induction p generalizing position k with
  | nil => simp at hi
  | cons j p ih =>
    rw [checkBranchesFrom] at h
    split at h
    · cases h
    · rename_i hfirst
      cases k with
      | zero =>
        cases hi
        rw [Nat.add_zero]
        by_contra hout
        apply hfirst
        exact ⟨hjump, by omega⟩
      | succ k =>
        have hlater := ih h hi
        rwa [Nat.add_assoc, Nat.add_comm 1] at hlater

/-- The test fails with the branch that it fails at. -/
theorem exists_of_checkBranchesFrom_eq_error {size position : Nat} {p : Program} {d : Defect}
    (h : checkBranchesFrom size position p = .error d) :
    ∃ k i, p[k]? = some i ∧ i.isJump = true ∧
      d = .branchOutside (position + k) (branchTarget (position + k) i) size := by
  induction p generalizing position with
  | nil => cases h
  | cons j p ih =>
    rw [checkBranchesFrom] at h
    split at h
    · rename_i hfirst
      exact ⟨0, j, rfl, hfirst.1, (Except.error.inj h).symm⟩
    · obtain ⟨k, i, hi, hjump, hd⟩ := ih h
      have hposition : position + 1 + k = position + (k + 1) := by omega
      rw [hposition] at hd
      exact ⟨k + 1, i, hi, hjump, hd⟩

/-- Behind `front` records the test of a program is whether its branches land there or in it. -/
theorem checkBranchesFrom_eq_ok_iff {front : Nat} {p : Program} :
    checkBranchesFrom (front + p.length) front p = .ok () ↔ p.LandsFrom front := by
  constructor
  · intro h position i hi hjump
    have hinside := inside_of_checkBranchesFrom h hi hjump
    rw [branchTarget_add] at hinside
    omega
  · intro h
    apply checkBranchesFrom_eq_ok
    intro k i hi hjump
    have hlands := h k i hi hjump
    rw [branchTarget_add]
    omega

theorem LandsFrom.mono {front front' : Nat} {p : Program} (h : p.LandsFrom front)
    (hle : front ≤ front') : p.LandsFrom front' := by
  intro position i hi hjump
  have hlands := h position i hi hjump
  omega

theorem landsFrom_zero_iff {p : Program} : p.LandsFrom 0 ↔ p.checkBranches = .ok () := by
  rw [← checkBranchesFrom_eq_ok_iff, Nat.zero_add]
  rfl

end Program

namespace Compile

open Program

/-! ## Where the search ends -/

/-- The search from the last rule to the first comes to `rule`. -/
def ComesTo (rules : List DeviceRule) (rule : DeviceRule) : Prop :=
  ∃ earlier later, rules = earlier ++ rule :: later ∧ ∀ other ∈ later, other.Compares

theorem exists_comesTo_or_forall (rules : List DeviceRule) :
    (∃ rule, ComesTo rules rule ∧ ¬ rule.Compares) ∨ ∀ rule ∈ rules, rule.Compares := by
  induction rules with
  | nil => exact .inr (List.forall_mem_nil _)
  | cons first rules ih =>
    rcases ih with ⟨rule, ⟨earlier, later, rfl, hlater⟩, hends⟩ | hall
    · exact .inl ⟨rule, ⟨first :: earlier, later, rfl, hlater⟩, hends⟩
    · by_cases hfirst : first.Compares
      · exact .inr (List.forall_mem_cons.mpr ⟨hfirst, hall⟩)
      · exact .inl ⟨first, ⟨[], rules, rfl, hall⟩, hfirst⟩

theorem exists_passed {rules : List DeviceRule} (h : ∀ rule ∈ rules, rule.Compares) :
    ∃ rs, Passed rules rs := by
  induction rules with
  | nil => exact ⟨[], .nil⟩
  | cons rule rules ih =>
    obtain ⟨⟨r, hr⟩, hrules⟩ := List.forall_mem_cons.mp h
    obtain ⟨rs, hrs⟩ := ih hrules
    exact ⟨r :: rs, .cons hr hrs⟩

theorem ComesTo.exists_deciding {rules : List DeviceRule} {rule : DeviceRule}
    (h : ComesTo rules rule) :
    ∃ rs rest, deciding rules.reverse = (deciding (rule :: rest)).map (rs ++ ·) := by
  obtain ⟨earlier, later, rfl, hlater⟩ := h
  have hreversed : ∀ other ∈ later.reverse, other.Compares := by
    intro other hother
    exact hlater other (List.mem_reverse.mp hother)
  obtain ⟨rs, hrs⟩ := exists_passed hreversed
  refine ⟨rs, earlier.reverse, ?_⟩
  rw [List.reverse_append, List.reverse_cons, List.append_assoc, List.singleton_append]
  exact deciding_append hrs _

theorem isClosed_append_singleton (rs : List RuleMatch) (r : RuleMatch) :
    isClosed (rs ++ [r]) = r.isWildcard := by
  simp [isClosed]

theorem isClosed_eq_false {rs : List RuleMatch} (h : ∀ r ∈ rs, r.isWildcard = false) :
    isClosed rs = false := by
  cases hlast : rs.getLast? with
  | none => simp [isClosed, hlast]
  | some r => simp [isClosed, hlast, h r (List.mem_of_getLast? hlast)]

/-- The search ends at an invalid rule, at a rule that answers every event, or behind all rules. -/
theorem search_cases (rules : List DeviceRule) :
    (∃ rule cause, ComesTo rules rule ∧ rule.validate = .error cause) ∨
      (∃ rule r, ComesTo rules rule ∧ rule.validate = .ok r ∧ r.isWildcard = true) ∨
      ∃ rs, Passed rules.reverse rs := by
  rcases exists_comesTo_or_forall rules with ⟨rule, hrule, hends⟩ | hall
  · cases hvalidate : rule.validate with
    | error cause => exact .inl ⟨rule, cause, hrule, hvalidate⟩
    | ok r =>
      cases hr : r.isWildcard with
      | true => exact .inr (.inl ⟨rule, r, hrule, hvalidate, hr⟩)
      | false => exact absurd ⟨r, hvalidate, hr⟩ hends
  · have hreversed : ∀ rule ∈ rules.reverse, rule.Compares := by
      intro rule hrule
      exact hall rule (List.mem_reverse.mp hrule)
    exact .inr (.inr (exists_passed hreversed))

/-! ## The front of a program -/

section
variable {rs : List RuleMatch}

/-- In front of what is kept of the tail, all branches pass the test. -/
theorem checkBranches_layout (hcut : CutOff rs) {kept : Program}
    (hkept : isClosed rs = true ∨ kept ≠ []) :
    checkBranches (prologue ++ rs.flatMap linked ++ kept)
      = checkBranchesFrom ((prologue ++ rs.flatMap linked).length + kept.length)
          (prologue ++ rs.flatMap linked).length kept := by
  have hfront : checkBranchesFrom ((prologue ++ rs.flatMap linked).length + kept.length) 0
      (prologue ++ rs.flatMap linked) = .ok () := by
    apply checkBranchesFrom_eq_ok
    intro k i hi hjump
    rw [Nat.zero_add]
    obtain ⟨hnonneg, hle, hlt⟩ := inside_front hcut hi (branchTarget_mem_successors hjump k)
    rcases hkept with hclosed | hne
    · have := hlt hclosed
      omega
    · have := List.length_pos_iff.mpr hne
      omega
  rw [checkBranches, List.length_append, checkBranchesFrom_append, hfront, Nat.zero_add]
  rfl

/-! ## A last block without a tail -/

theorem blocks_append (label : Label) (rs rs' : List RuleMatch) :
    blocks label (rs ++ rs') = blocks label rs ++ blocks (label + rs.length) rs' := by
  induction rs generalizing label with
  | nil => rfl
  | cons r rs ih =>
    have hlabel : label + (r :: rs).length = label + 1 + rs.length := by
      rw [List.length_cons, Nat.add_assoc, Nat.add_comm 1]
    rw [hlabel, List.cons_append, blocks, blocks, ih, List.append_assoc]

@[simp] theorem length_starts (position : Nat) (rs : List RuleMatch) :
    (starts position rs).length = rs.length + 1 := by
  induction rs generalizing position with
  | nil => rfl
  | cons r rs ih => rw [starts, List.length_cons, ih, List.length_cons]

theorem starts_concat (position : Nat) (label : Label) (rs : List RuleMatch) (r : RuleMatch) :
    starts position (rs ++ [r])
      = starts position rs ++ [position + (blocks label (rs ++ [r])).length] := by
  induction rs generalizing position label with
  | nil => simp [starts, blocks, length_block (label + 1)]
  | cons first rs ih =>
    rw [List.cons_append, starts, starts, ih _ (label + 1), List.cons_append, blocks,
      List.length_append, length_block (label + 1), Nat.add_assoc]

/-- Instructions whose label is bound to the end cannot be resolved, once one of them branches. -/
theorem resolve_pastEnd {labels : Array Nat} {size label target position : Nat} {ps : List Pending}
    (hlabel : labels[label]? = some target) (hsize : size ≤ target)
    (htargets : ∀ q ∈ ps, q.target = none ∨ q.target = some label)
    (hbranch : ∃ q ∈ ps, q.target = some label) :
    resolve labels size position ps = .error (.labelPastEnd label target size) := by
  induction ps generalizing position with
  | nil =>
    obtain ⟨q, hq, -⟩ := hbranch
    cases hq
  | cons p ps ih =>
    obtain ⟨hp, hps⟩ := List.forall_mem_cons.mp htargets
    rw [resolve]
    rcases hp with hplain | hp
    · have hlater : ∃ q ∈ ps, q.target = some label := by
        obtain ⟨q, hq, hlabelled⟩ := hbranch
        rcases List.mem_cons.mp hq with rfl | hq
        · rw [hplain] at hlabelled
          cases hlabelled
        · exact ⟨q, hq, hlabelled⟩
      have hresolved : resolveAt labels size position p = .ok p.instruction := by
        simp only [resolveAt, hplain]
      rw [hresolved, ih hps hlater]
      rfl
    · have hfails : resolveAt labels size position p
          = .error (.labelPastEnd label target size) := by
        simp only [resolveAt, hp, hlabel, hsize, if_true]
      rw [hfails]
      rfl

theorem resolve_last_block {labels : Array Nat} {size target position : Nat} {label : Label}
    {r : RuleMatch} (hr : r.isWildcard = false) (hlabel : labels[label]? = some target)
    (hsize : size ≤ target) :
    resolve labels size position (block label r) = .error (.labelPastEnd label target size) := by
  apply resolve_pastEnd hlabel hsize
  · intro q hq
    cases htarget : q.target with
    | none => exact .inl rfl
    | some other => exact .inr (congrArg some (target_of_mem_block hq htarget).1)
  · obtain ⟨q, hq, htarget⟩ := exists_branch_of_compares label hr
    exact ⟨q, List.mem_append_left _ hq, htarget⟩

/-- The number of records in front of the tail. -/
def frontLength (rs : List RuleMatch) : Nat := prologue.length + (blocks 0 rs).length

theorem length_front (rs : List RuleMatch) :
    (prologue ++ rs.flatMap linked).length = frontLength rs := by
  rw [List.length_append, length_flatMap_linked 0, frontLength]

/-- Without a tail the last block has nowhere to go on to. -/
theorem resolve_layout_nil {rs : List RuleMatch} {r : RuleMatch}
    (h : ∀ r' ∈ rs ++ [r], r'.isWildcard = false) :
    resolve (labels (rs ++ [r])) (layout [] (rs ++ [r])).length 0 (layout [] (rs ++ [r]))
      = .error (.labelPastEnd (rs.length + 1) (frontLength (rs ++ [r]))
          (frontLength (rs ++ [r]))) := by
  obtain ⟨hrs, hr⟩ := List.forall_mem_append.mp h
  have hlayout : layout [] (rs ++ [r])
      = prologue.map .plain ++ blocks 0 rs ++ block (rs.length + 1) r := by
    simp [layout, isClosed_eq_false h, blocks_append, blocks]
  have hsizes : frontLength (rs ++ [r])
      = prologue.length + (blocks 0 rs).length + (block (rs.length + 1) r).length := by
    rw [frontLength, blocks_append]
    simp [blocks, Nat.add_assoc]
  have hsize : (layout [] (rs ++ [r])).length = frontLength (rs ++ [r]) := by
    rw [hlayout, hsizes, List.length_append, List.length_append, List.length_map]
  have hlabels : labels (rs ++ [r])
      = (starts prologue.length rs ++ [frontLength (rs ++ [r])]).toArray := by
    rw [labels_eq, boundStarts, isClosed_eq_false h, starts_concat _ 0]
    rfl
  have hbound : ∀ k start, (boundStarts prologue.length rs)[k]? = some start →
      (labels (rs ++ [r]))[0 + k]? = some start := by
    intro k start hstart
    simp only [boundStarts, isClosed_eq_false hrs, Bool.false_eq_true, if_false] at hstart
    obtain ⟨hk, -⟩ := List.getElem?_eq_some_iff.mp hstart
    rw [hlabels, Nat.zero_add, List.getElem?_toArray, List.getElem?_append_left hk]
    exact hstart
  have hfirst : resolve (labels (rs ++ [r])) (frontLength (rs ++ [r])) prologue.length
      (blocks 0 rs) = .ok (rs.flatMap linked) :=
    resolve_blocks hbound hsizes (.inr (length_block_pos _ r))
  have hlast (position : Nat) : resolve (labels (rs ++ [r])) (frontLength (rs ++ [r])) position
      (block (rs.length + 1) r)
        = .error (.labelPastEnd (rs.length + 1) (frontLength (rs ++ [r]))
            (frontLength (rs ++ [r]))) := by
    apply resolve_last_block (hr r List.mem_cons_self) _ (Nat.le_refl _)
    rw [hlabels, List.getElem?_toArray, List.getElem?_append_right (by simp)]
    simp
  rw [hsize, hlayout, resolve_append, resolve_append, resolve_plain]
  simp only [List.length_map, Nat.zero_add, bind, Except.bind, hfirst, hlast]
  rfl

end

end Compile

namespace Program

open Compile

variable {tail : Program} {rules : List DeviceRule} {rs : List RuleMatch}

/-! ## The three ways of a compilation -/

theorem compile_of_comesTo_invalid {rule : DeviceRule} {cause : RuleError}
    (hrule : ComesTo rules rule) (hcause : rule.validate = .error cause) :
    compile tail rules = .error (.invalidRule cause) := by
  obtain ⟨rs, rest, hdeciding⟩ := hrule.exists_deciding
  rw [deciding_cons_of_invalid hcause] at hdeciding
  exact compile_of_invalid tail hdeciding

theorem compile_of_comesTo_wildcard (tail : Program) {rule : DeviceRule} {r : RuleMatch}
    (hrule : ComesTo rules rule) (hr : rule.validate = .ok r) (hwildcard : r.isWildcard = true) :
    ∃ p, compile tail rules = .ok p := by
  have hrules : rules ≠ [] := by
    rintro rfl
    obtain ⟨earlier, later, hnil, -⟩ := hrule
    simp at hnil
  obtain ⟨rs, rest, hdeciding⟩ := hrule.exists_deciding
  rw [deciding_cons_of_wildcard hr hwildcard] at hdeciding
  have hclosed : isClosed (rs ++ [r]) = true := (isClosed_append_singleton rs r).trans hwildcard
  have hbranches : checkBranches (prologue ++ (rs ++ [r]).flatMap linked ++ []) = .ok () :=
    checkBranches_layout (cutOff_of_deciding hdeciding) (.inl hclosed)
  refine ⟨prologue ++ (rs ++ [r]).flatMap linked ++ [], ?_⟩
  rw [compile_of_deciding hrules hdeciding (.inl hclosed), keptTail_of_closed hclosed, hbranches]
  rfl

theorem compile_nil_of_passed (hrules : rules ≠ [])
    (hrs : Passed rules.reverse rs) :
    compile [] rules
      = .error (.defect (.labelPastEnd rs.length (frontLength rs) (frontLength rs))) := by
  have hresolve : resolve (labels rs) (layout [] rs).length 0 (layout [] rs)
      = .error (.labelPastEnd rs.length (frontLength rs) (frontLength rs)) := by
    rcases rs.eq_nil_or_concat' with rfl | ⟨before, r, rfl⟩
    · cases hrs' : rules.reverse with
      | nil => exact absurd (List.reverse_eq_nil_iff.mp hrs') hrules
      | cons rule rules' =>
        rw [hrs'] at hrs
        cases hrs
    · rw [List.length_append, List.length_singleton]
      exact resolve_layout_nil (hrs.compares)
  simp only [compile, hrules, if_false, hrs.deciding, Except.mapError, bind,
    Except.bind, hresolve]

/-- In front of a tail, passed rules compile or a branch of the tail is the defect. -/
theorem compile_cases_of_passed (hrules : rules ≠ []) (htail : tail ≠ [])
    (hrs : Passed rules.reverse rs) :
    (tail.LandsFrom (frontLength rs) ∧
        compile tail rules = .ok (prologue ++ rs.flatMap linked ++ tail)) ∨
      (¬ tail.LandsFrom (frontLength rs) ∧
        ∃ position target size,
          compile tail rules = .error (.defect (.branchOutside position target size))) := by
  have hopen := isClosed_eq_false hrs.compares
  have hcompile := compile_of_deciding hrules hrs.deciding (.inr htail)
  rw [keptTail_of_open hopen, checkBranches_layout (cutOff_of_deciding hrs.deciding) (.inr htail),
    length_front] at hcompile
  rw [hcompile, ← checkBranchesFrom_eq_ok_iff]
  cases hbranches : checkBranchesFrom (frontLength rs + tail.length) (frontLength rs) tail with
  | ok _ => exact .inl ⟨rfl, rfl⟩
  | error d =>
    obtain ⟨k, i, -, -, rfl⟩ := exists_of_checkBranchesFrom_eq_error hbranches
    exact .inr ⟨nofun, _, _, _, rfl⟩

theorem exists_compile_iff_of_passed (hrules : rules ≠ []) (hrs : Passed rules.reverse rs) :
    (∃ p, compile tail rules = .ok p) ↔ tail ≠ [] ∧ tail.LandsFrom (frontLength rs) := by
  by_cases htail : tail = []
  · subst htail
    simp [compile_nil_of_passed hrules hrs]
  · rcases compile_cases_of_passed hrules htail hrs with ⟨hlands, hp⟩ | ⟨hastray, _, _, _, hd⟩
    · simp [hp, htail, hlands]
    · simp [hd, hastray]

theorem exists_defect_of_passed (hrules : rules ≠ []) (hrs : Passed rules.reverse rs)
    (h : ¬ (tail ≠ [] ∧ tail.LandsFrom (frontLength rs))) :
    ∃ d, compile tail rules = .error (.defect d) := by
  by_cases htail : tail = []
  · subst htail
    exact ⟨_, compile_nil_of_passed hrules hrs⟩
  · rcases compile_cases_of_passed hrules htail hrs with ⟨hlands, -⟩ | ⟨-, _, _, _, hd⟩
    · exact absurd ⟨htail, hlands⟩ h
    · exact ⟨_, hd⟩

theorem exists_front_of_passed {p : Program} (hrules : rules ≠ []) (hrs : Passed rules.reverse rs)
    (hp : compile tail rules = .ok p) :
    ∃ front, p = front ++ tail ∧ front.length = frontLength rs := by
  have htail : tail ≠ [] := ((exists_compile_iff_of_passed hrules hrs).mp ⟨p, hp⟩).1
  rcases compile_cases_of_passed hrules htail hrs with ⟨-, hp'⟩ | ⟨-, _, _, _, hd⟩
  · rw [hp'] at hp
    exact ⟨_, (Except.ok.inj hp).symm, length_front rs⟩
  · rw [hd] at hp
    cases hp

/-- A defect is found only behind rules that are all passed, and lies with the tail: it is empty, or
a branch of it is astray. -/
theorem cases_of_compile_eq_defect {d : Defect} (hrules : rules ≠ [])
    (h : compile tail rules = .error (.defect d)) : ∃ rs, Passed rules.reverse rs ∧
      (tail = [] ∧ d = .labelPastEnd rs.length (frontLength rs) (frontLength rs) ∨
        ¬ tail.LandsFrom (frontLength rs) ∧
          ∃ position target size, d = .branchOutside position target size) := by
  rcases search_cases rules with ⟨rule, cause, hrule, hcause⟩ | ⟨rule, r, hrule, hr, hwildcard⟩ |
    ⟨rs, hrs⟩
  · rw [compile_of_comesTo_invalid hrule hcause] at h
    cases h
  · obtain ⟨p, hp⟩ := compile_of_comesTo_wildcard tail hrule hr hwildcard
    rw [hp] at h
    cases h
  · refine ⟨rs, hrs, ?_⟩
    by_cases htail : tail = []
    · subst htail
      rw [compile_nil_of_passed hrules hrs] at h
      cases h
      exact .inl ⟨rfl, rfl⟩
    · rcases compile_cases_of_passed hrules htail hrs with ⟨-, hp⟩ | ⟨hastray, _, _, _, hd⟩
      · rw [hp] at h
        cases h
      · rw [hd] at h
        cases h
        exact .inr ⟨hastray, _, _, _, rfl⟩

/-- When rules compile in front of a tail, and how they fail. -/
structure CompileOutcome (tail : Program) (rules : List DeviceRule) : Prop where
  search : (∃ rule cause, ComesTo rules rule ∧ rule.validate = .error cause) ∨
    (∃ rule r, ComesTo rules rule ∧ rule.validate = .ok r ∧ r.isWildcard = true) ∨
    ∃ rs, Passed rules.reverse rs
  invalid : ∀ rule cause, ComesTo rules rule → rule.validate = .error cause →
    compile tail rules = .error (.invalidRule cause)
  wildcard : ∀ rule r, ComesTo rules rule → rule.validate = .ok r → r.isWildcard = true →
    ∃ p, compile tail rules = .ok p
  passed : ∀ rs, Passed rules.reverse rs →
    ((∃ p, compile tail rules = .ok p) ↔ tail ≠ [] ∧ tail.LandsFrom (frontLength rs))
  failed : ∀ rs, Passed rules.reverse rs → ¬ (tail ≠ [] ∧ tail.LandsFrom (frontLength rs)) →
    ∃ d, compile tail rules = .error (.defect d)
  front : ∀ rs p, Passed rules.reverse rs → compile tail rules = .ok p →
    ∃ front, p = front ++ tail ∧ front.length = frontLength rs
  bound : ∀ label position, compile tail rules ≠ .error (.defect (.unboundLabel label position))
  near : ∀ offset position, compile tail rules ≠ .error (.defect (.offsetTooLarge offset position))
  harmless : tail ≠ [] → tail.checkBranches = .ok () →
    ∀ d, compile tail rules ≠ .error (.defect d)

/-- The rules decide the result, unless all of them are passed: then it is up to the tail. -/
theorem compile_outcome (tail : Program) (hrules : rules ≠ []) : CompileOutcome tail rules := by
  constructor
  · exact search_cases rules
  · intro rule cause hrule hcause
    exact compile_of_comesTo_invalid hrule hcause
  · intro rule r hrule hr hwildcard
    exact compile_of_comesTo_wildcard tail hrule hr hwildcard
  · intro rs hrs
    exact exists_compile_iff_of_passed hrules hrs
  · intro rs hrs hastray
    exact exists_defect_of_passed hrules hrs hastray
  · intro rs p hrs hp
    exact exists_front_of_passed hrules hrs hp
  · intro label position h
    obtain ⟨_, -, ⟨-, hd⟩ | ⟨-, _, _, _, hd⟩⟩ := cases_of_compile_eq_defect hrules h
    · cases hd
    · cases hd
  · intro offset position h
    obtain ⟨_, -, ⟨-, hd⟩ | ⟨-, _, _, _, hd⟩⟩ := cases_of_compile_eq_defect hrules h
    · cases hd
    · cases hd
  · intro htail hchecked d h
    obtain ⟨rs, -, ⟨hnil, -⟩ | ⟨hastray, -⟩⟩ := cases_of_compile_eq_defect hrules h
    · exact htail hnil
    · apply hastray
      exact (landsFrom_zero_iff.mpr hchecked).mono (Nat.zero_le (frontLength rs))

/-- The rule of a null device. -/
def nullDevice : DeviceRule := ⟨true, "c", some 1, some 3, "rw"⟩

/-- A branch back into the blocks is fine behind them, and a branch beyond the end is not. -/
theorem compile_outcome_backwards :
    checkBranches [.jumpAlways (-3), .exit] = .error (.branchOutside 0 (-2) 2) ∧
      (∃ p, compile [.jumpAlways (-3), .exit] [nullDevice] = .ok p) ∧
      (∃ d, compile [.jumpAlways 1, .exit] [nullDevice] = .error (.defect d)) ∧
      ∃ d, compile [] [nullDevice] = .error (.defect d) := by
  have hrules : [nullDevice] ≠ [] := List.cons_ne_nil _ _
  have hpassed : Passed [nullDevice].reverse [⟨true, some .character, some ⟨6⟩, some 1, some 3⟩] :=
    .cons ⟨rfl, rfl⟩ .nil
  refine ⟨by decide, ?_, ?_, ?_⟩
  · have hbranches : checkBranchesFrom (14 + 2) 14 [.jumpAlways (-3), .exit] = .ok () := by decide
    apply ((compile_outcome _ hrules).passed _ hpassed).mpr
    exact ⟨List.cons_ne_nil _ _, checkBranchesFrom_eq_ok_iff.mp hbranches⟩
  · apply (compile_outcome _ hrules).failed _ hpassed
    rintro ⟨-, hlands⟩
    have hinside := hlands 0 _ rfl (by decide)
    exact absurd hinside.2 (by decide)
  · apply (compile_outcome _ hrules).failed _ hpassed
    rintro ⟨hne, -⟩
    exact hne rfl

end Program

end DeviceFilter
