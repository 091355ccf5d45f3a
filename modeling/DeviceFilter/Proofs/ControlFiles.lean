import DeviceFilter.ControlFiles
import DeviceFilter.Proofs.Counted
import DeviceFilter.Proofs.Files.Growth
import DeviceFilter.Proofs.Rule.Validated

/-!
What writing rules to control files leaves behind. Rules are written up to the first that is
refused, because it is invalid or because its file cannot be opened. Each file then ends in the
lines of the rules before that one which go to it, in their order, and nothing else has changed.
-/
set_option autoImplicit false

namespace DeviceFilter.ControlFiles

open FileTree

variable {t u : FileTree} {cgroup : Path} {rule : DeviceRule} {rules : List DeviceRule}
  {added : Place → List UInt8} {cause : ControlError}

/-- The file system of the state. -/
abbrev memory : FileAccess (StateM FileTree) := files

/-! ## One rule -/

def controlFile (cgroup : Path) (allow : Bool) : Path := cgroup.join (fileName allow)

/-- The rule is valid and its control file is there. -/
def Writable (t : FileTree) (cgroup : Path) (rule : DeviceRule) : Prop :=
  (∃ r, rule.validate = .ok r) ∧ ∃ file, t.openFile (controlFile cgroup rule.allow) = .ok file

inductive Refused (t : FileTree) (cgroup : Path) (rule : DeviceRule) : ControlError → Prop where
  | invalid {cause : RuleError} : rule.validate = .error cause →
      Refused t cgroup rule (.invalidRule cause)
  | missing {r : RuleMatch} {cause : SystemError} : rule.validate = .ok r →
      t.openFile (controlFile cgroup rule.allow) = .error cause →
      Refused t cgroup rule (.unwritable (controlFile cgroup rule.allow) cause)

/-- The line of a valid rule. -/
def line (rule : DeviceRule) : List UInt8 :=
  match rule.validate with
  | .ok r => Utf8.encode r.controlLine
  | .error _ => []

/-- Whether the control file for the rule's verdict is the file at this place. -/
def goesTo (t : FileTree) (cgroup : Path) (place : Place) (rule : DeviceRule) : Bool :=
  match t.openFile (controlFile cgroup rule.allow) with
  | .ok file => file.1 == place
  | .error _ => false

/-- What rules add to the file at a place. -/
def linesAt (t : FileTree) (cgroup : Path) (rules : List DeviceRule) (place : Place) : List UInt8 :=
  (rules.filter (goesTo t cgroup place)).flatMap line

theorem linesAt_cons (t : FileTree) (cgroup : Path) (rule : DeviceRule) (rules : List DeviceRule)
    (place : Place) :
    linesAt t cgroup (rule :: rules) place
      = linesAt t cgroup [rule] place ++ linesAt t cgroup rules place := by
  rw [linesAt, linesAt, linesAt, ← List.flatMap_append, ← List.filter_append,
    List.singleton_append]

theorem append_apply (path : Path) (bytes : List UInt8) (t : FileTree) :
    memory.append path bytes t =
      match t.openFile path with
      | .ok (place, old) => (.ok (), t.put place (.file (old ++ bytes)))
      | .error e => (.error e, t) := by
  have hget : (getThe FileTree : StateM FileTree FileTree) t = (t, t) := rfl
  dsimp only [memory, files]
  rw [Counted.bind_apply, hget, append_eq]
  cases t.openFile path with
  | ok file => rfl
  | error e => rfl

theorem addRule_adds (t : FileTree) (cgroup : Path) (rule : DeviceRule) :
    (∃ cause, Refused t cgroup rule cause ∧ addRule memory cgroup rule t = (.error cause, t)) ∨
      Writable t cgroup rule ∧
        ∃ u, addRule memory cgroup rule t = (.ok (), u) ∧ Grown (linesAt t cgroup [rule]) t u := by
  cases hvalid : rule.validate with
  | error cause =>
    refine .inl ⟨_, .invalid hvalid, ?_⟩
    rw [addRule, hvalid]
    rfl
  | ok r =>
    have hadd : addRule memory cgroup rule t =
        ((memory.append (controlFile cgroup rule.allow) (line rule) t).1.mapError
            (.unwritable (controlFile cgroup rule.allow)),
          (memory.append (controlFile cgroup rule.allow) (line rule) t).2) := by
      rw [addRule, line, hvalid, ← DeviceRule.allow_of_validate hvalid]
      rfl
    rw [append_apply] at hadd
    cases hfile : t.openFile (controlFile cgroup rule.allow) with
    | error cause =>
      rw [hfile] at hadd
      exact .inl ⟨_, .missing hvalid hfile, hadd⟩
    | ok file =>
      rw [hfile] at hadd
      refine .inr ⟨⟨⟨r, hvalid⟩, file, hfile⟩, _, hadd, ?_⟩
      have hlines : linesAt t cgroup [rule] =
          fun place => if file.1 = place then line rule else [] := by
        funext place
        by_cases hplace : file.1 = place <;> simp [linesAt, goesTo, hfile, hplace]
      rw [hlines]
      exact grown_put (node?_of_openFile hfile) (line rule)

/-! ## Rules in order -/

theorem goesTo_of_grown (h : Grown added t u) (cgroup : Path) (place : Place) (rule : DeviceRule) :
    goesTo u cgroup place rule = goesTo t cgroup place rule := by
  rw [goesTo, goesTo, h.openFile_eq]
  cases t.openFile (controlFile cgroup rule.allow) with
  | ok file => rfl
  | error e => rfl

theorem Writable.of_grown (h : Grown added t u) (hrule : Writable u cgroup rule) :
    Writable t cgroup rule := by
  obtain ⟨hvalid, file, hfile⟩ := hrule
  exact ⟨hvalid, h.exists_openFile hfile⟩

theorem Refused.of_grown (h : Grown added t u) (hrule : Refused u cgroup rule cause) :
    Refused t cgroup rule cause := by
  cases hrule with
  | invalid hvalid => exact .invalid hvalid
  | missing hvalid hfile => exact .missing hvalid (h.openFile_eq_error hfile)

/-- `before` are the rules up to the first that is refused, and the result says whether one is. -/
inductive WritesUpTo (t : FileTree) (cgroup : Path) :
    List DeviceRule → List DeviceRule → Except ControlError Unit → Prop where
  | all {rules : List DeviceRule} : (∀ rule ∈ rules, Writable t cgroup rule) →
      WritesUpTo t cgroup rules rules (.ok ())
  | refused {before after : List DeviceRule} {rule : DeviceRule} {cause : ControlError} :
      (∀ rule ∈ before, Writable t cgroup rule) → Refused t cgroup rule cause →
      WritesUpTo t cgroup (before ++ rule :: after) before (.error cause)

theorem WritesUpTo.cons {before : List DeviceRule} {result : Except ControlError Unit}
    (hrule : Writable t cgroup rule) (h : WritesUpTo t cgroup rules before result) :
    WritesUpTo t cgroup (rule :: rules) (rule :: before) result := by
  cases h with
  | all hall => exact .all (List.forall_mem_cons.mpr ⟨hrule, hall⟩)
  | refused hbefore hrefused =>
    exact .refused (List.forall_mem_cons.mpr ⟨hrule, hbefore⟩) hrefused

theorem WritesUpTo.of_grown {before : List DeviceRule} {result : Except ControlError Unit}
    (hgrown : Grown added t u) (h : WritesUpTo u cgroup rules before result) :
    WritesUpTo t cgroup rules before result := by
  cases h with
  | all hall => exact .all fun rule hrule => (hall rule hrule).of_grown hgrown
  | refused hbefore hrefused =>
    exact .refused (fun rule hrule => (hbefore rule hrule).of_grown hgrown)
      (hrefused.of_grown hgrown)

theorem Writable.not_refused (h : Writable t cgroup rule) : ¬ Refused t cgroup rule cause := by
  obtain ⟨⟨r, hvalid⟩, file, hfile⟩ := h
  intro hrefused
  cases hrefused with
  | invalid herror => cases hvalid.symm.trans herror
  | missing _ herror => cases hfile.symm.trans herror

theorem Refused.unique {cause' : ControlError} (h : Refused t cgroup rule cause)
    (h' : Refused t cgroup rule cause') : cause = cause' := by
  cases h with
  | invalid hvalid =>
    cases h' with
    | invalid hvalid' =>
      cases hvalid.symm.trans hvalid'
      rfl
    | missing hvalid' => cases hvalid.symm.trans hvalid'
  | missing hvalid hfile =>
    cases h' with
    | invalid hvalid' => cases hvalid.symm.trans hvalid'
    | missing _ hfile' =>
      cases hfile.symm.trans hfile'
      rfl

theorem WritesUpTo.head {before : List DeviceRule} {result : Except ControlError Unit}
    (h : WritesUpTo t cgroup (rule :: rules) before result) :
    (∃ cause, Refused t cgroup rule cause ∧ before = [] ∧ result = .error cause) ∨
      Writable t cgroup rule ∧
        ∃ tail, before = rule :: tail ∧ WritesUpTo t cgroup rules tail result := by
  generalize hrules : rule :: rules = all at h
  cases h with
  | all hall =>
    subst hrules
    obtain ⟨hrule, hrest⟩ := List.forall_mem_cons.mp hall
    exact .inr ⟨hrule, rules, rfl, .all hrest⟩
  | @refused before after first cause hbefore hrefused =>
    cases before with
    | nil =>
      cases hrules
      exact .inl ⟨cause, hrefused, rfl, rfl⟩
    | cons other tail =>
      cases hrules
      obtain ⟨hrule, htail⟩ := List.forall_mem_cons.mp hbefore
      exact .inr ⟨hrule, tail, rfl, .refused htail hrefused⟩

theorem WritesUpTo.of_nil {before : List DeviceRule} {result : Except ControlError Unit}
    (h : WritesUpTo t cgroup [] before result) : before = [] ∧ result = .ok () := by
  generalize hrules : ([] : List DeviceRule) = all at h
  cases h with
  | all =>
    subst hrules
    exact ⟨rfl, rfl⟩
  | refused =>
    exact absurd hrules.symm (List.append_ne_nil_of_right_ne_nil _ (List.cons_ne_nil _ _))

/-- Which rules are written and with what result is settled by the tree. -/
theorem WritesUpTo.unique {before before' : List DeviceRule}
    {result result' : Except ControlError Unit} (h : WritesUpTo t cgroup rules before result)
    (h' : WritesUpTo t cgroup rules before' result') : before = before' ∧ result = result' := by
  induction rules generalizing before before' with
  | nil =>
    obtain ⟨rfl, rfl⟩ := h.of_nil
    obtain ⟨rfl, rfl⟩ := h'.of_nil
    exact ⟨rfl, rfl⟩
  | cons rule rules ih =>
    rcases h.head with ⟨cause, hrefused, rfl, rfl⟩ | ⟨hrule, tail, rfl, htail⟩
    · rcases h'.head with ⟨cause', hrefused', rfl, rfl⟩ | ⟨hrule, -⟩
      · rw [hrefused.unique hrefused']
        exact ⟨rfl, rfl⟩
      · exact absurd hrefused hrule.not_refused
    · rcases h'.head with ⟨cause, hrefused, -⟩ | ⟨-, tail', rfl, htail'⟩
      · exact absurd hrefused hrule.not_refused
      · obtain ⟨rfl, rfl⟩ := ih htail htail'
        exact ⟨rfl, rfl⟩

theorem addEach_cons (t : FileTree) (cgroup : Path) (rule : DeviceRule) (rules : List DeviceRule) :
    addEach memory cgroup (rule :: rules) t =
      match addRule memory cgroup rule t with
      | (.ok (), u) => addEach memory cgroup rules u
      | (.error cause, u) => (.error cause, u) := by
  rw [addEach, Counted.bind_apply]
  rcases addRule memory cgroup rule t with ⟨_ | _, u⟩ <;> rfl

theorem addEach_writes (t : FileTree) (cgroup : Path) (rules : List DeviceRule) :
    ∃ before result u, addEach memory cgroup rules t = (result, u) ∧
      WritesUpTo t cgroup rules before result ∧ Grown (linesAt t cgroup before) t u := by
  induction rules generalizing t with
  | nil => exact ⟨[], .ok (), t, rfl, .all (List.forall_mem_nil _), Grown.refl t⟩
  | cons rule rules ih =>
    rw [addEach_cons]
    rcases addRule_adds t cgroup rule with ⟨cause, hrefused, hadd⟩ | ⟨hrule, u, hadd, hgrown⟩
    · rw [hadd]
      exact ⟨[], .error cause, t, rfl, .refused (List.forall_mem_nil _) hrefused, Grown.refl t⟩
    · -- The other rules meet a grown tree, in which each of them goes where it went before.
      obtain ⟨before, result, v, heach, hwrites, hrest⟩ := ih u
      refine ⟨rule :: before, result, v, ?_, (hwrites.of_grown hgrown).cons hrule, ?_⟩
      · rw [hadd]
        exact heach
      · have hlines : linesAt t cgroup (rule :: before) =
            fun place => linesAt t cgroup [rule] place ++ linesAt u cgroup before place := by
          funext place
          have hgoes : goesTo u cgroup place = goesTo t cgroup place :=
            funext (goesTo_of_grown hgrown cgroup place)
          rw [linesAt_cons, linesAt, linesAt, linesAt, hgoes]
        rw [hlines]
        exact hgrown.trans hrest

/-! ## The two files -/

/-- The two control files, where both are there, are not one and the same. -/
def Apart (t : FileTree) (cgroup : Path) : Prop :=
  ∀ allow file other, t.openFile (controlFile cgroup allow) = .ok file →
    t.openFile (controlFile cgroup !allow) = .ok other → other.1 ≠ file.1

/-- The lines of the rules with this verdict. -/
def linesFor (allow : Bool) (rules : List DeviceRule) : List UInt8 :=
  (rules.filter (·.allow == allow)).flatMap line

theorem linesAt_eq_linesFor (hapart : Apart t cgroup) {allow : Bool} {file : Place × List UInt8}
    (hfile : t.openFile (controlFile cgroup allow) = .ok file) (rules : List DeviceRule) :
    linesAt t cgroup rules file.1 = linesFor allow rules := by
  have hgoes (rule : DeviceRule) : goesTo t cgroup file.1 rule = (rule.allow == allow) := by
    by_cases hallow : rule.allow = allow
    · rw [goesTo, hallow, hfile]
      simp
    · rw [beq_false_of_ne hallow, goesTo, Bool.eq_not_of_ne hallow]
      cases hother : t.openFile (controlFile cgroup !allow) with
      | error e => rfl
      | ok other => exact beq_false_of_ne (hapart allow file other hfile hother)
  rw [linesAt, linesFor, funext hgoes]

/-- The application ends at the first refused rule. Every file has grown by the lines of the rules
before it that go there, one counter has moved by one, and no file is new. -/
theorem addRules_writes_prefix (t : FileTree) (μ : Metrics) (cgroup : Path)
    (rules : List DeviceRule) :
    ∃ before result μ' u, (addRules memory cgroup rules).exec μ t = (result, μ', u) ∧
      WritesUpTo t cgroup rules before result ∧
      (∀ c, μ'.count c = μ.count c + if c = .applied .v1 (outcomeLabel result) then 1 else 0) ∧
      Grown (linesAt t cgroup before) t u ∧
      (Apart t cgroup → ∀ allow, u.read (controlFile cgroup allow) =
        (t.read (controlFile cgroup allow)).map (· ++ linesFor allow before)) := by
  obtain ⟨before, result, u, heach, hwrites, hgrown⟩ := addEach_writes t cgroup rules
  refine ⟨before, result, μ.add (.applied .v1 (outcomeLabel result)) 1, u, ?_, hwrites, ?_,
    hgrown, ?_⟩
  · have hexec : (addRules memory cgroup rules).exec μ t =
        ((addEach memory cgroup rules t).1,
          μ.add (.applied .v1 (outcomeLabel (addEach memory cgroup rules t).1)) 1,
          (addEach memory cgroup rules t).2) := rfl
    rw [hexec, heach]
  · intro c
    rw [Metrics.count_add]
    split
    · rw [‹c = _›]
    · rfl
  · intro hapart allow
    rw [read_eq, read_eq, hgrown.openFile_eq]
    cases hfile : t.openFile (controlFile cgroup allow) with
    | ok file => simp only [Except.map, linesAt_eq_linesFor hapart hfile]
    | error e => rfl

/-- A directory with both control files, one of them with something in it. -/
def twoFiles : FileTree :=
  ⟨[([['g']], .directory), ([['g'], "devices.allow".toList], .file [120]),
    ([['g'], "devices.deny".toList], .file [])]⟩

theorem openFile_twoFiles (allow : Bool) :
    twoFiles.openFile (controlFile "/g" allow) =
      .ok ([['g'], (fileName allow).toList], if allow then [120] else []) := by
  have hfind : twoFiles.find (controlFile "/g" allow) true =
      (twoFiles.walk true linkLimit [] [[], ['g'], (fileName allow).toList]).mapError .errno := by
    cases allow <;> rfl
  have hwalk : twoFiles.walk true linkLimit [] [[], ['g'], (fileName allow).toList] =
      .ok ([['g'], (fileName allow).toList], .file (if allow then [120] else [])) := by
    rw [walk, if_pos rfl, walk, if_neg (by decide), if_neg (by decide), if_neg (by decide)]
    change twoFiles.walk true linkLimit [['g']] [(fileName allow).toList] = _
    cases allow
    · rw [walk, if_neg (by decide), if_neg (by decide), if_neg (by decide)]
      rfl
    · rw [walk, if_neg (by decide), if_neg (by decide), if_neg (by decide)]
      rfl
  rw [openFile, hfind, hwalk]
  rfl

theorem apart_twoFiles : Apart twoFiles "/g" := by
  intro allow file other hfile hother
  rw [openFile_twoFiles] at hfile hother
  cases hfile
  cases hother
  cases allow <;> decide

theorem addRules_writes_prefix_invalid :
    Apart twoFiles "/g" ∧ ∃ μ' u,
      (addRules memory "/g" [⟨true, "c", some 1, none, "wr"⟩, ⟨false, "z", none, none, "r"⟩]).exec
        .empty twoFiles = (.error (.invalidRule (.unknownType "z")), μ', u) ∧
      μ'.count (.applied .v1 .error) = 1 ∧ μ'.count (.applied .v1 .written) = 0 ∧
      u.read (controlFile "/g" true) = .ok (120 :: Utf8.encode "c 1:* rw".toList) ∧
      u.read (controlFile "/g" false) = .ok [] := by
  obtain ⟨before, result, μ', u, hexec, hwrites, hcount, -, hread⟩ :=
    addRules_writes_prefix twoFiles .empty "/g"
      [⟨true, "c", some 1, none, "wr"⟩, ⟨false, "z", none, none, "r"⟩]
  have hexpected : WritesUpTo twoFiles "/g"
      [⟨true, "c", some 1, none, "wr"⟩, ⟨false, "z", none, none, "r"⟩]
      [⟨true, "c", some 1, none, "wr"⟩] (.error (.invalidRule (.unknownType "z"))) := by
    apply WritesUpTo.cons
    · exact ⟨⟨_, rfl⟩, _, openFile_twoFiles true⟩
    · exact @WritesUpTo.refused _ _ [] [] _ _ (List.forall_mem_nil _) (.invalid rfl)
  obtain ⟨rfl, rfl⟩ := hwrites.unique hexpected
  refine ⟨apart_twoFiles, μ', u, hexec, hcount _, hcount _, ?_, ?_⟩
  · rw [hread apart_twoFiles, read_eq, openFile_twoFiles]
    rfl
  · rw [hread apart_twoFiles, read_eq, openFile_twoFiles]
    rfl

end DeviceFilter.ControlFiles
