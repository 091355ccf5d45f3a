import DeviceFilter.Proofs.Kernel.Guarded
import DeviceFilter.Proofs.Kernel.Verdict
import DeviceFilter.Proofs.Manager.Applied
import DeviceFilter.Proofs.Simulation.Faithful

/-!
What an application replaces and what it leaves alone. The programs that may be opened are replaced
one by one, in order; programs that may not be opened stay attached, other cgroups keep their
programs, and no stored program changes.
-/
set_option autoImplicit false

namespace DeviceFilter

variable {σ Handle Cgroup : Type}

/-! ## Looking at processes -/

/-- Looking at processes changes nothing in the kernel. -/
structure ProcessTable.Keeps (processes : ProcessTable (StateM σ))
    (view : KernelView σ Handle Cgroup) : Prop where
  parentOf : ∀ s v, view.Shows s v → ∀ pid, view.Shows (processes.parentOf pid s).2 v
  nameOf : ∀ s v, view.Shows s v → ∀ pid, view.Shows (processes.nameOf pid s).2 v

namespace Manager

section
variable {manager : Manager (StateM σ) Handle Cgroup} {view : KernelView σ Handle Cgroup}
variable (hkeeps : manager.processes.Keeps view) {s : σ} {v : KernelStore Cgroup}
include hkeeps

theorem shows_hasManagerAbove (hs : view.Shows s v) (hops : Nat) (pid : Int) :
    view.Shows (manager.hasManagerAbove hops pid s).2 v := by
  induction hops generalizing s pid with
  | zero => exact hs
  | succ hops ih =>
    have hparent := hkeeps.parentOf s v hs pid
    rw [hasManagerAbove, Counted.bind_apply]
    cases (manager.processes.parentOf pid s).1 with
    | error cause => exact hparent
    | ok parent =>
      dsimp only
      split
      · exact hparent
      · have hname := hkeeps.nameOf _ v hparent parent
        rw [Counted.bind_apply]
        cases (manager.processes.nameOf parent (manager.processes.parentOf pid s).2).1 with
        | error cause => exact ih hname parent
        | ok name =>
          dsimp only
          split
          · exact hname
          · exact ih hname parent

theorem shows_isExternallyManaged (hs : view.Shows s v) (path : Path) :
    view.Shows (manager.isExternallyManaged path s).2 v := by
  rw [isExternallyManaged]
  split
  · exact shows_hasManagerAbove hkeeps hs _ _
  · exact hs

end

end Manager

/-! ## Predecessors and successors -/

/-- What the new programs of a cgroup come after: each program that may be opened or, when there is
none, nothing. -/
def KernelStore.predecessors (v : KernelStore Cgroup) (c : Cgroup) : List (Option KeptProgram) :=
  if v.accessible c = [] then [none] else (v.accessible c).map v.program?

/-- The programs of a cgroup that may not be opened. -/
def KernelStore.refused (v : KernelStore Cgroup) (c : Cgroup) : List UInt32 :=
  (v.attached c).filter fun id => (v.refusal? id).isSome

/-- The programs of a cgroup that may be opened can be read back, and there is room for new ones. -/
structure KernelStore.Replaceable (v : KernelStore Cgroup) (c : Cgroup) : Prop where
  nodup : (v.attached c).Nodup
  permitted : ∀ id ∈ v.attached c, ∀ cause, v.refusal? id = some cause → cause.isPermissionDenied
  readable : ∀ id ∈ v.accessible c, ∀ p, v.program? id = some p →
    p.instructions.Encodable ∧ 8 * p.instructions.length < 2 ^ 32
  room : max 1 (v.accessible c).length ≤ v.room

section
variable {v : KernelStore Cgroup} {c : Cgroup} {ps : List KeptProgram}

theorem KernelStore.length_accessible (hps : (v.accessible c).map v.program? = ps.map some) :
    (v.accessible c).length = ps.length := by
  simpa using congrArg List.length hps

theorem KernelStore.forall_programs {P : KeptProgram → Prop}
    (h : ∀ id ∈ v.accessible c, ∀ p, v.program? id = some p → P p)
    (hps : (v.accessible c).map v.program? = ps.map some) : ∀ p ∈ ps, P p := by
  intro p hp
  have hmem : some p ∈ (v.accessible c).map v.program? := hps ▸ List.mem_map_of_mem hp
  obtain ⟨id, hid, hprogram⟩ := List.mem_map.mp hmem
  exact h id hid p hprogram

theorem KernelStore.Replaceable.ready (h : v.Replaceable c)
    (hps : (v.accessible c).map v.program? = ps.map some) : Manager.Ready v c ps where
  nodup := h.nodup
  permitted := h.permitted
  programs := hps
  readable := KernelStore.forall_programs h.readable hps
  room := KernelStore.length_accessible hps ▸ h.room

/-- The programs without those that may be opened, each once, are those that may not be opened. -/
theorem KernelStore.diff_accessible (hnodup : (v.attached c).Nodup) :
    (v.attached c).diff (v.accessible c) = v.refused c := by
  rw [hnodup.sdiff_eq_filter, KernelStore.refused]
  refine List.filter_congr fun id hid => ?_
  cases hrefusal : v.refusal? id <;> simp [KernelStore.accessible, hid, hrefusal]

theorem KernelStore.predecessors_eq (hps : (v.accessible c).map v.program? = ps.map some) :
    v.predecessors c = if ps = [] then [none] else ps.map some := by
  have hempty : v.accessible c = [] ↔ ps = [] := by
    rw [← List.map_eq_nil_iff, hps, List.map_eq_nil_iff]
  simp only [KernelStore.predecessors, hempty, hps]

end

namespace Manager

variable (manager : Manager (StateM σ) Handle Cgroup)

def tailOf (old : Option KeptProgram) : Program :=
  old.elim (Program.constant manager.config.fallback.allows) (·.instructions)

/-- A program with the rules in front of what it comes after. -/
structure Succeeds (rules : List DeviceRule) (old : Option KeptProgram) (new : KeptProgram) :
    Prop where
  compiled : Program.compile (manager.tailOf old) rules = .ok new.instructions
  license : new.license =
    if manager.config.inheritLicense ∧ old.any (·.gplCompatible) then "GPL"
    else manager.config.license
  name : new.name = manager.config.programName

/-- The programs of a cgroup that may be opened have given way to their successors, and everything
else is as it was. -/
structure Replaced (rules : List DeviceRule) (v v' : KernelStore Cgroup) (c : Cgroup) : Prop where
  attached : ∃ ids, v'.attached c = v.refused c ++ ids ∧ ids.length = max 1 (v.accessible c).length ∧
    ids.Nodup ∧ (∀ id ∈ ids, v.program? id = none) ∧
    List.Forall₂ (fun old id => ∃ new, v'.program? id = some new ∧ manager.Succeeds rules old new)
      (v.predecessors c) ids
  others : ∀ other, other ≠ c → v'.attached other = v.attached other
  stored : ∀ id p, v.program? id = some p → v'.program? id = some p

section
variable {manager} {view : KernelView σ Handle Cgroup} {rules : List DeviceRule}
variable {v : KernelStore Cgroup} {c : Cgroup} {ps : List KeptProgram} {merged : List Replacement}

theorem succeeds_of_mergedOf {p : KeptProgram} {r : Replacement}
    (h : manager.mergedOf rules p = .ok r) :
    manager.Succeeds rules (some p) (manager.kept view r) := by
  refine ⟨manager.mergedOf_eq_ok h, ?_, rfl⟩
  unfold mergedOf mergedWith at h
  split at h
  · cases h
  · cases h
    cases hinherit : manager.config.inheritLicense <;> cases hgpl : p.gplCompatible <;>
      simp [kept, Kernel.gplLicense, hgpl]

theorem succeeds_of_fresh {r : Replacement} (h : manager.fresh rules = .ok r) :
    manager.Succeeds rules none (manager.kept view r) := by
  refine ⟨manager.fresh_eq_ok h, ?_, rfl⟩
  unfold fresh at h
  split at h
  · cases h
  · cases h
    simp [kept]

theorem succeeds_of_replacementsOf (hps : (v.accessible c).map v.program? = ps.map some)
    (h : manager.replacementsOf rules ps = .ok merged) :
    List.Forall₂ (manager.Succeeds rules) (v.predecessors c) (merged.map (manager.kept view)) := by
  rw [KernelStore.predecessors_eq hps]
  cases ps with
  | nil =>
    rw [replacementsOf] at h
    cases hfresh : manager.fresh rules with
    | error e =>
      rw [hfresh] at h
      cases h
    | ok r =>
      rw [hfresh] at h
      cases h
      exact .cons (succeeds_of_fresh hfresh) .nil
  | cons p ps =>
    rw [if_neg (List.cons_ne_nil p ps)]
    refine List.forall₂_map_left_iff.mpr (List.forall₂_map_right_iff.mpr ?_)
    exact (mapM_eq_ok_iff.mp h).imp fun q r hr => succeeds_of_mergedOf hr

theorem map_tailOf_predecessors (hps : (v.accessible c).map v.program? = ps.map some) :
    (v.predecessors c).map manager.tailOf = manager.tails ps := by
  rw [KernelStore.predecessors_eq hps]
  cases ps with
  | nil => rfl
  | cons p ps =>
    rw [if_neg (List.cons_ne_nil p ps), List.map_map]
    rfl

theorem Replaced.of_loaded [DecidableEq Cgroup] {ids : List UInt32} {w : KernelStore Cgroup}
    (hnodup : (v.attached c).Nodup) (hps : (v.accessible c).map v.program? = ps.map some)
    (hmerged : manager.replacementsOf rules ps = .ok merged)
    (hloaded : StoreLoaded v (merged.map (manager.kept view)) ids w) :
    manager.Replaced rules v
      (w.setAttached c ((v.attached c).diff (v.accessible c) ++ ids)) c := by
  constructor
  · refine ⟨ids, ?_, ?_, hloaded.nodup, hloaded.fresh, ?_⟩
    · rw [KernelStore.attached_setAttached, KernelStore.diff_accessible hnodup]
    · rw [hloaded.length_ids, List.length_map, manager.length_replacementsOf hmerged,
        KernelStore.length_accessible hps]
    · have hsucceeds : List.Forall₂ (manager.Succeeds rules) (v.predecessors c)
          (merged.map (manager.kept view)) := succeeds_of_replacementsOf hps hmerged
      have hprograms : List.Forall₂ (fun old new? => ∃ new, new? = some new ∧
          manager.Succeeds rules old new) (v.predecessors c) (ids.map w.program?) := by
        rw [hloaded.programs]
        exact List.forall₂_map_right_iff.mpr (hsucceeds.imp fun old new hnew => ⟨new, rfl, hnew⟩)
      exact List.forall₂_map_right_iff.mp hprograms
  · intro other hother
    rw [← hloaded.attached]
    exact Function.update_of_ne hother ..
  · intro id p hp
    exact (hloaded.older id (by rw [hp]; rfl)).trans hp

end

section
variable {manager} [DecidableEq Cgroup] {view : KernelView σ Handle Cgroup}
variable {s : σ} {v : KernelStore Cgroup}

/-- An application either leaves the store alone, because another manager owns the cgroup or because
the rules do not compile with some program that may be opened, or it replaces these programs. -/
theorem apply_replaces (h : view.Faithful manager.kernel) (hkeeps : manager.processes.Keeps view)
    (hs : view.Shows s v) (path : Path) (hreplaceable : v.Replaceable (view.cgroupAt path))
    (rules : List DeviceRule) (μ : Metrics) :
    ∃ r μ' s' v', (manager.apply path rules).exec μ s = (r, μ', s') ∧ view.Shows s' v' ∧
      if (manager.isExternallyManaged path s).1 then r = .ok .externallyManaged ∧ v' = v
      else
        (∃ cause, r = .error (.compile cause) ∧ v' = v ∧
          ∃ old ∈ v.predecessors (view.cgroupAt path),
            Program.compile (manager.tailOf old) rules = .error cause) ∨
        r = .ok (.replaced (v.accessible (view.cgroupAt path)).length
          (max 1 (v.accessible (view.cgroupAt path)).length)) ∧
          manager.Replaced rules v v' (view.cgroupAt path) := by
  have hs1 := shows_isExternallyManaged hkeeps hs path
  cases htest : manager.isExternallyManaged path s with
  | mk managed s1 =>
    rw [htest] at hs1
    cases managed with
    | true => exact ⟨_, _, s1, v, manager.exec_apply_managed htest rules μ, hs1, rfl, rfl⟩
    | false =>
      obtain ⟨ps, hps⟩ := KernelStore.exists_map_some fun id hid =>
        h.held s v hs (view.cgroupAt path) id (List.mem_of_mem_filter hid)
      have hready := hreplaceable.ready hps
      obtain ⟨r, μ', s', v', hrun, hs', happlied⟩ := exec_apply_unmanaged h μ htest hs1 rules hready
      refine ⟨r, μ', s', v', hrun, hs', ?_⟩
      cases happlied with
      | rejected hmerged =>
        obtain ⟨cause, rfl, tail, htail, hcompile⟩ :=
          manager.exists_of_replacementsOf_eq_error hmerged
        rw [← map_tailOf_predecessors hps] at htail
        obtain ⟨old, hold, rfl⟩ := List.mem_map.mp htail
        exact .inl ⟨cause, rfl, rfl, old, hold, hcompile⟩
      | replaced hmerged hloaded =>
        rw [KernelStore.length_accessible hps, manager.length_replacementsOf hmerged]
        exact .inr ⟨rfl, .of_loaded hreplaceable.nodup hps hmerged hloaded⟩

end

/-! ## An application with a program in between that may not be opened -/

open Simulation

/-- A program with one answer, as the kernel in memory keeps it. -/
def constantProgram (allow : Bool) (license : String) : StoredProgram where
  translated := (Program.constant allow).encode .native
  license := license
  name := "base"

/-- Three programs in one cgroup, and one in another. -/
def sharedState : KernelState :=
  (((({} : KernelState).install "/box" (constantProgram true "GPL") 1).install "/other"
    (constantProgram true "GPL") 1).install "/box" (constantProgram true "GPL") 1).install "/box"
      (constantProgram false "Proprietary") 1

def guardThird (id : UInt32) : Option SystemError :=
  if id = 3 then some (.errno Errno.accessDenied) else none

def sharedManager : Manager (StateM KernelState) UInt32 Path where
  kernel := SimulatedKernel.kernel.guarded guardThird
  processes := ⟨0, fun _ => return .ok 0, fun _ => return .ok ""⟩
  config := { inheritLicense := true }

theorem quiet_sharedState : sharedState.Quiet := by
  have hplain (allow : Bool) (license : String) : KernelState.Plain (constantProgram allow license) :=
    KernelState.plain_encode (Program.encodable_constant allow) license "base"
  exact (((KernelState.quiet_empty.install (hplain _ _) _ (by decide)).install (hplain _ _) _
    (by decide)).install (hplain _ _) _ (by decide)).install (hplain _ _) _ (by decide)

theorem accessible_sharedState :
    (sharedState.store.guarded guardThird).accessible "/box" = [1, 4] := by
  decide +kernel

theorem program?_sharedState :
    sharedState.store.program? 1 = some ⟨Program.constant true, "GPL", "base", true⟩ ∧
      sharedState.store.program? 4
        = some ⟨Program.constant false, "Proprietary", "base", false⟩ :=
  ⟨congrArg some (KernelState.kept_encode (Program.encodable_constant true) "GPL" "base"),
    congrArg some (KernelState.kept_encode (Program.encodable_constant false) "Proprietary" "base")⟩

theorem predecessors_sharedState :
    (sharedState.store.guarded guardThird).predecessors "/box"
      = [some ⟨Program.constant true, "GPL", "base", true⟩,
        some ⟨Program.constant false, "Proprietary", "base", false⟩] := by
  obtain ⟨hfirst, hlast⟩ := program?_sharedState
  rw [KernelStore.predecessors, accessible_sharedState, if_neg (List.cons_ne_nil _ _)]
  simp only [List.map_cons, List.map_nil, KernelStore.guarded, hfirst, hlast]

theorem replaceable_sharedState :
    (sharedState.store.guarded guardThird).Replaceable "/box" where
  nodup := by decide +kernel
  permitted := by
    intro id _ cause hrefusal
    have hrefused : (sharedState.store.guarded guardThird).refusal? id = guardThird id :=
      Option.or_none
    have hthird : guardThird id = some cause := hrefused.symm.trans hrefusal
    unfold guardThird at hthird
    split at hthird
    · cases hthird
      decide
    · cases hthird
  readable := by
    obtain ⟨hfirst, hlast⟩ := program?_sharedState
    rw [accessible_sharedState]
    intro id hid p hp
    simp only [List.mem_cons, List.not_mem_nil, or_false] at hid
    rcases hid with rfl | rfl
    · cases hfirst.symm.trans hp
      exact ⟨Program.encodable_constant true, by decide⟩
    · cases hlast.symm.trans hp
      exact ⟨Program.encodable_constant false, by decide⟩
  room := by
    rw [accessible_sharedState]
    decide +kernel

/-- The program that may not be opened stays in front, and only the successor of the program under
the GPL is under it too. -/
theorem apply_replaces_sharedState : ∃ r μ' s' v',
    (sharedManager.apply "/box" [⟨false, "c", some 1, none, "rw"⟩]).exec .empty sharedState
        = (r, μ', s') ∧
      (KernelState.view.guarded guardThird).Shows s' v' ∧ r = .ok (.replaced 2 2) ∧
      (∃ first last, v'.attached "/box" = [3, first, last] ∧
        (v'.program? first).map (·.license) = some "GPL" ∧
        (v'.program? last).map (·.license) = some "Apache") ∧
      v'.attached "/other" = [2] := by
  have hfaithful : (KernelState.view.guarded guardThird).Faithful sharedManager.kernel :=
    faithful_kernel.guarded
  have hkeeps : sharedManager.processes.Keeps (KernelState.view.guarded guardThird) :=
    ⟨fun _ _ hs _ => hs, fun _ _ hs _ => hs⟩
  have hshows : (KernelState.view.guarded guardThird).Shows sharedState
      (sharedState.store.guarded guardThird) := ⟨quiet_sharedState, rfl⟩
  obtain ⟨r, μ', s', v', hrun, hs', hcases⟩ := apply_replaces hfaithful hkeeps hshows "/box"
    replaceable_sharedState [⟨false, "c", some 1, none, "rw"⟩] .empty
  have hunmanaged : (sharedManager.isExternallyManaged "/box" sharedState).1 = false := rfl
  have hcgroup : (KernelState.view.guarded guardThird).cgroupAt "/box" = "/box" := rfl
  rw [hunmanaged, if_neg Bool.false_ne_true, hcgroup, predecessors_sharedState,
    accessible_sharedState] at hcases
  refine ⟨r, μ', s', v', hrun, hs', ?_⟩
  rcases hcases with ⟨cause, -, -, old, hold, hcompile⟩ | ⟨hr, hreplaced⟩
  · simp only [List.mem_cons, List.not_mem_nil, or_false] at hold
    rcases hold with rfl | rfl
    · cases hcompile
    · cases hcompile
  · obtain ⟨ids, hattached, -, -, -, hsuccessors⟩ := hreplaced.attached
    rw [predecessors_sharedState] at hsuccessors
    obtain ⟨first, others, ⟨new, hnew, hfirst⟩, hothers, rfl⟩ :=
      List.forall₂_cons_left_iff.mp hsuccessors
    obtain ⟨last, rest, ⟨new', hnew', hlast⟩, hrest, rfl⟩ := List.forall₂_cons_left_iff.mp hothers
    obtain rfl := List.forall₂_nil_left_iff.mp hrest
    have hrefused : (sharedState.store.guarded guardThird).refused "/box" = [3] := by
      decide +kernel
    rw [hrefused] at hattached
    refine ⟨hr, ⟨first, last, hattached, ?_, ?_⟩, ?_⟩
    · rw [hnew, Option.map_some, hfirst.license]
      rfl
    · rw [hnew', Option.map_some, hlast.license]
      rfl
    · rw [hreplaced.others "/other" (by decide)]
      decide +kernel

end Manager

end DeviceFilter
