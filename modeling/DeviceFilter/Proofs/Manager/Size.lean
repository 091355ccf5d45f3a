import DeviceFilter.Proofs.Manager.Replaced

/-!
How many programs an application leaves attached. Whether there is anything to replace is told from
the programs that may be opened, and those that may not be opened are attached all the same. So an
application keeps the number of programs as long as one of them may be opened. Otherwise it adds a
program built on the fallback to those that are attached already.
-/
set_option autoImplicit false

namespace DeviceFilter

variable {σ Handle Cgroup : Type}

namespace KernelStore

variable (v : KernelStore Cgroup) (c : Cgroup)

theorem length_refused_add_accessible :
    (v.refused c).length + (v.accessible c).length = (v.attached c).length := by
  have hparts := List.length_eq_length_filter_add (l := v.attached c)
    fun id => (v.refusal? id).isSome
  simp only [Option.not_isSome] at hparts
  exact hparts.symm

variable {v c}

theorem refused_of_accessible_eq_nil (h : v.accessible c = []) : v.refused c = v.attached c := by
  refine List.filter_eq_self.mpr fun id hid => ?_
  have hrefused := List.filter_eq_nil_iff.mp h id hid
  rwa [Option.isNone_iff_eq_none, ← ne_eq, ← Option.isSome_iff_ne_none] at hrefused

end KernelStore

namespace Manager

variable {manager : Manager (StateM σ) Handle Cgroup} {rules : List DeviceRule}
variable {v v' : KernelStore Cgroup} {c : Cgroup}

/-! ## Programs after a replacement -/

namespace Replaced

theorem length_attached (h : manager.Replaced rules v v' c) :
    (v'.attached c).length = (v.attached c).length + if v.accessible c = [] then 1 else 0 := by
  obtain ⟨ids, hattached, hlength, -⟩ := h.attached
  have hparts := v.length_refused_add_accessible c
  rw [hattached, List.length_append, hlength]
  split
  · rename_i hnone
    rw [hnone, List.length_nil] at hparts ⊢
    omega
  · rename_i hsome
    have hpositive := List.length_pos_iff.mpr hsome
    omega

/-- The fallback's program stands behind those that may not be opened. -/
theorem exists_fallback (h : manager.Replaced rules v v' c) (hnone : v.accessible c = []) :
    ∃ id new, v'.attached c = v.attached c ++ [id] ∧ v'.program? id = some new ∧
      manager.Succeeds rules none new := by
  obtain ⟨ids, hattached, -, -, -, hsuccessors⟩ := h.attached
  rw [KernelStore.predecessors, if_pos hnone] at hsuccessors
  obtain ⟨id, rest, ⟨new, hnew, hsucceeds⟩, hrest, rfl⟩ :=
    List.forall₂_cons_left_iff.mp hsuccessors
  obtain rfl := List.forall₂_nil_left_iff.mp hrest
  rw [KernelStore.refused_of_accessible_eq_nil hnone] at hattached
  exact ⟨id, new, hattached, hnew, hsucceeds⟩

end Replaced

/-! ## Programs after an application -/

section
variable [DecidableEq Cgroup] {view : KernelView σ Handle Cgroup} {s : σ}

theorem exec_apply_replaceable (h : view.Faithful manager.kernel)
    (hkeeps : manager.processes.Keeps view) (hs : view.Shows s v) (path : Path)
    (hreplaceable : v.Replaceable (view.cgroupAt path)) (rules : List DeviceRule) (μ : Metrics) :
    ∃ r μ' s' v', (manager.apply path rules).exec μ s = (r, μ', s') ∧ view.Shows s' v' ∧
      ((∀ detached attached, r ≠ .ok (.replaced detached attached)) ∧ v' = v ∨
        (∃ detached attached, r = .ok (.replaced detached attached)) ∧
          manager.Replaced rules v v' (view.cgroupAt path)) := by
  have hs1 := shows_isExternallyManaged hkeeps hs path
  cases htest : manager.isExternallyManaged path s with
  | mk managed s1 =>
    rw [htest] at hs1
    cases managed with
    | true =>
      exact ⟨_, _, s1, v, manager.exec_apply_managed htest rules μ, hs1, .inl ⟨nofun, rfl⟩⟩
    | false =>
      obtain ⟨ps, hps⟩ := KernelStore.exists_map_some fun id hid =>
        h.held s v hs (view.cgroupAt path) id (List.mem_of_mem_filter hid)
      obtain ⟨r, μ', s', v', hrun, hs', happlied⟩ :=
        exec_apply_unmanaged h μ htest hs1 rules (hreplaceable.ready hps)
      refine ⟨r, μ', s', v', hrun, hs', ?_⟩
      cases happlied with
      | rejected => exact .inl ⟨nofun, rfl⟩
      | replaced hmerged hloaded =>
        exact .inr ⟨⟨_, _, rfl⟩, .of_loaded hreplaceable.nodup hps hmerged hloaded⟩

/-- A replacement keeps the number of programs exactly when one of them may be opened. -/
theorem apply_length_attached (h : view.Faithful manager.kernel)
    (hkeeps : manager.processes.Keeps view) (hs : view.Shows s v) (path : Path)
    (hreplaceable : v.Replaceable (view.cgroupAt path)) (rules : List DeviceRule) (μ : Metrics) :
    ∃ r μ' s' v', (manager.apply path rules).exec μ s = (r, μ', s') ∧ view.Shows s' v' ∧
      ((∀ detached attached, r ≠ .ok (.replaced detached attached)) → v' = v) ∧
      ∀ detached attached, r = .ok (.replaced detached attached) →
        ((v'.attached (view.cgroupAt path)).length = (v.attached (view.cgroupAt path)).length ↔
          v.accessible (view.cgroupAt path) ≠ []) ∧
        (v.accessible (view.cgroupAt path) = [] → ∃ id new,
          v'.attached (view.cgroupAt path) = v.attached (view.cgroupAt path) ++ [id] ∧
          v'.program? id = some new ∧
          Program.compile (Program.constant manager.config.fallback.allows) rules
            = .ok new.instructions) := by
  obtain ⟨r, μ', s', v', hrun, hs', hcases⟩ :=
    exec_apply_replaceable h hkeeps hs path hreplaceable rules μ
  refine ⟨r, μ', s', v', hrun, hs', ?_⟩
  rcases hcases with ⟨hother, rfl⟩ | ⟨⟨d, a, rfl⟩, hreplaced⟩
  · exact ⟨fun _ => rfl, fun d a hr => absurd hr (hother d a)⟩
  · refine ⟨fun hother => absurd rfl (hother d a), fun _ _ _ => ⟨?_, fun hnone => ?_⟩⟩
    · rw [hreplaced.length_attached]
      split
      · rename_i hnone
        simp [hnone]
      · rename_i hsome
        simp [hsome]
    · obtain ⟨id, new, hattached, hnew, hsucceeds⟩ := hreplaced.exists_fallback hnone
      exact ⟨id, new, hattached, hnew, hsucceeds.compiled⟩

end

/-! ## Three programs, two or none of which may be opened -/

open Simulation

theorem keeps_sharedManager (view : KernelView KernelState UInt32 Path) :
    sharedManager.processes.Keeps view :=
  ⟨fun _ _ hs _ => hs, fun _ _ hs _ => hs⟩

theorem shows_sharedState (refusal? : UInt32 → Option SystemError) :
    (KernelState.view.guarded refusal?).Shows sharedState (sharedState.store.guarded refusal?) :=
  ⟨quiet_sharedState, rfl⟩

/-- One of the three programs may not be opened, and three are attached again. -/
theorem apply_length_attached_sharedState : ∃ r μ' s' v',
    (sharedManager.apply "/box" [⟨false, "c", some 1, none, "rw"⟩]).exec .empty sharedState
        = (r, μ', s') ∧
      (KernelState.view.guarded guardThird).Shows s' v' ∧ r = .ok (.replaced 2 2) ∧
      (v'.attached "/box").length = 3 := by
  have hfaithful : (KernelState.view.guarded guardThird).Faithful sharedManager.kernel :=
    faithful_kernel.guarded
  obtain ⟨r, μ', s', v', hrun, hs', -, hreplaced⟩ :=
    apply_length_attached hfaithful (keeps_sharedManager _) (shows_sharedState guardThird) "/box"
      replaceable_sharedState [⟨false, "c", some 1, none, "rw"⟩] .empty
  have hresult : ((sharedManager.apply "/box" [⟨false, "c", some 1, none, "rw"⟩]).exec .empty
      sharedState).1 = .ok (.replaced 2 2) := by decide +kernel
  have hr : r = .ok (.replaced 2 2) := by rw [← hresult, hrun]
  refine ⟨r, μ', s', v', hrun, hs', hr, ?_⟩
  have hcgroup : (KernelState.view.guarded guardThird).cgroupAt "/box" = "/box" := rfl
  obtain ⟨hkept, -⟩ := hreplaced 2 2 hr
  rw [hcgroup, accessible_sharedState] at hkept
  rw [hkept.mpr (List.cons_ne_nil _ _)]
  decide +kernel

def refuseAll (_ : UInt32) : Option SystemError := some (.errno Errno.notPermitted)

def lockedManager : Manager (StateM KernelState) UInt32 Path :=
  { sharedManager with kernel := SimulatedKernel.kernel.guarded refuseAll }

theorem replaceable_refuseAll : (sharedState.store.guarded refuseAll).Replaceable "/box" where
  nodup := by decide +kernel
  permitted := by
    rintro id - cause ⟨⟩
    decide
  readable := by
    have hnone : (sharedState.store.guarded refuseAll).accessible "/box" = [] := by
      decide +kernel
    rw [hnone]
    exact List.forall_mem_nil _
  room := by decide +kernel

/-- None of the three programs may be opened, and a fourth one is attached. -/
theorem apply_lockedManager :
    (KernelState.view.guarded refuseAll).Faithful lockedManager.kernel ∧
      lockedManager.processes.Keeps (KernelState.view.guarded refuseAll) ∧
      (KernelState.view.guarded refuseAll).Shows sharedState
        (sharedState.store.guarded refuseAll) ∧
      (sharedState.store.guarded refuseAll).Replaceable "/box" ∧
      (sharedState.store.guarded refuseAll).attached "/box" = [1, 3, 4] ∧
      ∃ μ' s' v',
        (lockedManager.apply "/box" [⟨false, "c", some 1, none, "rw"⟩]).exec .empty sharedState
            = (.ok (.replaced 0 1), μ', s') ∧
          (KernelState.view.guarded refuseAll).Shows s' v' ∧
          v'.attached "/box" = [1, 3, 4, 5] := by
  have hfaithful : (KernelState.view.guarded refuseAll).Faithful lockedManager.kernel :=
    faithful_kernel.guarded
  have hkeeps : lockedManager.processes.Keeps (KernelState.view.guarded refuseAll) :=
    keeps_sharedManager _
  have hshows := shows_sharedState refuseAll
  refine ⟨hfaithful, hkeeps, hshows, replaceable_refuseAll, by decide +kernel, ?_⟩
  obtain ⟨r, μ', s', v', hrun, hs', -⟩ := exec_apply_replaceable hfaithful hkeeps hshows "/box"
    replaceable_refuseAll [⟨false, "c", some 1, none, "rw"⟩] .empty
  have hresult : ((lockedManager.apply "/box" [⟨false, "c", some 1, none, "rw"⟩]).exec .empty
      sharedState).1 = .ok (.replaced 0 1) := by decide +kernel
  have hattached : ((lockedManager.apply "/box" [⟨false, "c", some 1, none, "rw"⟩]).exec .empty
      sharedState).2.2.store.attached "/box" = [1, 3, 4, 5] := by decide +kernel
  obtain rfl : r = .ok (.replaced 0 1) := by rw [← hresult, hrun]
  rw [hrun] at hattached
  refine ⟨μ', s', v', hrun, hs', ?_⟩
  rw [← hs'.2]
  exact hattached

end Manager

end DeviceFilter
