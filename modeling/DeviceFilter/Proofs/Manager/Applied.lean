import DeviceFilter.Proofs.Manager.Faithful
import DeviceFilter.Proofs.Program.Meaning
import DeviceFilter.Proofs.Traversal

/-!
One application on a faithful kernel.
-/
set_option autoImplicit false

namespace DeviceFilter.Manager

variable {σ Handle Cgroup : Type} (manager : Manager (StateM σ) Handle Cgroup)

/-- The programs `ps` of a cgroup may be opened and can be read back and replaced. -/
structure Ready (v : KernelStore Cgroup) (c : Cgroup) (ps : List KeptProgram) : Prop where
  nodup : (v.attached c).Nodup
  permitted : ∀ id ∈ v.attached c, ∀ cause, v.refusal? id = some cause → cause.isPermissionDenied
  programs : (v.accessible c).map v.program? = ps.map some
  readable : ∀ p ∈ ps, p.instructions.Encodable ∧ 8 * p.instructions.length < 2 ^ 32
  room : max 1 ps.length ≤ v.room

/-- The same of a cgroup to which a program may be attached more than once. -/
structure Exchangeable (v : KernelStore Cgroup) (c : Cgroup) (ps : List KeptProgram) : Prop where
  length : (v.attached c).length < 2 ^ 32
  permitted : ∀ id ∈ v.attached c, ∀ cause, v.refusal? id = some cause → cause.isPermissionDenied
  programs : (v.accessible c).map v.program? = ps.map some
  readable : ∀ p ∈ ps, p.instructions.Encodable ∧ 8 * p.instructions.length < 2 ^ 32
  room : max 1 ps.length ≤ v.room

/-- No other manager owns the cgroup at the path, and finding that out changes nothing. -/
def Owns (view : KernelView σ Handle Cgroup) (path : Path) : Prop :=
  ∀ s v, view.Shows s v → ∃ s', manager.isExternallyManaged path s = (false, s') ∧ view.Shows s' v

/-- The result of an application and the store afterwards. -/
inductive AppliedTo [DecidableEq Cgroup] (view : KernelView σ Handle Cgroup)
    (rules : List DeviceRule) (v : KernelStore Cgroup) (c : Cgroup) (ps : List KeptProgram) :
    Except FilterError ApplyOutcome → KernelStore Cgroup → Prop
  | rejected {e : FilterError} (hmerged : manager.replacementsOf rules ps = .error e) :
      AppliedTo view rules v c ps (.error e) v
  | replaced {merged : List Replacement} {ids : List UInt32} {w : KernelStore Cgroup}
      (hmerged : manager.replacementsOf rules ps = .ok merged)
      (hloaded : StoreLoaded v (merged.map (manager.kept view)) ids w) :
      AppliedTo view rules v c ps (.ok (.replaced ps.length merged.length))
        (w.setAttached c ((v.attached c).diff (v.accessible c) ++ ids))

/-- The programs that rules are put in front of. -/
def tails : List KeptProgram → List Program
  | [] => [Program.constant manager.config.fallback.allows]
  | p :: ps => (p :: ps).map (·.instructions)

theorem length_tails (ps : List KeptProgram) : (manager.tails ps).length = max 1 ps.length := by
  cases ps with
  | nil => rfl
  | cons p ps =>
    rw [tails, List.length_map, List.length_cons]
    omega

theorem mergedOf_eq_ok {rules : List DeviceRule} {p : KeptProgram} {r : Replacement}
    (h : manager.mergedOf rules p = .ok r) :
    Program.compile p.instructions rules = .ok r.instructions := by
  unfold mergedOf mergedWith at h
  split at h
  · cases h
  · rename_i instructions hcompile
    cases h
    exact hcompile

theorem fresh_eq_ok {rules : List DeviceRule} {r : Replacement}
    (h : manager.fresh rules = .ok r) :
    Program.compile (Program.constant manager.config.fallback.allows) rules
      = .ok r.instructions := by
  unfold fresh at h
  split at h
  · cases h
  · rename_i instructions hcompile
    cases h
    exact hcompile

theorem compile_tails {rules : List DeviceRule} {ps : List KeptProgram}
    {merged : List Replacement} (h : manager.replacementsOf rules ps = .ok merged) :
    List.Forall₂ (fun tail r => Program.compile tail rules = .ok r.instructions)
      (manager.tails ps) merged := by
  cases ps with
  | nil =>
    rw [replacementsOf] at h
    cases hfresh : manager.fresh rules with
    | error e =>
      rw [hfresh] at h
      cases h
    | ok r =>
      rw [hfresh] at h
      cases h
      exact .cons (manager.fresh_eq_ok hfresh) .nil
  | cons p ps =>
    refine List.forall₂_map_left_iff.mpr ((mapM_eq_ok_iff.mp h).imp ?_)
    intro q r hr
    exact manager.mergedOf_eq_ok hr

theorem length_replacementsOf {rules : List DeviceRule} {ps : List KeptProgram}
    {merged : List Replacement} (h : manager.replacementsOf rules ps = .ok merged) :
    merged.length = max 1 ps.length := by
  rw [← manager.length_tails ps]
  exact (manager.compile_tails h).length_eq.symm

/-- Nothing but compiling can fail. -/
theorem exists_of_replacementsOf_eq_error {rules : List DeviceRule} {ps : List KeptProgram}
    {e : FilterError} (h : manager.replacementsOf rules ps = .error e) :
    ∃ cause, e = .compile cause ∧
      ∃ tail ∈ manager.tails ps, Program.compile tail rules = .error cause := by
  cases ps with
  | nil =>
    rw [replacementsOf, fresh] at h
    split at h
    · rename_i cause hcompile
      cases h
      exact ⟨cause, rfl, _, List.mem_singleton_self _, hcompile⟩
    · cases h
  | cons p ps =>
    obtain ⟨q, hq, hmerged⟩ := exists_of_mapM_eq_error h
    rw [mergedOf, mergedWith] at hmerged
    split at hmerged
    · rename_i cause hcompile
      cases hmerged
      exact ⟨cause, rfl, q.instructions, List.mem_map_of_mem hq, hcompile⟩
    · cases hmerged

theorem encodable_of_replacementsOf {rules : List DeviceRule} {ps : List KeptProgram}
    {merged : List Replacement} (hencodable : ∀ p ∈ ps, p.instructions.Encodable)
    (h : manager.replacementsOf rules ps = .ok merged) :
    ∀ r ∈ merged, r.instructions.Encodable := by
  have htails : ∀ tail ∈ manager.tails ps, Program.Encodable tail := by
    intro tail htail
    cases ps with
    | nil =>
      rw [List.mem_singleton.mp htail]
      exact Program.encodable_constant _
    | cons p ps =>
      obtain ⟨q, hq, rfl⟩ := List.mem_map.mp htail
      exact hencodable q hq
  refine forall_mem_of_forall₂ (manager.compile_tails h) htails ?_
  intro tail r htail hr
  exact encodable_compile htail hr

theorem exec_apply_of_uncounted {path : Path} {rules : List DeviceRule} {μ μ' : Metrics} {s s' : σ}
    {r : Except FilterError ApplyOutcome}
    (h : (manager.applyUncounted path rules).exec μ s = (r, μ', s')) :
    (manager.apply path rules).exec μ s
      = (r, μ'.add (.applied .v2 (outcomeLabel r)) 1, s') := by
  rw [Manager.apply, Counted.exec_counted_result (c := fun r => .applied .v2 (outcomeLabel r)), h]

theorem exec_apply_managed {path : Path} {s s1 : σ}
    (htest : manager.isExternallyManaged path s = (true, s1)) (rules : List DeviceRule)
    (μ : Metrics) :
    (manager.apply path rules).exec μ s
      = (.ok .externallyManaged, μ.add (.applied .v2 .externallyManaged) 1, s1) := by
  refine manager.exec_apply_of_uncounted ?_
  rw [Manager.applyUncounted, Counted.exec_bind, Counted.exec_lift, htest]
  rfl

section
variable {manager} [DecidableEq Cgroup] {view : KernelView σ Handle Cgroup}
variable (h : view.Faithful manager.kernel) {s : σ} {v : KernelStore Cgroup} (μ : Metrics)
include h

theorem Ready.exchangeable (hs : view.Shows s v) {c : Cgroup} {ps : List KeptProgram}
    (hready : Ready v c ps) : Exchangeable v c ps where
  length := by
    have hpositive : 0 < v.room := Nat.lt_of_lt_of_le (by omega) hready.room
    exact length_attached_lt h hs hpositive hready.nodup
  permitted := hready.permitted
  programs := hready.programs
  readable := hready.readable
  room := hready.room

theorem exec_exchange (hs : view.Shows s v) {c : Cgroup}
    {olds : List (Attached Handle)} (hids : olds.map (·.id) = v.accessible c)
    (hhandles : ∀ old ∈ olds, view.idOf old.handle = old.id) {merged : List Replacement}
    (hencodable : ∀ r ∈ merged, r.instructions.Encodable) (hroom : merged.length ≤ v.room) :
    ∃ ids w μ' s', Counted.exec (do
        let loaded ← manager.loadAll merged
        manager.detachAll c olds
        manager.attachAll c loaded
        return ApplyOutcome.replaced olds.length loaded.length) μ s
      = (.ok (.replaced olds.length merged.length), μ', s') ∧
      StoreLoaded v (merged.map (manager.kept view)) ids w ∧
      view.Shows s' (w.setAttached c ((v.attached c).diff (v.accessible c) ++ ids)) := by
  obtain ⟨handles, w, μ1, s1, hload, hs1, hloaded⟩ := exec_loadAll h μ hs hencodable hroom
  have hsub : (olds.map (·.id)).Subperm (w.attached c) := by
    rw [hids, hloaded.attached]
    exact List.filter_sublist.subperm
  obtain ⟨μ2, s2, hdetach, hs2⟩ := exec_detachAll h μ1 hs1 c hhandles hsub
  have hheld : ∀ handle ∈ handles, (w.program? (view.idOf handle)).isSome := fun handle hmem =>
    hloaded.isSome_of_mem (List.mem_map_of_mem hmem)
  obtain ⟨μ3, s3, hattach, hs3⟩ := exec_attachAll h μ2 hs2 c hheld
  have hlength : handles.length = merged.length := by simpa using hloaded.length_ids
  refine ⟨handles.map view.idOf, w, μ3, s3, ?_, hloaded, ?_⟩
  · rw [Counted.exec_bind, hload]
    dsimp only
    rw [Counted.exec_bind, hdetach]
    dsimp only
    rw [Counted.exec_bind, hattach, ← hlength]
    rfl
  · rw [hids, hloaded.attached] at hs3
    simpa using hs3

theorem exec_replace (hs : view.Shows s v) (path : Path) (rules : List DeviceRule)
    {ps : List KeptProgram} (hexchangeable : Exchangeable v (view.cgroupAt path) ps) :
    ∃ r μ' s' v', (manager.replace path rules).exec μ s = (r, μ', s') ∧ view.Shows s' v' ∧
      manager.AppliedTo view rules v (view.cgroupAt path) ps r v' := by
  obtain ⟨s1, hopen, hs1⟩ := h.openCgroup s v hs path
  obtain ⟨olds, μ2, s2, hs2, hlist, hids, hhandles⟩ :=
    h.listAttached μ hs1 (view.cgroupAt path) hexchangeable.length hexchangeable.permitted
  have holds : olds.map (fun old => v.program? (view.idOf old.handle)) = ps.map some := by
    rw [← hexchangeable.programs, ← hids, List.map_map]
    exact List.map_congr_left fun old hold => by rw [hhandles old hold]; rfl
  have hlength : olds.length = ps.length := by simpa using congrArg List.length holds
  obtain ⟨μ3, s3, hs3, hmerge⟩ := exec_replacements h μ2 hs2 rules holds hexchangeable.readable
  rw [Manager.replace, Counted.exec_bind, Manager.openCgroup, Counted.exec_ofExceptWith, hopen]
  dsimp only [Except.mapError]
  rw [Counted.exec_bind, Manager.listAttached, Counted.exec_adapt, hlist]
  dsimp only [Except.mapError]
  rw [Counted.exec_bind, hmerge]
  cases hmerged : manager.replacementsOf rules ps with
  | error e => exact ⟨_, _, _, v, rfl, hs3, .rejected hmerged⟩
  | ok merged =>
    dsimp only
    rw [Counted.exec_bind, Counted.exec_count]
    dsimp only
    obtain ⟨reply, s4, hraise, hs4⟩ := h.raiseMemlock s3 v hs3
    rw [Counted.exec_bind, Counted.exec_lift, hraise]
    have hroom : merged.length ≤ v.room := by
      rw [manager.length_replacementsOf hmerged]
      exact hexchangeable.room
    have hencodable := manager.encodable_of_replacementsOf
      (fun p hp => (hexchangeable.readable p hp).1) hmerged
    obtain ⟨ids, w, μ5, s5, hrun, hloaded, hs5⟩ :=
      exec_exchange h _ hs4 hids hhandles hencodable hroom
    have hreplaced := AppliedTo.replaced (c := view.cgroupAt path) hmerged hloaded
    rw [← hlength] at hreplaced
    exact ⟨_, _, _, _, hrun, hs5, hreplaced⟩

theorem exec_apply_exchangeable {path : Path} {s1 : σ}
    (htest : manager.isExternallyManaged path s = (false, s1)) (hs1 : view.Shows s1 v)
    (rules : List DeviceRule) {ps : List KeptProgram}
    (hexchangeable : Exchangeable v (view.cgroupAt path) ps) :
    ∃ r μ' s' v', (manager.apply path rules).exec μ s = (r, μ', s') ∧ view.Shows s' v' ∧
      manager.AppliedTo view rules v (view.cgroupAt path) ps r v' := by
  obtain ⟨r, μ2, s2, v', hreplace, hs2, happlied⟩ := exec_replace h μ hs1 path rules hexchangeable
  have huncounted : (manager.applyUncounted path rules).exec μ s = (r, μ2, s2) := by
    rw [Manager.applyUncounted, Counted.exec_bind, Counted.exec_lift, htest]
    exact hreplace
  exact ⟨r, _, s2, v', manager.exec_apply_of_uncounted huncounted, hs2, happlied⟩

theorem exec_apply_unmanaged {path : Path} {s1 : σ}
    (htest : manager.isExternallyManaged path s = (false, s1)) (hs1 : view.Shows s1 v)
    (rules : List DeviceRule) {ps : List KeptProgram} (hready : Ready v (view.cgroupAt path) ps) :
    ∃ r μ' s' v', (manager.apply path rules).exec μ s = (r, μ', s') ∧ view.Shows s' v' ∧
      manager.AppliedTo view rules v (view.cgroupAt path) ps r v' :=
  exec_apply_exchangeable h μ htest hs1 rules (hready.exchangeable h hs1)

theorem exec_apply (hs : view.Shows s v) {path : Path} (howns : manager.Owns view path)
    (rules : List DeviceRule) {ps : List KeptProgram} (hready : Ready v (view.cgroupAt path) ps) :
    ∃ r μ' s' v', (manager.apply path rules).exec μ s = (r, μ', s') ∧ view.Shows s' v' ∧
      manager.AppliedTo view rules v (view.cgroupAt path) ps r v' := by
  obtain ⟨s1, htest, hs1⟩ := howns s v hs
  exact exec_apply_unmanaged h μ htest hs1 rules hready

end

end DeviceFilter.Manager
