import DeviceFilter.Manager
import DeviceFilter.Proofs.Kernel.Faithful
import Mathlib.Data.List.Nodup
import Mathlib.Data.List.Perm.Subperm

/-!
Applications on a faithful kernel. What an application does to the store depends on the rules and
on the programs that may be opened only: it fails and leaves the store alone, or the merged programs
take the place of those programs.
-/
set_option autoImplicit false

namespace DeviceFilter

/-! ## Stores -/

section
variable {Cgroup : Type}

/-- Programs are loaded into `v` under fresh ids. -/
structure StoreLoaded (v : KernelStore Cgroup) (ps : List KeptProgram) (ids : List UInt32)
    (w : KernelStore Cgroup) : Prop where
  programs : ids.map w.program? = ps.map some
  fresh : ∀ id ∈ ids, v.program? id = none
  nodup : ids.Nodup
  older : ∀ id, (v.program? id).isSome → w.program? id = v.program? id
  attached : w.attached = v.attached
  refusal : w.refusal? = v.refusal?
  room : w.room + ps.length = v.room

theorem StoreLoaded.nil (v : KernelStore Cgroup) : StoreLoaded v [] [] v :=
  ⟨rfl, List.forall_mem_nil _, .nil, fun _ _ => rfl, rfl, rfl, rfl⟩

theorem StoreLoaded.cons {v w : KernelStore Cgroup} {id : UInt32} {ids : List UInt32}
    {p : KeptProgram} {ps : List KeptProgram} (hfresh : v.program? id = none) (hroom : 0 < v.room)
    (h : StoreLoaded (v.load id p) ps ids w) : StoreLoaded v (p :: ps) (id :: ids) w := by
  have hloaded : (v.load id p).program? id = some p := Function.update_self ..
  have hother (other : UInt32) (hne : other ≠ id) :
      (v.load id p).program? other = v.program? other := Function.update_of_ne hne ..
  have hne (other : UInt32) (hmem : other ∈ ids) : other ≠ id := by
    rintro rfl
    rw [h.fresh other hmem] at hloaded
    cases hloaded
  constructor
  · rw [List.map_cons, List.map_cons, h.programs, h.older id (by rw [hloaded]; rfl), hloaded]
  · refine List.forall_mem_cons.mpr ⟨hfresh, fun other hmem => ?_⟩
    rw [← hother other (hne other hmem)]
    exact h.fresh other hmem
  · exact List.nodup_cons.mpr ⟨fun hmem => hne id hmem rfl, h.nodup⟩
  · intro other hsome
    have hne : other ≠ id := by
      rintro rfl
      rw [hfresh] at hsome
      cases hsome
    rw [h.older other (by rwa [hother other hne]), hother other hne]
  · exact h.attached
  · exact h.refusal
  · have := h.room
    simp only [KernelStore.load, List.length_cons] at this ⊢
    omega

theorem StoreLoaded.length_ids {v w : KernelStore Cgroup} {ps : List KeptProgram}
    {ids : List UInt32} (h : StoreLoaded v ps ids w) : ids.length = ps.length := by
  simpa using congrArg List.length h.programs

theorem StoreLoaded.isSome_of_mem {v w : KernelStore Cgroup} {ps : List KeptProgram}
    {ids : List UInt32} (h : StoreLoaded v ps ids w) {id : UInt32} (hid : id ∈ ids) :
    (w.program? id).isSome := by
  have hmem : w.program? id ∈ ps.map some := h.programs ▸ List.mem_map_of_mem hid
  obtain ⟨p, -, hp⟩ := List.mem_map.mp hmem
  rw [← hp]
  rfl

end

namespace Manager

variable {σ Handle Cgroup : Type} (manager : Manager (StateM σ) Handle Cgroup)

/-! ## What is merged -/

/-- What replaces a program of the store. -/
def mergedOf (rules : List DeviceRule) (p : KeptProgram) : Except FilterError Replacement :=
  manager.mergedWith rules
    ⟨p.instructions, if p.gplCompatible then Kernel.gplLicense else manager.config.license, {}⟩

def replacementsOf (rules : List DeviceRule) :
    List KeptProgram → Except FilterError (List Replacement)
  | [] => (manager.fresh rules).map fun r => [r]
  | p :: ps => (p :: ps).mapM (manager.mergedOf rules)

theorem mergedWith_eq {rules : List DeviceRule} {program : DecodedProgram} {p : KeptProgram}
    (hinstructions : program.instructions = p.instructions)
    (hlicense : program.license =
      if p.gplCompatible then Kernel.gplLicense else manager.config.license) :
    manager.mergedWith rules program = manager.mergedOf rules p := by
  simp only [mergedOf, mergedWith, hinstructions, hlicense]

/-- A merged program as the kernel keeps it. -/
def kept (view : KernelView σ Handle Cgroup) (r : Replacement) : KeptProgram :=
  ⟨r.instructions, r.license, manager.config.programName, view.isGpl r.license⟩

section
variable {manager} [DecidableEq Cgroup] {view : KernelView σ Handle Cgroup}
variable (h : view.Faithful manager.kernel) {s : σ} {v : KernelStore Cgroup} (μ : Metrics)
include h

theorem exec_readProgram (hs : view.Shows s v) {handle : Handle} {p : KeptProgram}
    (hp : v.program? (view.idOf handle) = some p) (hencodable : p.instructions.Encodable)
    (hlength : 8 * p.instructions.length < 2 ^ 32) (rules : List DeviceRule) :
    ∃ program s', view.Shows s' v ∧
      (manager.readProgram handle).exec μ s = (.ok program, μ, s') ∧
      manager.mergedWith rules program = manager.mergedOf rules p := by
  obtain ⟨program, s', hs', hread, hinstructions, hlicense⟩ :=
    h.readProgram hs hp hencodable hlength manager.config.generation manager.config.license
  refine ⟨program, s', hs', ?_, manager.mergedWith_eq hinstructions hlicense⟩
  rw [Manager.readProgram, Counted.exec_ofExceptWith, hread]
  rfl

theorem exec_mergeAll (hs : view.Shows s v) (rules : List DeviceRule)
    {olds : List (Attached Handle)} {ps : List KeptProgram}
    (holds : olds.map (fun old => v.program? (view.idOf old.handle)) = ps.map some)
    (hreadable : ∀ p ∈ ps, p.instructions.Encodable ∧ 8 * p.instructions.length < 2 ^ 32) :
    ∃ μ' s', view.Shows s' v ∧
      (manager.mergeAll rules olds).exec μ s = (ps.mapM (manager.mergedOf rules), μ', s') := by
  induction olds generalizing ps s μ with
  | nil =>
    cases ps with
    | nil => exact ⟨μ, s, hs, rfl⟩
    | cons p ps => cases holds
  | cons old olds ih =>
    cases ps with
    | nil => cases holds
    | cons p ps =>
      obtain ⟨hold, holds⟩ := List.cons.inj holds
      obtain ⟨⟨hencodable, hlength⟩, hreadable⟩ := List.forall_mem_cons.mp hreadable
      obtain ⟨program, s', hs', hread, hmerged⟩ :=
        exec_readProgram h μ hs hold hencodable hlength rules
      rw [Manager.mergeAll, Counted.exec_bind, hread]
      dsimp only
      rw [Counted.exec_bind, Counted.exec_mk_return, hmerged, List.mapM_cons]
      cases hmergedOf : manager.mergedOf rules p with
      | error e => exact ⟨μ, s', hs', rfl⟩
      | ok replacement =>
        obtain ⟨μ', s'', hs'', hrest⟩ := ih μ hs' holds hreadable
        refine ⟨μ', s'', hs'', ?_⟩
        dsimp only
        rw [Counted.exec_bind, hrest]
        cases ps.mapM (manager.mergedOf rules) with
        | ok merged => rfl
        | error e => rfl

theorem exec_replacements (hs : view.Shows s v) (rules : List DeviceRule)
    {olds : List (Attached Handle)} {ps : List KeptProgram}
    (holds : olds.map (fun old => v.program? (view.idOf old.handle)) = ps.map some)
    (hreadable : ∀ p ∈ ps, p.instructions.Encodable ∧ 8 * p.instructions.length < 2 ^ 32) :
    ∃ μ' s', view.Shows s' v ∧ (manager.replacements rules olds).exec μ s
      = (manager.replacementsOf rules ps, μ', s') := by
  cases olds with
  | nil =>
    cases ps with
    | nil =>
      refine ⟨μ, s, hs, ?_⟩
      rw [Manager.replacements, Counted.exec_bind, Counted.exec_mk_return, replacementsOf]
      cases manager.fresh rules with
      | ok r => rfl
      | error e => rfl
    | cons p ps => cases holds
  | cons old olds =>
    cases ps with
    | nil => cases holds
    | cons p ps => exact exec_mergeAll h μ hs rules holds hreadable

/-! ## What is replaced -/

theorem exec_loadAll (hs : view.Shows s v) {merged : List Replacement}
    (hencodable : ∀ r ∈ merged, r.instructions.Encodable) (hroom : merged.length ≤ v.room) :
    ∃ handles w μ' s', (manager.loadAll merged).exec μ s = (.ok handles, μ', s') ∧
      view.Shows s' w ∧
      StoreLoaded v (merged.map (manager.kept view)) (handles.map view.idOf) w := by
  induction merged generalizing s v μ with
  | nil => exact ⟨[], v, μ, s, rfl, hs, .nil v⟩
  | cons r merged ih =>
    obtain ⟨hr, hmerged⟩ := List.forall_mem_cons.mp hencodable
    have hpositive : 0 < v.room := Nat.lt_of_lt_of_le (Nat.succ_pos _) hroom
    obtain ⟨handle, s', hload, hfresh, hs'⟩ :=
      h.load s v hs hpositive r.instructions r.license manager.config.programName hr
    have hrest : merged.length ≤ (v.load (view.idOf handle) (manager.kept view r)).room := by
      simp only [KernelStore.load, List.length_cons] at hroom ⊢
      omega
    obtain ⟨handles, w, μ', s'', hloads, hs'', hloaded⟩ := ih (μ.add .loaded 1) hs' hmerged hrest
    refine ⟨handle :: handles, w, μ', s'', ?_, hs'', .cons hfresh hpositive hloaded⟩
    rw [Manager.loadAll, Counted.exec_bind, Counted.exec_ofExceptWith, hload]
    dsimp only [Except.mapError]
    rw [Counted.exec_bind, Counted.exec_count]
    dsimp only
    rw [Counted.exec_bind, hloads]
    rfl

theorem exec_detachAll (hs : view.Shows s v) (c : Cgroup) {olds : List (Attached Handle)}
    (holds : ∀ old ∈ olds, view.idOf old.handle = old.id)
    (hsub : (olds.map (·.id)).Subperm (v.attached c)) :
    ∃ μ' s', (manager.detachAll c olds).exec μ s = (.ok (), μ', s') ∧
      view.Shows s' (v.setAttached c ((v.attached c).diff (olds.map (·.id)))) := by
  induction olds generalizing s v μ with
  | nil => exact ⟨μ, s, rfl, by simpa using hs⟩
  | cons old olds ih =>
    obtain ⟨hold, holds⟩ := List.forall_mem_cons.mp holds
    have hattached : old.id ∈ v.attached c := hsub.subset List.mem_cons_self
    obtain ⟨s', hdetach, hs'⟩ := h.detach s v hs old.handle c (by rwa [hold])
    have hrest : (olds.map (·.id)).Subperm ((v.detach c old.id).attached c) := by
      rw [KernelStore.detach, KernelStore.attached_setAttached]
      simpa using hsub.erase old.id
    rw [hold] at hs'
    obtain ⟨μ', s'', hrun, hs''⟩ := ih (μ.add .detached 1) hs' holds hrest
    refine ⟨μ', s'', ?_, ?_⟩
    · rw [Manager.detachAll, Counted.exec_bind, Counted.exec_ofExceptWith, hdetach]
      dsimp only [Except.mapError]
      rw [Counted.exec_bind, Counted.exec_count]
      exact hrun
    · simpa [KernelStore.detach, List.diff_cons] using hs''

theorem exec_attachAll (hs : view.Shows s v) (c : Cgroup) {handles : List Handle}
    (hheld : ∀ handle ∈ handles, (v.program? (view.idOf handle)).isSome) :
    ∃ μ' s', (manager.attachAll c handles).exec μ s = (.ok (), μ', s') ∧
      view.Shows s' (v.setAttached c (v.attached c ++ handles.map view.idOf)) := by
  induction handles generalizing s v μ with
  | nil => exact ⟨μ, s, rfl, by simpa using hs⟩
  | cons handle handles ih =>
    obtain ⟨hhandle, hheld⟩ := List.forall_mem_cons.mp hheld
    obtain ⟨s', hattach, hs'⟩ := h.attach s v hs handle c allowMultiple hhandle
    obtain ⟨μ', s'', hrun, hs''⟩ := ih (μ.add .attached 1) hs' hheld
    refine ⟨μ', s'', ?_, ?_⟩
    · rw [Manager.attachAll, Counted.exec_bind, Counted.exec_ofExceptWith, hattach]
      dsimp only [Except.mapError]
      rw [Counted.exec_bind, Counted.exec_count]
      exact hrun
    · simpa [KernelStore.attach] using hs''

/-- A fresh id is none of those that are attached, so these are fewer than there are ids. -/
theorem length_attached_lt (hs : view.Shows s v) (hroom : 0 < v.room) {c : Cgroup}
    (hnodup : (v.attached c).Nodup) : (v.attached c).length < 2 ^ 32 := by
  obtain ⟨handle, -, -, hfresh, -⟩ := h.load s v hs hroom [] "" "" (List.forall_mem_nil _)
  have hnew : view.idOf handle ∉ v.attached c := by
    intro hmem
    have hsome := h.held s v hs c _ hmem
    rw [hfresh] at hsome
    cases hsome
  have hids : ((view.idOf handle :: v.attached c).map UInt32.toNat).Nodup :=
    (List.nodup_cons.mpr ⟨hnew, hnodup⟩).map fun _ _ => UInt32.toNat_inj.mp
  have hrange : (view.idOf handle :: v.attached c).map UInt32.toNat ⊆ List.range (2 ^ 32) := by
    intro n hn
    obtain ⟨id, -, rfl⟩ := List.mem_map.mp hn
    exact List.mem_range.mpr id.toNat_lt
  have hbound := hids.length_le_of_subset hrange
  rw [List.length_map, List.length_cons, List.length_range] at hbound
  omega

end

end Manager

end DeviceFilter
