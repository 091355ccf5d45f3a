import DeviceFilter.Proofs.Kernel.Order
import DeviceFilter.Proofs.Manager.Phases

/-!
The order of the calls in one application and how far it gets, whatever the kernel replies.
-/
set_option autoImplicit false

namespace DeviceFilter

section
variable {σ Handle Cgroup : Type}

/-- Preparing calls that found what to replace and made what will replace it. -/
structure Prepared (path : Path) (cgroup : Cgroup) (attached : List (Attached Handle))
    (merged : List Replacement) (t : Trace Handle Cgroup) : Prop where
  preparing : ∀ c ∈ t, c.phase = 0
  cgroup_mem : .openCgroup path (.ok cgroup) ∈ t
  opened : t.opened = attached
  length_merged : merged.length = max 1 attached.length

namespace Manager

variable (manager : Manager (StateM σ) Handle Cgroup)

/-- The calls of a replacement by the phase in which it ends. -/
inductive Replacing (path : Path) :
    Except FilterError ApplyOutcome → Trace Handle Cgroup → Prop
  | unprepared {e : FilterError} {t : Trace Handle Cgroup} (ht : ∀ c ∈ t, c.phase = 0)
      (he : e.isEarly) : Replacing path (.error e) t
  | unloaded {cgroup : Cgroup} {attached : List (Attached Handle)} {merged : List Replacement}
      {e : FilterError} {t u : Trace Handle Cgroup} (ht : Prepared path cgroup attached merged t)
      (hu : Sweep manager.loadRecord loadError merged (.error e) u) :
      Replacing path (.error e) (t ++ u)
  | undetached {cgroup : Cgroup} {attached : List (Attached Handle)} {merged : List Replacement}
      {loaded : List Handle} {e : FilterError} {t u v : Trace Handle Cgroup}
      (ht : Prepared path cgroup attached merged t)
      (hu : Sweep manager.loadRecord loadError merged (.ok loaded) u)
      (hv : SweepUnit (detachRecord cgroup) detachError attached (.error e) v) :
      Replacing path (.error e) (t ++ (u ++ v))
  | unattached {cgroup : Cgroup} {attached : List (Attached Handle)} {merged : List Replacement}
      {loaded : List Handle} {e : FilterError} {t u v w : Trace Handle Cgroup}
      (ht : Prepared path cgroup attached merged t)
      (hu : Sweep manager.loadRecord loadError merged (.ok loaded) u)
      (hv : SweepUnit (detachRecord cgroup) detachError attached (.ok ()) v)
      (hw : SweepUnit (attachRecord cgroup) attachError loaded (.error e) w) :
      Replacing path (.error e) (t ++ (u ++ (v ++ w)))
  | replaced {cgroup : Cgroup} {attached : List (Attached Handle)} {merged : List Replacement}
      {loaded : List Handle} {t u v w : Trace Handle Cgroup}
      (ht : Prepared path cgroup attached merged t)
      (hu : Sweep manager.loadRecord loadError merged (.ok loaded) u)
      (hv : SweepUnit (detachRecord cgroup) detachError attached (.ok ()) v)
      (hw : SweepUnit (attachRecord cgroup) attachError loaded (.ok ()) w) :
      Replacing path (.ok (.replaced attached.length loaded.length)) (t ++ (u ++ (v ++ w)))

theorem records_exchange (path : Path) (cgroup : Cgroup) (attached : List (Attached Handle))
    (merged : List Replacement) :
    CountedRecords
      (do
        let loaded ← manager.recorded.loadAll merged
        manager.recorded.detachAll cgroup attached
        manager.recorded.attachAll cgroup loaded
        return ApplyOutcome.replaced attached.length loaded.length)
      (do
        let loaded ← manager.loadAll merged
        manager.detachAll cgroup attached
        manager.attachAll cgroup loaded
        return ApplyOutcome.replaced attached.length loaded.length)
      fun r u _ => ∀ t, Prepared path cgroup attached merged t →
        manager.Replacing path r (t ++ u) := by
  refine (manager.records_loadAll merged).bind (fun e u _ hu t ht => .unloaded ht hu) ?_
  intro loaded u _ hu
  refine (manager.records_detachAll cgroup attached).bind
    (fun e v _ hv t ht => .undetached ht hu hv) ?_
  intro _ v _ hv
  refine (manager.records_attachAll cgroup loaded).bind
    (fun e w _ hw t ht => .unattached ht hu hv hw) ?_
  intro _ w _ hw
  refine .pure fun t ht => ?_
  rw [List.append_nil]
  exact .replaced ht hu hv hw

/-- One more preparation. -/
theorem records_prepare {α : Type} {path : Path} {t : Trace Handle Cgroup}
    {x : Counted FilterError (StateM (Trace Handle Cgroup × σ)) α}
    {y : Counted FilterError (StateM σ) α}
    {f : α → Counted FilterError (StateM (Trace Handle Cgroup × σ)) ApplyOutcome}
    {g : α → Counted FilterError (StateM σ) ApplyOutcome} {mid : α → Trace Handle Cgroup → Prop}
    (ht : ∀ c ∈ t, c.phase = 0)
    (hx : CountedRecords x y fun r u _ => Prepares FilterError.isEarly mid r u)
    (hf : ∀ a u, (∀ c ∈ t ++ u, c.phase = 0) → mid a u →
      CountedRecords (f a) (g a) fun r v _ => manager.Replacing path r (t ++ u ++ v)) :
    CountedRecords (x >>= f) (y >>= g) fun r u _ => manager.Replacing path r (t ++ u) := by
  refine hx.bind ?_ ?_
  · intro e u _ hu
    exact .unprepared (List.forall_mem_append.mpr ⟨ht, hu.1⟩) hu.2
  · intro a u _ hu
    refine (hf a u (List.forall_mem_append.mpr ⟨ht, hu.1⟩) hu.2).mono fun r v _ hv => ?_
    rwa [← List.append_assoc]

theorem records_replace (path : Path) (rules : List DeviceRule) :
    CountedRecords (manager.recorded.replace path rules) (manager.replace path rules)
      fun r t _ => manager.Replacing path r t := by
  refine manager.records_prepare (List.forall_mem_nil _) (manager.records_openCgroup path) ?_
  intro cgroup t ht hcgroup
  refine manager.records_prepare ht (manager.records_listAttached cgroup) ?_
  intro attached u hu hopened
  refine manager.records_prepare hu (manager.records_replacements rules attached) ?_
  intro merged v hv hmerged
  refine manager.records_prepare hv .count_prepares ?_
  intro _ w hw hcount
  refine manager.records_prepare hw manager.records_raiseMemlock ?_
  intro _ x hx hraise
  refine (manager.records_exchange path cgroup attached merged).mono fun r z _ h => h _ ?_
  refine ⟨hx, by simp [hcgroup], ?_, hmerged.2⟩
  simp only [hcgroup, hcount, Trace.opened_append, hopened, hmerged.1, hraise,
    Trace.opened_openCgroup, List.nil_append, List.append_nil]

/-! ## Results -/

/-- How far an application got, by its result. -/
def Reached (path : Path) (t : Trace Handle Cgroup) : Except FilterError ApplyOutcome → Prop
  | .ok .externallyManaged => t = []
  | .ok (.replaced detached attached) => ∃ cgroup, .openCgroup path (.ok cgroup) ∈ t ∧
      t.filter (·.phase = 2) = t.opened.map (detachRecord cgroup · (.ok ())) ∧
      t.filter (·.phase = 3) = t.loaded.map (attachRecord cgroup · (.ok ())) ∧
      detached = t.opened.length ∧ attached = t.loaded.length
  | .error (.bpf (.detach id cause)) => ∃ cgroup done old rest,
      .openCgroup path (.ok cgroup) ∈ t ∧ t.opened = done ++ old :: rest ∧ id = old.id ∧
      t.filter (·.phase = 2) =
        done.map (detachRecord cgroup · (.ok ())) ++ [detachRecord cgroup old (.error cause)] ∧
      t.filter (·.phase = 3) = []
  | .error (.bpf (.attach cause)) => ∃ cgroup done handle rest,
      .openCgroup path (.ok cgroup) ∈ t ∧ t.loaded = done ++ handle :: rest ∧
      t.filter (·.phase = 2) = t.opened.map (detachRecord cgroup · (.ok ())) ∧
      t.filter (·.phase = 3) =
        done.map (attachRecord cgroup · (.ok ())) ++ [attachRecord cgroup handle (.error cause)]
  | .error _ => t.filter (·.phase = 2) = [] ∧ t.filter (·.phase = 3) = []

theorem reached_of_isEarly {path : Path} {t : Trace Handle Cgroup} {e : FilterError}
    (he : e.isEarly) (hdetach : t.filter (·.phase = 2) = [])
    (hattach : t.filter (·.phase = 3) = []) : Reached path t (.error e) := by
  rcases e with ⟨_, _⟩ | _ | cause
  · exact ⟨hdetach, hattach⟩
  · exact ⟨hdetach, hattach⟩
  · cases cause with
    | attach cause => cases he
    | detach id cause => cases he
    | _ => exact ⟨hdetach, hattach⟩

section
variable {path : Path} {cgroup : Cgroup} {attached : List (Attached Handle)}
variable {merged : List Replacement} {loaded : List Handle} {t u v w : Trace Handle Cgroup}

theorem loaded_succeeded (done : List (Replacement × Handle)) :
    (Sweep.succeeded manager.loadRecord done : Trace Handle Cgroup).loaded = done.map (·.2) := by
  induction done with
  | nil => rfl
  | cons d done ih => exact congrArg (d.2 :: ·) ih

theorem detached_map (attached : List (Attached Handle)) :
    Trace.detached (attached.map (detachRecord cgroup · (.ok ()))) = attached.map (·.handle) := by
  induction attached with
  | nil => rfl
  | cons old rest ih => exact congrArg (old.handle :: ·) ih

theorem loaded_of_sweep (h : Sweep manager.loadRecord loadError merged (.ok loaded) u) :
    u.loaded = loaded ∧ loaded.length = merged.length := by
  rcases h.ok_or_error with ⟨done, hr, rfl, rfl⟩ | ⟨_, _, _, _, hr, -⟩
  · cases hr
    exact ⟨manager.loaded_succeeded done, by simp⟩
  · cases hr

theorem isEarly_of_sweep {e : FilterError}
    (h : Sweep manager.loadRecord loadError merged (.error e) u) : e.isEarly := by
  rcases h.ok_or_error with ⟨_, hr, -⟩ | ⟨_, _, _, _, hr, -⟩
  · cases hr
  · cases hr
    rfl

/-- Four phases, the last of which may be cut short. -/
theorem parts_of_detached {r : Except FilterError Unit}
    (ht : Prepared path cgroup attached merged t)
    (hu : Sweep manager.loadRecord loadError merged (.ok loaded) u)
    (hv : SweepUnit (detachRecord cgroup) detachError attached (.ok ()) v)
    (hw : SweepUnit (attachRecord cgroup) attachError loaded r w) :
    (t ++ (u ++ (v ++ w))).Parts t u v w ∧ (t ++ (u ++ (v ++ w))).Ordered := by
  have hparts : (t ++ (u ++ (v ++ w))).Parts t u v w :=
    ⟨rfl, ht.preparing, hu.phase_eq fun _ _ => rfl, hv.phase_eq fun _ _ => rfl,
      hw.phase_eq fun _ _ => rfl⟩
  obtain ⟨hloaded, hlength⟩ := manager.loaded_of_sweep hu
  refine ⟨hparts, hparts.ordered (fun _ => ?_) (fun _ => ?_)⟩
  · rw [hloaded, hlength, ht.length_merged, ht.opened]
  · rw [hv.eq_of_ok, detached_map, ht.opened]

end

theorem Replacing.ordered_reached {path : Path} {r : Except FilterError ApplyOutcome}
    {t : Trace Handle Cgroup} (h : manager.Replacing path r t) :
    t.Ordered ∧ Reached path t r := by
  cases h with
  | unprepared ht he =>
    have hparts : t.Parts t [] [] [] := ⟨by simp, ht, by simp, by simp, by simp⟩
    exact ⟨hparts.ordered (absurd rfl) (absurd rfl),
      reached_of_isEarly he hparts.detachments_eq hparts.attachments_eq⟩
  | @unloaded _ _ _ _ t u ht hu =>
    have hparts : (t ++ u).Parts t u [] [] :=
      ⟨by simp, ht.preparing, hu.phase_eq fun _ _ => rfl, by simp, by simp⟩
    exact ⟨hparts.ordered (absurd rfl) (absurd rfl),
      reached_of_isEarly (manager.isEarly_of_sweep hu) hparts.detachments_eq
        hparts.attachments_eq⟩
  | @undetached cgroup _ _ _ _ t u v ht hu hv =>
    have hparts : (t ++ (u ++ v)).Parts t u v [] :=
      ⟨by simp, ht.preparing, hu.phase_eq fun _ _ => rfl, hv.phase_eq fun _ _ => rfl, by simp⟩
    obtain ⟨hloaded, hlength⟩ := manager.loaded_of_sweep hu
    have hcount : u.loaded.length = max 1 t.opened.length := by
      rw [hloaded, hlength, ht.length_merged, ht.opened]
    refine ⟨hparts.ordered (fun _ => hcount) (absurd rfl), ?_⟩
    obtain ⟨done, old, rest, cause, rfl, hattached, rfl⟩ := hv.exists_of_error
    refine ⟨cgroup, done, old, rest, List.mem_append_left _ ht.cgroup_mem, ?_, rfl,
      hparts.detachments_eq, hparts.attachments_eq⟩
    rw [hparts.opened_eq, ht.opened, hattached]
  | @unattached cgroup _ _ _ _ t u v w ht hu hv hw =>
    obtain ⟨hparts, hordered⟩ := manager.parts_of_detached ht hu hv hw
    refine ⟨hordered, ?_⟩
    obtain ⟨done, handle, rest, cause, rfl, hloaded, rfl⟩ := hw.exists_of_error
    refine ⟨cgroup, done, handle, rest, List.mem_append_left _ ht.cgroup_mem, ?_, ?_,
      hparts.attachments_eq⟩
    · rw [hparts.loaded_eq, (manager.loaded_of_sweep hu).1, hloaded]
    · rw [hparts.detachments_eq, hparts.opened_eq, ht.opened, hv.eq_of_ok]
  | @replaced cgroup _ _ _ t u v w ht hu hv hw =>
    obtain ⟨hparts, hordered⟩ := manager.parts_of_detached ht hu hv hw
    have hopened := hparts.opened_eq.trans ht.opened
    have hloaded := hparts.loaded_eq.trans (manager.loaded_of_sweep hu).1
    refine ⟨hordered, cgroup, List.mem_append_left _ ht.cgroup_mem, ?_, ?_, ?_, ?_⟩
    · rw [hparts.detachments_eq, hopened, hv.eq_of_ok]
    · rw [hparts.attachments_eq, hloaded, hw.eq_of_ok]
    · rw [hopened]
    · rw [hloaded]

/-! ## Whole applications -/

theorem records_applyUncounted (path : Path) (rules : List DeviceRule) :
    CountedRecords (manager.recorded.applyUncounted path rules)
      (manager.applyUncounted path rules) fun r t _ => t.Ordered ∧ Reached path t r := by
  refine .lift_bind (manager.records_isExternallyManaged path) ?_
  rintro b t rfl
  have hempty : Trace.Parts ([] : Trace Handle Cgroup) [] [] [] [] :=
    ⟨rfl, by simp, by simp, by simp, by simp⟩
  refine .ite (.pure ⟨hempty.ordered (absurd rfl) (absurd rfl), rfl⟩) ?_
  exact (manager.records_replace path rules).mono fun r t _ h => h.ordered_reached

/-- Whatever the kernel and the process table answer, the calls of one application come in order,
and its result tells how far they got. -/
theorem apply_ordered_reached (path : Path) (rules : List DeviceRule) (μ : Metrics) (s : σ) :
    ∃ r μ' s' t, (manager.apply path rules).exec μ s = (r, μ', s') ∧
      (manager.recorded.apply path rules).exec μ ([], s) = (r, μ', t, s') ∧
        t.Ordered ∧ Reached path t r := by
  obtain ⟨t, _, hrun, -, before, ⟨hordered, hreached⟩, -⟩ :=
    (manager.records_applyUncounted path rules).counted_result μ [] s _ _ _ rfl
  exact ⟨_, _, _, t, rfl, hrun, hordered, hreached⟩

end Manager

end

end DeviceFilter
