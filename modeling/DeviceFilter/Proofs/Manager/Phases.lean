import DeviceFilter.Proofs.Kernel.Preparing
import DeviceFilter.Proofs.Manager.Sweep

/-!
The phases of an application, each with the calls that it makes, whatever the kernel replies.
-/
set_option autoImplicit false

namespace DeviceFilter

namespace Manager

variable {σ Handle Cgroup : Type} (manager : Manager (StateM σ) Handle Cgroup)

def recorded : Manager (StateM (Trace Handle Cgroup × σ)) Handle Cgroup where
  kernel := manager.kernel.recorded
  processes := manager.processes.unrecorded
  config := manager.config

/-! ## The ownership test -/

theorem records_hasManagerAbove (hops : Nat) (pid : Int) :
    Records (manager.recorded.hasManagerAbove hops pid) (manager.hasManagerAbove hops pid)
      fun _ t => t = [] := by
  induction hops generalizing pid with
  | zero => exact .pure rfl
  | succ hops ih =>
    refine (records_unrecorded (manager.processes.parentOf pid)).bind fun parent t ht => ?_
    subst ht
    cases parent with
    | error cause => exact .pure rfl
    | ok parent =>
      refine .ite (.pure rfl) ?_
      refine (records_unrecorded (manager.processes.nameOf parent)).bind fun name t ht => ?_
      subst ht
      cases name with
      | error cause => exact ih parent
      | ok name => exact .ite (.pure rfl) (ih parent)

theorem records_isExternallyManaged (path : Path) :
    Records (manager.recorded.isExternallyManaged path) (manager.isExternallyManaged path)
      fun _ t => t = [] :=
  .ite (manager.records_hasManagerAbove _ _) (.pure rfl)

/-! ## Preparing -/

theorem records_openCgroup (path : Path) :
    CountedRecords (manager.recorded.openCgroup path) (manager.openCgroup path)
      fun r t _ => Prepares FilterError.isEarly
        (fun cgroup t => t = [.openCgroup path (.ok cgroup)]) r t := by
  refine .ofExceptWith (records_recording _ (manager.kernel.openCgroup path)) ?_
  rintro reply t rfl
  refine ⟨by simp [KernelRecord.phase], ?_⟩
  cases reply with
  | ok cgroup => rfl
  | error cause => rfl

theorem records_listAttached (cgroup : Cgroup) :
    CountedRecords (manager.recorded.listAttached cgroup) (manager.listAttached cgroup)
      fun r t _ => Prepares FilterError.isEarly (fun attached t => t.opened = attached) r t :=
  (manager.kernel.records_listAttached cgroup).adapt fun _ _ _ h => h.mapError fun _ he => he

theorem records_readProgram (handle : Handle) :
    CountedRecords (manager.recorded.readProgram handle) (manager.readProgram handle)
      fun r t _ => Prepares FilterError.isEarly (fun _ t => t.opened = []) r t :=
  .ofExceptWith (manager.kernel.records_readProgram handle _ _) fun _ _ h =>
    h.mapError fun _ he => he

theorem isEarly_of_mergedWith {rules : List DeviceRule} {old : DecodedProgram} {e : FilterError}
    (h : manager.mergedWith rules old = .error e) : e.isEarly := by
  unfold mergedWith at h
  split at h
  · cases h
    rfl
  · cases h

theorem isEarly_of_fresh {rules : List DeviceRule} {e : FilterError}
    (h : manager.fresh rules = .error e) : e.isEarly := by
  unfold fresh at h
  split at h
  · cases h
    rfl
  · cases h

theorem records_mergeAll (rules : List DeviceRule) (attached : List (Attached Handle)) :
    CountedRecords (manager.recorded.mergeAll rules attached) (manager.mergeAll rules attached)
      fun r t _ => Prepares FilterError.isEarly
        (fun merged t => t.opened = [] ∧ merged.length = attached.length) r t := by
  induction attached with
  | nil => exact .pure ⟨by simp, rfl, rfl⟩
  | cons old rest ih =>
    refine (manager.records_readProgram old.handle).bind_prepares fun program t ht => ?_
    refine (CountedRecords.return_prepares fun e => manager.isEarly_of_mergedWith).bind_prepares
      fun replacement u hu => ?_
    refine ih.bind_prepares fun merged v hv => ?_
    subst hu
    exact .pure ⟨by simp, by simp [ht, hv.1], by simp [hv.2]⟩

theorem records_replacements (rules : List DeviceRule) (attached : List (Attached Handle)) :
    CountedRecords (manager.recorded.replacements rules attached)
      (manager.replacements rules attached)
      fun r t _ => Prepares FilterError.isEarly
        (fun merged t => t.opened = [] ∧ merged.length = max 1 attached.length) r t := by
  cases attached with
  | nil =>
    refine (CountedRecords.return_prepares fun e => manager.isEarly_of_fresh).bind_prepares
      fun replacement t ht => ?_
    subst ht
    exact .pure ⟨by simp, rfl, rfl⟩
  | cons old rest =>
    refine (manager.records_mergeAll rules (old :: rest)).mono fun r t _ h =>
      h.imp fun merged hmerged => ⟨hmerged.1, ?_⟩
    rw [hmerged.2, List.length_cons]
    omega

theorem records_raiseMemlock :
    CountedRecords
      (liftM manager.recorded.kernel.raiseMemlock :
        Counted FilterError (StateM (Trace Handle Cgroup × σ)) (Except SystemError Unit))
      (liftM manager.kernel.raiseMemlock)
      fun r t _ => Prepares FilterError.isEarly (fun _ t => t.opened = []) r t := by
  refine .lift (records_recording .raiseMemlock manager.kernel.raiseMemlock) ?_
  rintro reply t rfl
  exact ⟨by simp [KernelRecord.phase], rfl⟩

/-! ## Replacing -/

def loadRecord (r : Replacement) (reply : Except SystemError Handle) :
    KernelRecord Handle Cgroup :=
  .load r.instructions r.license manager.config.programName reply

def detachRecord (cgroup : Cgroup) (old : Attached Handle) (reply : Except SystemError Unit) :
    KernelRecord Handle Cgroup := .detach old.handle cgroup reply

def attachRecord (cgroup : Cgroup) (handle : Handle) (reply : Except SystemError Unit) :
    KernelRecord Handle Cgroup := .attach handle cgroup allowMultiple reply

def loadError (_ : Replacement) (cause : SystemError) : FilterError := .bpf (.load cause)

def detachError (old : Attached Handle) (cause : SystemError) : FilterError :=
  .bpf (.detach old.id cause)

def attachError (_ : Handle) (cause : SystemError) : FilterError := .bpf (.attach cause)

theorem records_loadAll (merged : List Replacement) :
    CountedRecords (manager.recorded.loadAll merged) (manager.loadAll merged)
      fun r t _ => Sweep manager.loadRecord loadError merged r t := by
  induction merged with
  | nil => exact .pure .nil
  | cons r rest ih =>
    have hload := records_recording (manager.loadRecord r)
      (manager.kernel.load r.instructions r.license manager.config.programName)
    have hrest (handle : Handle) :
        CountedRecords (do return handle :: (← manager.recorded.loadAll rest))
          (do return handle :: (← manager.loadAll rest))
          fun q t _ => ∃ handles, q = handles.map (handle :: ·) ∧
            Sweep manager.loadRecord loadError rest handles t := by
      refine ih.bind (fun e t _ h => ⟨.error e, rfl, h⟩) fun handles t _ h => ?_
      exact .pure ⟨.ok handles, rfl, by rwa [List.append_nil]⟩
    refine (CountedRecords.counted_call hload hrest).mono ?_
    rintro q t - (⟨cause, rfl, rfl⟩ | ⟨handle, u, rfl, handles, rfl, h⟩)
    · exact .stop r rest cause
    · exact .next r handle h

theorem records_detachAll (cgroup : Cgroup) (attached : List (Attached Handle)) :
    CountedRecords (manager.recorded.detachAll cgroup attached) (manager.detachAll cgroup attached)
      fun r t _ => SweepUnit (detachRecord cgroup) detachError attached r t := by
  induction attached with
  | nil => exact .pure ⟨.ok [], rfl, .nil⟩
  | cons old rest ih =>
    have hdetach := records_recording (detachRecord cgroup old)
      (manager.kernel.detach old.handle cgroup)
    exact (CountedRecords.counted_call hdetach fun _ => ih).mono fun _ _ _ h => .cons h

theorem records_attachAll (cgroup : Cgroup) (loaded : List Handle) :
    CountedRecords (manager.recorded.attachAll cgroup loaded) (manager.attachAll cgroup loaded)
      fun r t _ => SweepUnit (attachRecord cgroup) attachError loaded r t := by
  induction loaded with
  | nil => exact .pure ⟨.ok [], rfl, .nil⟩
  | cons handle rest ih =>
    have hattach := records_recording (attachRecord cgroup handle)
      (manager.kernel.attach handle cgroup allowMultiple)
    exact (CountedRecords.counted_call hattach fun _ => ih).mono fun _ _ _ h => .cons h

end Manager

end DeviceFilter
