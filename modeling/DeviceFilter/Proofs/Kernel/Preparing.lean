import DeviceFilter.Manager
import DeviceFilter.Proofs.Kernel.Trace

/-!
Preparing calls. Enumerating the programs of a cgroup and reading them back only asks the kernel,
and when it fails, it fails before anything could be detached.
-/
set_option autoImplicit false

namespace DeviceFilter

/-- Failures before anything is detached. -/
def BpfError.isEarly : BpfError → Bool
  | attach _ => false
  | detach _ _ => false
  | _ => true

def FilterError.isEarly : FilterError → Bool
  | bpf cause => cause.isEarly
  | _ => true

/-- Calls that neither load nor detach nor attach, with a result or an early failure. -/
def Prepares {ε α Handle Cgroup : Type} (early : ε → Bool) (post : α → Trace Handle Cgroup → Prop)
    (r : Except ε α) (t : Trace Handle Cgroup) : Prop :=
  (∀ c ∈ t, c.phase = 0) ∧
    match r with
    | .ok a => post a t
    | .error e => early e

section
variable {σ ε α β Handle Cgroup : Type} {early : ε → Bool}

theorem Prepares.imp {post weaker : α → Trace Handle Cgroup → Prop} {r : Except ε α}
    {t : Trace Handle Cgroup} (h : Prepares early post r t) (hpost : ∀ a, post a t → weaker a t) :
    Prepares early weaker r t := by
  refine ⟨h.1, ?_⟩
  cases r with
  | ok a => exact hpost a h.2
  | error e => exact h.2

theorem Prepares.mapError {f : ε → FilterError} {post : α → Trace Handle Cgroup → Prop}
    {r : Except ε α} {t : Trace Handle Cgroup} (h : Prepares early post r t)
    (hf : ∀ e, early e → (f e).isEarly) : Prepares FilterError.isEarly post (r.mapError f) t := by
  refine ⟨h.1, ?_⟩
  cases r with
  | ok a => exact h.2
  | error e => exact hf e h.2

/-- Preparations one after another. -/
theorem CountedRecords.bind_prepares {x : Counted ε (StateM (Trace Handle Cgroup × σ)) α}
    {y : Counted ε (StateM σ) α} {f : α → Counted ε (StateM (Trace Handle Cgroup × σ)) β}
    {g : α → Counted ε (StateM σ) β} {mid : α → Trace Handle Cgroup → Prop}
    {post : β → Trace Handle Cgroup → Prop}
    (hx : CountedRecords x y fun r t _ => Prepares early mid r t)
    (hf : ∀ a t, mid a t →
      CountedRecords (f a) (g a) fun r u _ => Prepares early (fun b u => post b (t ++ u)) r u) :
    CountedRecords (x >>= f) (y >>= g) fun r t _ => Prepares early post r t := by
  refine hx.bind (fun e t _ h => h) fun a t _ h => (hf a t h.2).mono fun r u _ hu => ?_
  refine ⟨fun c hc => ?_, ?_⟩
  · rcases List.mem_append.mp hc with hc | hc
    · exact h.1 c hc
    · exact hu.1 c hc
  · cases r with
    | ok b => exact hu.2
    | error e => exact hu.2

theorem CountedRecords.lift_prepares {x : StateM (Trace Handle Cgroup × σ) α} {y : StateM σ α}
    {post : α → Trace Handle Cgroup → Prop} (hx : Records x y post)
    (h : ∀ a t, post a t → ∀ c ∈ t, c.phase = 0) :
    CountedRecords (liftM x : Counted ε (StateM (Trace Handle Cgroup × σ)) α) (liftM y)
      fun r t _ => Prepares early post r t :=
  .lift hx fun a t ht => ⟨h a t ht, ht⟩

theorem CountedRecords.return_prepares {r : Except ε α} (h : ∀ e, r = .error e → early e) :
    CountedRecords (ExceptT.mk (return r) : Counted ε (StateM (Trace Handle Cgroup × σ)) α)
      (ExceptT.mk (return r)) fun r t _ => Prepares early (fun _ t => t = []) r t := by
  refine .mk_return ⟨by simp, ?_⟩
  cases r with
  | ok a => rfl
  | error e => exact h e rfl

theorem CountedRecords.count_prepares {c : Counter} {n : Nat} :
    CountedRecords (Counted.count c n : Counted ε (StateM (Trace Handle Cgroup × σ)) Unit)
      (Counted.count c n) fun r t _ => Prepares early (fun _ t => t = []) r t :=
  .count ⟨by simp, rfl⟩

end

/-! ## Enumerating -/

namespace Kernel

variable {σ Handle Cgroup : Type} (k : Kernel (StateM σ) Handle Cgroup)

theorem records_queryOnce (cgroup : Cgroup) (capacity : Nat) :
    Records (k.recorded.queryOnce cgroup capacity) (k.queryOnce cgroup capacity)
      (Prepares BpfError.isEarly fun _ t => t.opened = []) := by
  refine (records_recording _ (k.query cgroup capacity)).bind fun reply t ht => ?_
  subst ht
  rcases reply with (attached | cause) | reply
  · exact .pure ⟨by simp [KernelRecord.phase], rfl⟩
  · exact .pure ⟨by simp [KernelRecord.phase], rfl⟩
  · exact .pure ⟨by simp [KernelRecord.phase], rfl⟩

theorem records_idsWithin (cgroup : Cgroup) (attempts capacity : Nat) :
    CountedRecords (k.recorded.idsWithin cgroup attempts capacity)
      (k.idsWithin cgroup attempts capacity)
      fun r t _ => Prepares BpfError.isEarly (fun _ t => t.opened = []) r t := by
  induction attempts generalizing capacity with
  | zero => exact .throw ⟨by simp, rfl⟩
  | succ attempts ih =>
    have hquery := k.records_queryOnce cgroup capacity
    refine CountedRecords.bind_prepares (.ofExcept hquery fun _ _ h => h) fun outcome t ht => ?_
    cases outcome with
    | complete ids => exact .pure ⟨by simp, by simp [ht]⟩
    | insufficient required =>
      refine .bind_prepares (.count_prepares) fun _ u hu => ?_
      refine (ih _).mono fun r v _ h => h.imp fun ids hids => ?_
      simp [ht, hu, hids]

theorem records_openAll (ids : List UInt32) :
    CountedRecords (k.recorded.openAll ids) (k.openAll ids)
      fun r t _ => Prepares BpfError.isEarly (fun attached t => t.opened = attached) r t := by
  induction ids with
  | nil => exact .pure ⟨by simp, rfl⟩
  | cons id ids ih =>
    refine (CountedRecords.lift_prepares (records_recording _ (k.openProgram id)) ?_).bind_prepares
      fun reply t ht => ?_
    · rintro reply t rfl
      simp [KernelRecord.phase]
    subst ht
    cases reply with
    | ok handle =>
      refine ih.bind_prepares fun attached u hu => ?_
      exact .pure ⟨by simp, by simp [Trace.opened, ← hu]⟩
    | error cause =>
      refine .ite ?_ (.throw ⟨by simp, rfl⟩)
      refine .bind_prepares (.count_prepares) fun _ u hu => ?_
      refine ih.mono fun r v _ h => h.imp fun attached hattached => ?_
      subst hu hattached
      rfl

theorem records_listAttached (cgroup : Cgroup) :
    CountedRecords (k.recorded.listAttached cgroup) (k.listAttached cgroup)
      fun r t _ => Prepares BpfError.isEarly (fun attached t => t.opened = attached) r t := by
  refine (k.records_idsWithin cgroup _ _).bind_prepares fun ids t ht => ?_
  refine (k.records_openAll ids).mono fun r u _ h => h.imp fun attached hattached => ?_
  rw [Trace.opened_append, ht, hattached]
  rfl

/-! ## Reading -/

theorem isEarly_of_decodedProgram {sized : ProgramInfo} {filled : InfoReply} {license : String}
    {e : BpfError} (h : decodedProgram sized filled license = .error e) : e.isEarly := by
  unfold decodedProgram at h
  split at h
  · cases h
    rfl
  · dsimp only at h
    split at h
    · cases h
      rfl
    · cases h

theorem records_readProgram (handle : Handle) (generation : Generation) (license : String) :
    Records (k.recorded.readProgram handle generation license)
      (k.readProgram handle generation license)
      (Prepares BpfError.isEarly fun _ t => t.opened = []) := by
  refine (records_recording _ (k.info handle generation {})).bind fun sized t ht => ?_
  subst ht
  cases sized with
  | error cause => exact .pure ⟨by simp [KernelRecord.phase], rfl⟩
  | ok sized =>
    refine (records_recording _ (k.info handle generation (.sizedFor sized.info))).bind
      fun filled t ht => ?_
    subst ht
    cases filled with
    | error cause => exact .pure ⟨by simp [KernelRecord.phase], rfl⟩
    | ok filled =>
      refine .pure ⟨by simp [KernelRecord.phase], ?_⟩
      cases h : decodedProgram sized.info filled license with
      | ok program => rfl
      | error e => exact isEarly_of_decodedProgram h

end Kernel

end DeviceFilter
