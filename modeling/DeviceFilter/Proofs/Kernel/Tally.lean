import DeviceFilter.Proofs.Kernel.Trace

/-!
Counters and calls. Each reply of the kernel moves at most one counter, by one. A computation
tallies when its counters move by what its calls, with their replies, are worth, however it ends.

Counting comes after the reply it counts, so a part of a computation may owe something for calls
that were made before it.
-/
set_option autoImplicit false

namespace DeviceFilter

section
variable {Handle Cgroup : Type}

/-- The counter that a call moves, by its reply. -/
def KernelRecord.counter? : KernelRecord Handle Cgroup → Option Counter
  | .query _ _ (.error (.noSpace _)) => some .retries
  | .openProgram _ (.error cause) => if cause.isPermissionDenied then some .skipped else none
  | .load _ _ _ (.ok _) => some .loaded
  | .attach _ _ _ (.ok _) => some .attached
  | .detach _ _ (.ok _) => some .detached
  | _ => none

namespace Trace

/-- How far calls move a counter. -/
def tally (t : Trace Handle Cgroup) (c : Counter) : Nat := t.countP (·.counter? = some c)

/-- The programs that may not be opened, in order. -/
def refused (t : Trace Handle Cgroup) : List UInt32 :=
  t.filterMap fun
    | .openProgram id (.error cause) => if cause.isPermissionDenied then some id else none
    | _ => none

/-- The programs that were attached, in order. -/
def attached (t : Trace Handle Cgroup) : List Handle :=
  t.filterMap fun
    | .attach handle _ _ (.ok _) => some handle
    | _ => none

variable (t u : Trace Handle Cgroup)

@[simp] theorem tally_nil : tally ([] : Trace Handle Cgroup) = 0 := rfl

@[simp] theorem tally_append : tally (t ++ u) = tally t + tally u :=
  funext fun _ => List.countP_append

theorem tally_singleton_of_none {r : KernelRecord Handle Cgroup} (h : r.counter? = none) :
    tally [r] = 0 := by
  funext c
  simp [tally, h]

theorem tally_singleton_of_some {r : KernelRecord Handle Cgroup} {c : Counter}
    (h : r.counter? = some c) : tally [r] = Pi.single c 1 := by
  funext d
  by_cases hd : d = c
  · subst hd
    simp [tally, h]
  · simp [tally, h, hd, Ne.symm hd]

end Trace

end

section
variable {σ ε δ α β Handle Cgroup : Type}
variable {x : Counted ε (StateM (Trace Handle Cgroup × σ)) α} {y : Counted ε (StateM σ) α}
variable {f : α → Counted ε (StateM (Trace Handle Cgroup × σ)) β}
variable {g : α → Counted ε (StateM σ) β} {due : Counter → Nat}

/-- A run determines its calls and how far each counter moves, so what is shown of them in two ways
holds together. -/
theorem CountedRecords.and {p q : Except ε α → Trace Handle Cgroup → (Counter → Nat) → Prop}
    (hp : CountedRecords x y p) (hq : CountedRecords x y q) :
    CountedRecords x y fun r t moved => p r t moved ∧ q r t moved := by
  intro μ t s r μ' s' hy
  obtain ⟨added, moved, hrun, hmoved, hpost⟩ := hp μ t s r μ' s' hy
  obtain ⟨added', moved', hrun', hmoved', hpost'⟩ := hq μ t s r μ' s' hy
  have hadded : added' = added := by
    have hruns := hrun'.symm.trans hrun
    simpa using hruns
  have hsame : moved' = moved := by
    funext c
    exact Nat.add_left_cancel ((hmoved' c).symm.trans (hmoved c))
  subst hadded hsame
  exact ⟨added', moved', hrun, hmoved, hpost, hpost'⟩

/-- Counters move by what is owed and by what the calls are worth. -/
def Tallies (due : Counter → Nat) (x : Counted ε (StateM (Trace Handle Cgroup × σ)) α)
    (y : Counted ε (StateM σ) α) : Prop :=
  CountedRecords x y fun _ t moved => moved = due + t.tally

namespace Tallies

theorem mk_return {r : Except ε α} :
    Tallies 0 (ExceptT.mk (return r) : Counted ε (StateM (Trace Handle Cgroup × σ)) α)
      (ExceptT.mk (return r)) := CountedRecords.mk_return rfl

theorem pure {a : α} :
    Tallies 0 (Pure.pure a : Counted ε (StateM (Trace Handle Cgroup × σ)) α) (Pure.pure a) :=
  mk_return

theorem throw {e : ε} :
    Tallies 0 (MonadExcept.throw e : Counted ε (StateM (Trace Handle Cgroup × σ)) α)
      (MonadExcept.throw e) := mk_return

theorem bind (hx : Tallies due x y) (hf : ∀ a, Tallies 0 (f a) (g a)) :
    Tallies due (x >>= f) (y >>= g) := by
  refine CountedRecords.bind hx (fun _ _ _ h => h) fun a t moved hmoved => ?_
  refine (hf a).mono fun _ u more hmore => ?_
  rw [hmoved, hmore, zero_add, Trace.tally_append, add_assoc]

/-- What calls are worth is owed by what follows them. A call that fails the computation is worth
nothing. -/
theorem bind_due {mid : Except ε α → Trace Handle Cgroup → Prop}
    (hx : CountedRecords x y fun r t moved => mid r t ∧ moved = 0)
    (herror : ∀ e t, mid (.error e) t → t.tally = 0)
    (hok : ∀ a t, mid (.ok a) t → Tallies t.tally (f a) (g a)) :
    Tallies 0 (x >>= f) (y >>= g) := by
  refine CountedRecords.bind hx ?_ ?_
  · rintro e t _ ⟨hmid, rfl⟩
    rw [herror e t hmid, add_zero]
  · rintro a t _ ⟨hmid, rfl⟩
    refine (hok a t hmid).mono fun _ u more hmore => ?_
    rw [hmore, Trace.tally_append]

/-- Counting settles what is owed for one call. -/
theorem count_bind {c : Counter} {f : Unit → Counted ε (StateM (Trace Handle Cgroup × σ)) β}
    {g : Unit → Counted ε (StateM σ) β} (hf : Tallies 0 (f ()) (g ())) :
    Tallies (Pi.single c 1) (Counted.count c 1 >>= f) (Counted.count c 1 >>= g) := by
  refine CountedRecords.count_bind (hf.mono fun _ t moved hmoved => ?_)
  rw [hmoved, zero_add]

/-- One call that is counted once it succeeds, and what follows it. -/
theorem counted_call {ρ : Type} {error : δ → ε}
    {x : StateM (Trace Handle Cgroup × σ) (Except δ ρ)} {y : StateM σ (Except δ ρ)}
    {record : Except δ ρ → KernelRecord Handle Cgroup} {c : Counter}
    {f : ρ → Counted ε (StateM (Trace Handle Cgroup × σ)) β} {g : ρ → Counted ε (StateM σ) β}
    (hx : Records x y fun reply t => t = [record reply])
    (hfailed : ∀ cause, (record (.error cause)).counter? = none)
    (hdone : ∀ b, (record (.ok b)).counter? = some c) (hf : ∀ b, Tallies 0 (f b) (g b)) :
    Tallies 0 (do let b ← Counted.ofExceptWith error x; Counted.count c 1; f b)
      (do let b ← Counted.ofExceptWith error y; Counted.count c 1; g b) := by
  have hcall : CountedRecords (Counted.ofExceptWith error x) (Counted.ofExceptWith error y)
      fun r t moved => (∃ reply, r = reply.mapError error ∧ t = [record reply]) ∧ moved = 0 :=
    .ofExceptWith hx fun reply t ht => ⟨⟨reply, rfl, ht⟩, rfl⟩
  refine bind_due hcall ?_ ?_
  · rintro e t ⟨reply, hr, rfl⟩
    cases reply with
    | ok b => cases hr
    | error cause => exact Trace.tally_singleton_of_none (hfailed cause)
  · rintro b t ⟨reply, hr, rfl⟩
    cases reply with
    | error cause => cases hr
    | ok b =>
      cases hr
      rw [Trace.tally_singleton_of_some (hdone b)]
      exact count_bind (hf b)

end Tallies

end

end DeviceFilter
