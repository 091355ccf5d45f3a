import DeviceFilter.Manager
import DeviceFilter.Proofs.Kernel.Trace

/-!
Going through a list with one call for each member, and stopping at the first failure. The result
and the calls determine each other: all calls succeed, or all before the last one, which fails.
-/
set_option autoImplicit false

namespace DeviceFilter

/-- Going through a list with one call for each member, up to the first failure: the result and
the calls. -/
inductive Sweep {α ρ Handle Cgroup : Type}
    (record : α → Except SystemError ρ → KernelRecord Handle Cgroup)
    (error : α → SystemError → FilterError) :
    List α → Except FilterError (List ρ) → Trace Handle Cgroup → Prop
  | nil : Sweep record error [] (.ok []) []
  | stop (x : α) (xs : List α) (cause : SystemError) :
      Sweep record error (x :: xs) (.error (error x cause)) [record x (.error cause)]
  | next (x : α) (y : ρ) {xs : List α} {r : Except FilterError (List ρ)}
      {t : Trace Handle Cgroup} (h : Sweep record error xs r t) :
      Sweep record error (x :: xs) (r.map (y :: ·)) (record x (.ok y) :: t)

namespace Sweep

variable {α ρ Handle Cgroup : Type}
variable {record : α → Except SystemError ρ → KernelRecord Handle Cgroup}
variable {error : α → SystemError → FilterError}
variable {xs : List α} {r : Except FilterError (List ρ)} {t : Trace Handle Cgroup}

/-- Members with the replies to their successful calls, and these calls. -/
def succeeded (record : α → Except SystemError ρ → KernelRecord Handle Cgroup)
    (done : List (α × ρ)) : Trace Handle Cgroup :=
  done.map fun d => record d.1 (.ok d.2)

theorem ok_or_error (h : Sweep record error xs r t) :
    (∃ done : List (α × ρ), r = .ok (done.map (·.2)) ∧ xs = done.map (·.1) ∧
      t = succeeded record done) ∨
    ∃ (done : List (α × ρ)) (x : α) (rest : List α) (cause : SystemError),
      r = .error (error x cause) ∧ xs = done.map (·.1) ++ x :: rest ∧
        t = succeeded record done ++ [record x (.error cause)] := by
  induction h with
  | nil => exact .inl ⟨[], rfl, rfl, rfl⟩
  | stop x xs cause => exact .inr ⟨[], x, xs, cause, rfl, rfl, rfl⟩
  | next x y h ih =>
    rcases ih with ⟨done, rfl, rfl, rfl⟩ | ⟨done, x', rest, cause, rfl, rfl, rfl⟩
    · exact .inl ⟨(x, y) :: done, rfl, rfl, rfl⟩
    · exact .inr ⟨(x, y) :: done, x', rest, cause, rfl, rfl, rfl⟩

theorem phase_eq {p : Nat} (hp : ∀ x reply, (record x reply).phase = p)
    (h : Sweep record error xs r t) : ∀ c ∈ t, c.phase = p := by
  induction h with
  | nil => exact List.forall_mem_nil _
  | stop x xs cause => exact List.forall_mem_singleton.mpr (hp x _)
  | next x y h ih => exact List.forall_mem_cons.mpr ⟨hp x _, ih⟩

end Sweep

/-- The result of a sweep whose replies carry nothing. -/
def SweepUnit {α Handle Cgroup : Type}
    (record : α → Except SystemError Unit → KernelRecord Handle Cgroup)
    (error : α → SystemError → FilterError) (xs : List α) (r : Except FilterError Unit)
    (t : Trace Handle Cgroup) : Prop :=
  ∃ replies, r = replies.map (fun _ => ()) ∧ Sweep record error xs replies t

namespace SweepUnit

variable {α Handle Cgroup : Type}
variable {record : α → Except SystemError Unit → KernelRecord Handle Cgroup}
variable {error : α → SystemError → FilterError}
variable {x : α} {xs : List α} {r : Except FilterError Unit} {t : Trace Handle Cgroup}

theorem cons (h : (∃ cause, r = .error (error x cause) ∧ t = [record x (.error cause)]) ∨
    ∃ b u, t = record x (.ok b) :: u ∧ SweepUnit record error xs r u) :
    SweepUnit record error (x :: xs) r t := by
  rcases h with ⟨cause, rfl, rfl⟩ | ⟨b, u, rfl, replies, rfl, h⟩
  · exact ⟨_, rfl, .stop x xs cause⟩
  · refine ⟨_, ?_, .next x b h⟩
    cases replies with
    | ok _ => rfl
    | error _ => rfl

theorem succeeded_eq (done : List (α × Unit)) :
    Sweep.succeeded record done = (done.map (·.1)).map fun x => record x (.ok ()) := by
  rw [List.map_map]
  rfl

theorem ok_or_error (h : SweepUnit record error xs r t) :
    (r = .ok () ∧ t = xs.map fun x => record x (.ok ())) ∨
    ∃ (done : List α) (x : α) (rest : List α) (cause : SystemError),
      r = .error (error x cause) ∧ xs = done ++ x :: rest ∧
        t = (done.map fun x => record x (.ok ())) ++ [record x (.error cause)] := by
  obtain ⟨replies, rfl, h⟩ := h
  rcases h.ok_or_error with ⟨done, rfl, rfl, rfl⟩ | ⟨done, x, rest, cause, rfl, rfl, rfl⟩
  · exact .inl ⟨rfl, succeeded_eq done⟩
  · exact .inr ⟨done.map (·.1), x, rest, cause, rfl, rfl, by rw [succeeded_eq]⟩

theorem phase_eq {p : Nat} (hp : ∀ x reply, (record x reply).phase = p)
    (h : SweepUnit record error xs r t) : ∀ c ∈ t, c.phase = p := by
  obtain ⟨replies, -, h⟩ := h
  exact h.phase_eq hp

theorem eq_of_ok (h : SweepUnit record error xs (.ok ()) t) :
    t = xs.map fun x => record x (.ok ()) := by
  rcases h.ok_or_error with ⟨-, ht⟩ | ⟨done, x, rest, cause, hr, -⟩
  · exact ht
  · cases hr

theorem exists_of_error {e : FilterError} (h : SweepUnit record error xs (.error e) t) :
    ∃ (done : List α) (x : α) (rest : List α) (cause : SystemError),
      e = error x cause ∧ xs = done ++ x :: rest ∧
        t = (done.map fun x => record x (.ok ())) ++ [record x (.error cause)] := by
  rcases h.ok_or_error with ⟨hr, -⟩ | ⟨done, x, rest, cause, hr, hxs, ht⟩
  · cases hr
  · exact ⟨done, x, rest, cause, Except.error.inj hr, hxs, ht⟩

end SweepUnit

section
variable {σ ε β Handle Cgroup : Type}

/-- One call that is counted once it succeeds, and what follows it. -/
theorem CountedRecords.counted_call {δ ρ : Type} {error : δ → ε}
    {x : StateM (Trace Handle Cgroup × σ) (Except δ ρ)} {y : StateM σ (Except δ ρ)}
    {record : Except δ ρ → KernelRecord Handle Cgroup} {c : Counter}
    {f : ρ → Counted ε (StateM (Trace Handle Cgroup × σ)) β} {g : ρ → Counted ε (StateM σ) β}
    {post : ρ → Except ε β → Trace Handle Cgroup → Prop}
    (hx : Records x y fun reply t => t = [record reply])
    (hf : ∀ b, CountedRecords (f b) (g b) fun r t _ => post b r t) :
    CountedRecords (do let b ← Counted.ofExceptWith error x; Counted.count c 1; f b)
      (do let b ← Counted.ofExceptWith error y; Counted.count c 1; g b)
      fun r t _ => (∃ cause, r = .error (error cause) ∧ t = [record (.error cause)]) ∨
        ∃ b u, t = record (.ok b) :: u ∧ post b r u := by
  refine .ofExceptWith_bind hx ?_ ?_
  · rintro cause t rfl
    exact .inl ⟨cause, rfl, rfl⟩
  · rintro b t rfl
    exact .count_bind ((hf b).mono fun r u _ h => .inr ⟨b, u, rfl, h⟩)

end

end DeviceFilter
