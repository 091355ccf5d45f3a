import DeviceFilter.Metrics

/-!
Counted computations on a state, as functions. `exec` runs one from given counters and a given
state; the equations say how it takes each construct, so that a run is followed step by step
without opening the monads it is made of.
-/
set_option autoImplicit false

namespace DeviceFilter.Counted

variable {ε δ σ α β : Type}

/-- The result with the counters and the state afterwards. -/
def exec (x : Counted ε (StateM σ) α) (μ : Metrics) (s : σ) : Except ε α × Metrics × σ :=
  ((x μ s).1.1, (x μ s).1.2, (x μ s).2)

variable (μ : Metrics) (s : σ)

theorem bind_apply (x : StateM σ α) (f : α → StateM σ β) :
    (x >>= f) s = f (x s).1 (x s).2 := rfl

theorem exec_bind (x : Counted ε (StateM σ) α) (f : α → Counted ε (StateM σ) β) :
    (x >>= f).exec μ s =
      match x.exec μ s with
      | (.ok a, μ', s') => (f a).exec μ' s'
      | (.error e, μ', s') => (.error e, μ', s') := by
  change exec (ExceptT.mk (x.run >>= ExceptT.bindCont f)) μ s = _
  have hx : x.exec μ s = ((x μ s).1.1, (x μ s).1.2, (x μ s).2) := rfl
  rw [hx]
  have hbind : (x.run >>= ExceptT.bindCont f) μ s
      = ExceptT.bindCont f (x μ s).1.1 (x μ s).1.2 (x μ s).2 := rfl
  cases hr : (x μ s).1.1 with
  | ok a =>
    rw [hr] at hbind
    simp only [exec]
    exact congrArg (fun r : (Except ε β × Metrics) × σ => (r.1.1, r.1.2, r.2)) hbind
  | error e =>
    rw [hr] at hbind
    exact congrArg (fun r : (Except ε β × Metrics) × σ => (r.1.1, r.1.2, r.2)) hbind

@[simp] theorem exec_lift (x : StateM σ α) :
    (liftM x : Counted ε (StateM σ) α).exec μ s = (.ok (x s).1, μ, (x s).2) := rfl

@[simp] theorem exec_ofExcept (x : StateM σ (Except ε α)) :
    (ofExcept x).exec μ s = ((x s).1, μ, (x s).2) := rfl

@[simp] theorem exec_ofExceptWith (f : δ → ε) (x : StateM σ (Except δ α)) :
    (ofExceptWith f x).exec μ s = ((x s).1.mapError f, μ, (x s).2) := rfl

@[simp] theorem exec_count (c : Counter) (n : Nat) :
    (count c n : Counted ε (StateM σ) Unit).exec μ s = (.ok (), μ.add c n, s) := rfl

theorem exec_mk_return (r : Except ε α) :
    exec (ExceptT.mk (return r) : Counted ε (StateM σ) α) μ s = (r, μ, s) := rfl

theorem exec_adapt (f : δ → ε) (x : Counted δ (StateM σ) α) :
    exec (x.adapt f) μ s = ((x.exec μ s).1.mapError f, (x.exec μ s).2) := by
  rfl

theorem exec_counted_result (c : Except ε α → Counter) (x : Counted ε (StateM σ) α) :
    exec (ExceptT.mk do
        let r ← x.run
        modify (·.add (c r) 1)
        return r) μ s =
      ((x.exec μ s).1, (x.exec μ s).2.1.add (c (x.exec μ s).1) 1, (x.exec μ s).2.2) := by
  rfl

end DeviceFilter.Counted
