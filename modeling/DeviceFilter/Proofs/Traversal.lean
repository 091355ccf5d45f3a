import Mathlib.Data.List.Forall2

/-!
Steps that can fail, one after another; and going through a list: to the first member that lacks
something, with a function that can fail, and what holds member by member.
-/
set_option autoImplicit false

namespace DeviceFilter

variable {α β ε : Type} {f : α → Except ε β} {xs : List α} {ys : List β}

theorem exists_first_or_forall (p : α → Prop) (xs : List α) :
    (∃ front x rest, xs = front ++ x :: rest ∧ (∀ y ∈ front, p y) ∧ ¬ p x) ∨ ∀ x ∈ xs, p x := by
  induction xs with
  | nil => exact .inr (List.forall_mem_nil _)
  | cons x xs ih =>
    by_cases hx : p x
    · rcases ih with ⟨front, y, rest, rfl, hfront, hy⟩ | hall
      · exact .inl ⟨x :: front, y, rest, rfl, List.forall_mem_cons.mpr ⟨hx, hfront⟩, hy⟩
      · exact .inr (List.forall_mem_cons.mpr ⟨hx, hall⟩)
    · exact .inl ⟨[], x, xs, rfl, List.forall_mem_nil _, hx⟩

theorem exists_of_bind_eq_ok {x : Except ε α} {b : β} (h : x >>= f = .ok b) :
    ∃ a, x = .ok a ∧ f a = .ok b := by
  cases x with
  | error e => cases h
  | ok a => exact ⟨a, rfl, h⟩

theorem mapM_eq_ok_iff :
    xs.mapM f = .ok ys ↔ List.Forall₂ (fun x y => f x = .ok y) xs ys := by
  constructor
  · intro h
    induction xs generalizing ys with
    | nil =>
      cases h
      exact .nil
    | cons x xs ih =>
      rw [List.mapM_cons] at h
      cases hx : f x with
      | error e =>
        rw [hx] at h
        cases h
      | ok y =>
        cases hxs : xs.mapM f with
        | error e =>
          rw [hx, hxs] at h
          cases h
        | ok rest =>
          rw [hx, hxs] at h
          cases h
          exact .cons hx (ih hxs)
  · intro h
    induction h with
    | nil => rfl
    | cons hx _ ih =>
      rw [List.mapM_cons, hx, ih]
      rfl

theorem exists_of_mapM_eq_error {e : ε} (h : xs.mapM f = .error e) : ∃ x ∈ xs, f x = .error e := by
  induction xs with
  | nil => cases h
  | cons x xs ih =>
    rw [List.mapM_cons] at h
    cases hx : f x with
    | error e' =>
      rw [hx] at h
      cases h
      exact ⟨x, List.mem_cons_self, hx⟩
    | ok y =>
      cases hxs : xs.mapM f with
      | error e' =>
        rw [hx, hxs] at h
        cases h
        obtain ⟨x', hmem, hx'⟩ := ih hxs
        exact ⟨x', List.mem_cons_of_mem x hmem, hx'⟩
      | ok rest =>
        rw [hx, hxs] at h
        cases h

theorem forall_mem_of_forall₂ {R : α → β → Prop} {P : α → Prop} {Q : β → Prop}
    (h : List.Forall₂ R xs ys) (hxs : ∀ x ∈ xs, P x) (hstep : ∀ x y, P x → R x y → Q y) :
    ∀ y ∈ ys, Q y := by
  induction h with
  | nil => exact List.forall_mem_nil _
  | cons hxy _ ih =>
    obtain ⟨hx, hxs⟩ := List.forall_mem_cons.mp hxs
    exact List.forall_mem_cons.mpr ⟨hstep _ _ hx hxy, ih hxs⟩

end DeviceFilter
