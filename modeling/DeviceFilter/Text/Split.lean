/-!
Cutting text at a separator character. `split` always gives at least one field and joining the
fields again gives the text back; `cutAt` cuts at the first separator only.
-/
set_option autoImplicit false

namespace DeviceFilter.Text

/-- The fields between separators; adjacent separators have an empty field between them. -/
def split (sep : Char) : List Char → List (List Char)
  | [] => [[]]
  | c :: cs =>
    if c = sep then [] :: split sep cs
    else match split sep cs with
      | [] => [[c]]
      | field :: fields => (c :: field) :: fields

/-- What stands before and after the first separator. -/
def cutAt (sep : Char) : List Char → Option (List Char × List Char)
  | [] => none
  | c :: cs =>
    if c = sep then some ([], cs)
    else (cutAt sep cs).map fun (before, after) => (c :: before, after)

/-- What follows `lead` in `cs`, if `cs` begins with it. -/
def dropLead? : List Char → List Char → Option (List Char)
  | [], cs => some cs
  | _ :: _, [] => none
  | l :: lead, c :: cs => if l = c then dropLead? lead cs else none

theorem split_ne_nil (sep : Char) (cs : List Char) : split sep cs ≠ [] := by
  cases cs with
  | nil => simp [split]
  | cons c cs =>
    unfold split
    split
    · simp
    · split <;> simp

theorem intercalate_split (sep : Char) (cs : List Char) :
    [sep].intercalate (split sep cs) = cs := by
  induction cs with
  | nil => rfl
  | cons c cs ih =>
    unfold split
    split
    · next h =>
      subst h
      cases hs : split c cs with
      | nil => exact absurd hs (split_ne_nil c cs)
      | cons f fs => rw [hs] at ih; simpa [List.intercalate_cons_cons] using ih
    · cases hs : split sep cs with
      | nil => exact absurd hs (split_ne_nil sep cs)
      | cons f fs =>
        rw [hs] at ih
        cases fs <;> simp_all [List.intercalate_cons_cons]

theorem cutAt_eq_some {sep : Char} {cs before after : List Char}
    (h : cutAt sep cs = some (before, after)) : cs = before ++ sep :: after ∧ sep ∉ before := by
  induction cs generalizing before with
  | nil => simp [cutAt] at h
  | cons c cs ih =>
    unfold cutAt at h
    split at h
    · next hc => simp_all
    · next hc =>
      obtain ⟨⟨b, a⟩, hb, he⟩ := Option.map_eq_some_iff.mp h
      simp only [Prod.mk.injEq] at he
      obtain ⟨rfl, rfl⟩ := he
      obtain ⟨h1, h2⟩ := ih hb
      exact ⟨by simp [h1], by simp [h2, Ne.symm hc]⟩

theorem dropLead?_eq_some_iff {lead cs rest : List Char} :
    dropLead? lead cs = some rest ↔ cs = lead ++ rest := by
  induction lead generalizing cs with
  | nil => simp [dropLead?]
  | cons l lead ih =>
    cases cs with
    | nil => simp [dropLead?]
    | cons c cs =>
      by_cases h : l = c
      · simp [dropLead?, h, ih]
      · simp [dropLead?, h, Ne.symm h]

theorem isSome_dropLead?_iff {lead cs : List Char} :
    (dropLead? lead cs).isSome = true ↔ lead <+: cs := by
  constructor
  · intro h
    obtain ⟨rest, hrest⟩ := Option.isSome_iff_exists.mp h
    exact ⟨rest, (dropLead?_eq_some_iff.mp hrest).symm⟩
  · rintro ⟨rest, rfl⟩
    rw [dropLead?_eq_some_iff.mpr rfl]
    rfl

/-- A separator between two texts separates their fields. -/
theorem split_append_sep (sep : Char) (front rest : List Char) :
    split sep (front ++ sep :: rest) = split sep front ++ split sep rest := by
  induction front with
  | nil => simp [split]
  | cons c front ih =>
    rw [List.cons_append, split, split, ih]
    split
    · rfl
    · cases hfront : split sep front with
      | nil => exact absurd hfront (split_ne_nil sep front)
      | cons field fields => rfl

end DeviceFilter.Text
