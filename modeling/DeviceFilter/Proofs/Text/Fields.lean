import DeviceFilter.Text.Split
import Mathlib.Data.List.Basic

/-!
Texts that are put together with a separator. Parts without the separator come back when the text
is cut at it. Cutting everywhere gives at least one field, so that no fields at all and one empty
field are the same text.
-/
set_option autoImplicit false

namespace DeviceFilter.Text

variable {sep c : Char} {before cs field : List Char} {fields : List (List Char)}

/-! ## The first separator -/

theorem cutAt_append_sep (h : sep ∉ before) (after : List Char) :
    cutAt sep (before ++ sep :: after) = some (before, after) := by
  induction before with
  | nil => simp [cutAt]
  | cons c before ih =>
    simp only [List.mem_cons, not_or] at h
    rw [List.cons_append, cutAt, if_neg (Ne.symm h.1), ih h.2]
    rfl

theorem cutAt_eq_none_iff : cutAt sep cs = none ↔ sep ∉ cs := by
  constructor
  · intro hnone hmem
    obtain ⟨before, after, rfl, hbefore⟩ := List.eq_append_cons_of_mem hmem
    rw [cutAt_append_sep hbefore] at hnone
    cases hnone
  · intro hmem
    cases hcut : cutAt sep cs with
    | none => rfl
    | some parts =>
      obtain ⟨hparts, -⟩ := cutAt_eq_some hcut
      rw [hparts] at hmem
      exact absurd (List.mem_append_right _ List.mem_cons_self) hmem

/-! ## All separators -/

theorem split_of_not_mem (h : sep ∉ field) : split sep field = [field] := by
  induction field with
  | nil => rfl
  | cons c field ih =>
    simp only [List.mem_cons, not_or] at h
    rw [split, if_neg (Ne.symm h.1), ih h.2]

theorem split_cons_field (h : sep ∉ field) (rest : List Char) :
    split sep (field ++ sep :: rest) = field :: split sep rest := by
  rw [split_append_sep, split_of_not_mem h, List.singleton_append]

theorem split_intercalate (hne : fields ≠ []) (h : ∀ field ∈ fields, sep ∉ field) :
    split sep ([sep].intercalate fields) = fields := by
  induction fields with
  | nil => exact absurd rfl hne
  | cons field fields ih =>
    obtain ⟨hfield, hfields⟩ := List.forall_mem_cons.mp h
    cases fields with
    | nil => rw [List.intercalate_singleton, split_of_not_mem hfield]
    | cons next fields =>
      have hrest := ih (List.cons_ne_nil next fields) hfields
      rw [List.intercalate_cons_cons, List.append_assoc, List.singleton_append,
        split_cons_field hfield, hrest]

theorem not_mem_intercalate (hsep : c ≠ sep) (h : ∀ field ∈ fields, c ∉ field) :
    c ∉ [sep].intercalate fields := by
  induction fields with
  | nil => exact List.not_mem_nil
  | cons field fields ih =>
    obtain ⟨hfield, hfields⟩ := List.forall_mem_cons.mp h
    cases fields with
    | nil => rwa [List.intercalate_singleton]
    | cons next fields =>
      rw [List.intercalate_cons_cons]
      simp [hfield, hsep, ih hfields]

/-! ## Names -/

section
variable {names : List String}

/-- The names with a separator between them. -/
def joined (sep : Char) (names : List String) : List Char :=
  [sep].intercalate (names.map String.toList)

theorem split_joined (hne : names ≠ []) (h : ∀ name ∈ names, sep ∉ name.toList) :
    split sep (joined sep names) = names.map String.toList := by
  apply split_intercalate
  · intro hnil
    exact hne (List.map_eq_nil_iff.mp hnil)
  · intro field hfield
    obtain ⟨name, hname, rfl⟩ := List.mem_map.mp hfield
    exact h name hname

theorem not_mem_joined (hsep : c ≠ sep) (h : ∀ name ∈ names, c ∉ name.toList) :
    c ∉ joined sep names := by
  apply not_mem_intercalate hsep
  intro field hfield
  obtain ⟨name, hname, rfl⟩ := List.mem_map.mp hfield
  exact h name hname

theorem map_ofList_toList (names : List String) :
    (names.map String.toList).map String.ofList = names := by
  rw [List.map_map]
  exact List.map_id'' (fun _ => String.ofList_toList) names

end

end DeviceFilter.Text
