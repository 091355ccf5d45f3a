import DeviceFilter.Text.Blank
import Mathlib.Data.List.Basic

/-!
Trimmed texts. What trimming leaves begins and ends with a character that is no blank, and only
blanks stand around it; no other part of a text is like that.
-/
set_option autoImplicit false

namespace DeviceFilter.Text

variable {text inner front back : List Char}

/-- What stands in `text` between the blanks at its ends. -/
structure Trims (text inner : List Char) : Prop where
  around : ∃ front back, text = front ++ (inner ++ back) ∧ isBlankText front ∧ isBlankText back
  first : ∀ c, inner.head? = some c → ¬ isBlank c
  last : ∀ c, inner.getLast? = some c → ¬ isBlank c

theorem isBlankText_reverse (text : List Char) : isBlankText text.reverse = isBlankText text :=
  List.all_reverse

theorem isBlankText_append :
    isBlankText (front ++ back) ↔ isBlankText front ∧ isBlankText back := by
  rw [isBlankText, List.all_append, Bool.and_eq_true]
  rfl

/-! ## Dropping blanks from the front -/

theorem trimLeft_append (hfront : isBlankText front)
    (hinner : ∀ c, inner.head? = some c → ¬ isBlank c) : trimLeft (front ++ inner) = inner := by
  rw [trimLeft, List.dropWhile_append_of_pos (List.all_eq_true.mp hfront)]
  cases inner with
  | nil => rfl
  | cons c rest => exact List.dropWhile_cons_of_neg (hinner c rfl)

theorem exists_append_trimLeft (text : List Char) :
    ∃ front, text = front ++ trimLeft text ∧ isBlankText front :=
  ⟨text.takeWhile isBlank, List.takeWhile_append_dropWhile.symm, List.all_takeWhile⟩

theorem not_isBlank_head_trimLeft {c : Char} (h : (trimLeft text).head? = some c) :
    ¬ isBlank c := by
  have hnot := List.head?_dropWhile_not isBlank text
  rw [← trimLeft, h] at hnot
  simpa using hnot

/-! ## Trimming -/

theorem trimRight_eq (text : List Char) : trimRight text = (trimLeft text.reverse).reverse := rfl

theorem trims_trim (text : List Char) : Trims text (trim text) := by
  obtain ⟨front, hfront, hblank⟩ := exists_append_trimLeft text
  obtain ⟨back, hback, hblank'⟩ := exists_append_trimLeft (trimLeft text).reverse
  have hsplit : trimLeft text = trim text ++ back.reverse := by
    rw [trim, trimRight_eq, ← List.reverse_append, ← hback, List.reverse_reverse]
  constructor
  · refine ⟨front, back.reverse, ?_, hblank, ?_⟩
    · rw [← hsplit]
      exact hfront
    · rwa [isBlankText_reverse]
  · intro c hc
    -- The first character is that of the text without the blanks in front.
    have hhead : (trimLeft text).head? = some c := by
      rw [hsplit, List.head?_append, hc]
      rfl
    exact not_isBlank_head_trimLeft hhead
  · intro c hc
    rw [trim, trimRight_eq, List.getLast?_reverse] at hc
    exact not_isBlank_head_trimLeft hc

theorem Trims.eq_trim (h : Trims text inner) : inner = trim text := by
  obtain ⟨⟨front, back, rfl, hfront, hback⟩, hfirst, hlast⟩ := h
  cases inner with
  | nil =>
    have hblank : isBlankText (front ++ back) := isBlankText_append.mpr ⟨hfront, hback⟩
    have hleft : trimLeft (front ++ back ++ []) = [] := trimLeft_append hblank nofun
    rw [List.append_nil] at hleft
    rw [List.nil_append, trim, hleft]
    rfl
  | cons c rest =>
    have hleft : trimLeft (front ++ (c :: rest ++ back)) = c :: rest ++ back := by
      apply trimLeft_append hfront
      rintro _ ⟨⟩
      exact hfirst c rfl
    have hright : trimLeft (c :: rest ++ back).reverse = (c :: rest).reverse := by
      rw [List.reverse_append]
      apply trimLeft_append
      · rwa [isBlankText_reverse]
      · rwa [List.head?_reverse]
    rw [trim, hleft, trimRight_eq, hright, List.reverse_reverse]

theorem trim_eq_nil_iff (text : List Char) : trim text = [] ↔ isBlankText text := by
  constructor
  · intro h
    obtain ⟨front, back, htext, hfront, hback⟩ := (trims_trim text).around
    rw [htext, h, List.nil_append]
    exact isBlankText_append.mpr ⟨hfront, hback⟩
  · intro h
    have hempty : Trims text [] := ⟨⟨text, [], (List.append_nil _).symm, h, rfl⟩, nofun, nofun⟩
    exact hempty.eq_trim.symm

end DeviceFilter.Text
