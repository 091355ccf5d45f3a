import DeviceFilter.Text.Blank
import Mathlib.Data.List.Basic

/-!
Lines of texts that are put together. Where a line begins, a text can be cut without changing its
lines, so blank lines put in there change none of the filled ones. Behind a text whose last line is
not ended, a blank line also ends that line, which may cost it a carriage return.
-/
set_option autoImplicit false

namespace DeviceFilter.Text

variable {current front rest blank text line : List Char}

theorem linesFrom_append_newline (current front rest : List Char) :
    linesFrom current (front ++ '\n' :: rest)
      = linesFrom current (front ++ ['\n']) ++ lines rest := by
  induction front generalizing current with
  | nil => simp [linesFrom, lines]
  | cons c front ih =>
    simp only [List.cons_append, linesFrom]
    split
    · rw [ih, List.cons_append]
    · exact ih _

/-! ## Where lines begin -/

/-- A line begins behind `front`. -/
def EndsLine (front : List Char) : Prop := front = [] ∨ front.getLast? = some '\n'

theorem lines_append (h : EndsLine front) (rest : List Char) :
    lines (front ++ rest) = lines front ++ lines rest := by
  rcases h with rfl | h
  · rfl
  · obtain ⟨before, rfl⟩ := List.getLast?_eq_some_iff.mp h
    rw [List.append_assoc]
    exact linesFrom_append_newline [] before rest

theorem endsLine_append_newline (front : List Char) : EndsLine (front ++ ['\n']) :=
  .inr List.getLast?_concat

/-! ## Blank lines -/

theorem isBlankText_dropReturn (line : List Char) :
    isBlankText (dropReturn line) = isBlankText line := by
  unfold dropReturn
  split
  · rename_i h
    obtain ⟨before, rfl⟩ := List.getLast?_eq_some_iff.mp h
    have hreturn : isBlank '\r' = true := by decide
    simp [isBlankText, hreturn]
  · rfl

theorem isBlankText_of_mem_linesFrom (hcurrent : isBlankText current) (hblank : isBlankText blank)
    (hline : line ∈ linesFrom current blank) : isBlankText line := by
  induction blank generalizing current with
  | nil =>
    cases current with
    | nil => cases hline
    | cons c current =>
      rw [linesFrom, List.mem_singleton] at hline
      · rw [hline, isBlankText, List.all_reverse]
        exact hcurrent
      · exact List.cons_ne_nil c current
  | cons c blank ih =>
    simp only [isBlankText, List.all_cons, Bool.and_eq_true] at hblank
    rw [linesFrom] at hline
    split at hline
    · rcases List.mem_cons.mp hline with rfl | hline
      · rw [isBlankText_dropReturn, isBlankText, List.all_reverse]
        exact hcurrent
      · exact ih rfl hblank.2 hline
    · refine ih ?_ hblank.2 hline
      simp only [isBlankText, List.all_cons, Bool.and_eq_true]
      exact ⟨hblank.1, hcurrent⟩

theorem filledLines_of_blank (h : isBlankText blank) : filledLines blank = [] := by
  rw [filledLines, List.filter_eq_nil_iff]
  intro line hline
  simpa using isBlankText_of_mem_linesFrom rfl h hline

theorem filledLines_append (h : EndsLine front) (rest : List Char) :
    filledLines (front ++ rest) = filledLines front ++ filledLines rest := by
  rw [filledLines, lines_append h, List.filter_append]
  rfl

/-- Blank lines can stand wherever a line begins. -/
theorem filledLines_insert (hfront : EndsLine front) (hblank : isBlankText blank)
    (rest : List Char) :
    filledLines (front ++ (blank ++ '\n' :: rest)) = filledLines (front ++ rest) := by
  have hended : isBlankText (blank ++ ['\n']) := by
    rw [isBlankText, List.all_append, Bool.and_eq_true]
    exact ⟨hblank, by decide⟩
  have hcut : blank ++ '\n' :: rest = (blank ++ ['\n']) ++ rest := by
    rw [List.append_assoc, List.singleton_append]
  rw [filledLines_append hfront, filledLines_append hfront, hcut,
    filledLines_append (endsLine_append_newline blank), filledLines_of_blank hended,
    List.nil_append]

/-! ## An unfinished last line -/

theorem exists_mem_linesFrom_newline {p : List Char → Prop}
    (hp : ∀ line, p (dropReturn line) ↔ p line) (hempty : ¬ p []) (current text : List Char) :
    (∃ line ∈ linesFrom current (text ++ ['\n']), p line) ↔
      ∃ line ∈ linesFrom current text, p line := by
  induction text generalizing current with
  | nil =>
    have hended : linesFrom current ['\n'] = [dropReturn current.reverse] := by
      simp [linesFrom]
    rw [List.nil_append, hended]
    cases current with
    | nil => simpa [linesFrom, hp] using hempty
    | cons c current =>
      have hopen : linesFrom (c :: current) [] = [(c :: current).reverse] := by simp [linesFrom]
      simp only [hopen, List.mem_singleton, exists_eq_left, hp]
  | cons c text ih =>
    simp only [List.cons_append, linesFrom]
    split
    · simp only [List.exists_mem_cons_iff, ih]
    · exact ih _

/-- What a carriage return at the end of a line does not matter to is the same of the filled lines
when blank ones are put behind the text. -/
theorem exists_mem_filledLines_behind {p : List Char → Prop}
    (hp : ∀ line, p (dropReturn line) ↔ p line) (hblank : isBlankText blank)
    (text : List Char) :
    (∃ line ∈ filledLines (text ++ '\n' :: blank), p line) ↔
      ∃ line ∈ filledLines text, p line := by
  have hcut : text ++ '\n' :: blank = (text ++ ['\n']) ++ blank := by
    rw [List.append_assoc, List.singleton_append]
  rw [hcut, filledLines_append (endsLine_append_newline text), filledLines_of_blank hblank,
    List.append_nil]
  simp only [filledLines, List.mem_filter, and_assoc]
  apply exists_mem_linesFrom_newline (p := fun line => (!isBlankText line) = true ∧ p line)
  · intro line
    rw [isBlankText_dropReturn, hp]
  · rintro ⟨h, -⟩
    cases h

/-! ## Rearranging -/

/-- `other` has the filled lines of `text` in any order, and blank lines anywhere. -/
inductive Rearranged : List Char → List Char → Prop
  | permuted {text other : List Char} (h : (filledLines other).Perm (filledLines text)) :
      Rearranged text other
  | inserted {front blank rest : List Char} (hfront : EndsLine front)
      (hblank : isBlankText blank) :
      Rearranged (front ++ rest) (front ++ (blank ++ '\n' :: rest))
  | behind {text blank : List Char} (hblank : isBlankText blank) :
      Rearranged text (text ++ '\n' :: blank)
  | trans {text middle other : List Char} (h : Rearranged text middle)
      (h' : Rearranged middle other) : Rearranged text other

theorem Rearranged.exists_iff {other : List Char} {p : List Char → Prop}
    (hp : ∀ line, p (dropReturn line) ↔ p line) (h : Rearranged text other) :
    (∃ line ∈ filledLines other, p line) ↔ ∃ line ∈ filledLines text, p line := by
  induction h with
  | permuted h => simp only [h.mem_iff]
  | inserted hfront hblank => rw [filledLines_insert hfront hblank]
  | behind hblank => exact exists_mem_filledLines_behind hp hblank _
  | trans _ _ ih ih' => exact ih'.trans ih

end DeviceFilter.Text
