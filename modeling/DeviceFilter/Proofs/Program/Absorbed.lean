import DeviceFilter.Proofs.Program.Flow

/-!
Rules that answer every event absorb what stands before them. The search for the rules that decide
comes to no earlier rule, and the layout has no place for a tail, so that neither leaves a trace in
the program, nor in the error where a later rule is invalid.
-/
set_option autoImplicit false

namespace DeviceFilter

namespace Compile

/-- The last of the rules that decide answers every event, be it `w` or one found before. -/
theorem isClosed_of_deciding_wildcard {w : DeviceRule} {r : RuleMatch} (hw : w.validate = .ok r)
    (hr : r.isWildcard = true) {rules : List DeviceRule} {rs : List RuleMatch}
    (h : deciding (rules ++ [w]) = .ok rs) : isClosed rs = true := by
  induction rules generalizing rs with
  | nil =>
    rw [List.nil_append, deciding_cons_of_wildcard hw hr] at h
    cases h
    exact hr
  | cons rule rules ih =>
    obtain ⟨r', -, ⟨hr', rfl⟩ | ⟨-, later, hlater, rfl⟩⟩ := exists_of_deciding_cons h
    · exact hr'
    · have hclosed := ih hlater
      have hne : later ≠ [] := by
        rintro rfl
        cases hclosed
      exact (isClosed_cons r' hne).trans hclosed

theorem layout_of_closed {rs : List RuleMatch} (h : isClosed rs = true) (tail tail' : Program) :
    layout tail rs = layout tail' rs := by
  simp only [layout, h, if_true]

end Compile

namespace Program

open Compile

/-- Only the rules that decide have a part in the program, and where the last of them answers every
event, the tail has none. -/
theorem compile_congr {rules rules' : List DeviceRule} (hrules : rules ≠ []) (hrules' : rules' ≠ [])
    (hdeciding : deciding rules.reverse = deciding rules'.reverse)
    (hclosed : ∀ rs, deciding rules'.reverse = .ok rs → isClosed rs = true)
    (tail tail' : Program) : compile tail rules = compile tail' rules' := by
  simp only [compile, hrules, hrules', if_false, hdeciding]
  cases hrs : deciding rules'.reverse with
  | error cause => rfl
  | ok rs =>
    have hlayout := layout_of_closed (hclosed rs hrs) tail tail'
    simp only [Except.mapError, bind, Except.bind, hlayout]

/-- A rule that answers every event absorbs all rules before it and the program that it is compiled
in front of. Whatever these are, the result is the same program or the same error. -/
theorem compile_absorbs {w : DeviceRule} {r : RuleMatch} (hw : w.validate = .ok r)
    (hr : r.isWildcard = true) (tail tail' : Program) (earlier later : List DeviceRule) :
    compile tail (earlier ++ [w] ++ later) = compile tail' ([w] ++ later) := by
  have hwhole : (earlier ++ [w] ++ later).reverse = later.reverse ++ w :: earlier.reverse := by
    simp
  have hpart : ([w] ++ later).reverse = later.reverse ++ [w] := by simp
  apply compile_congr
  · simp
  · simp
  · rw [hwhole, hpart]
    exact deciding_append_wildcard hw hr later.reverse earlier.reverse
  · intro rs hrs
    rw [hpart] at hrs
    exact isClosed_of_deciding_wildcard hw hr hrs

/-- Before such a rule an invalid rule does no harm, and neither does a branch to nowhere. -/
theorem compile_absorbs_invalid :
    DeviceRule.validate ⟨false, "x", none, none, "rwm"⟩ = .error (.unknownType "x") ∧
      compile [.jumpAlways 9]
          ([⟨false, "x", none, none, "rwm"⟩] ++ [⟨false, "a", some (-1), none, "mwr"⟩]
            ++ [⟨true, "c", some 1, some 3, "rw"⟩])
        = compile [] ([⟨false, "a", some (-1), none, "mwr"⟩]
            ++ [⟨true, "c", some 1, some 3, "rw"⟩]) ∧
      ∃ p, compile [] ([⟨false, "a", some (-1), none, "mwr"⟩]
        ++ [⟨true, "c", some 1, some 3, "rw"⟩]) = .ok p := by
  have hw : DeviceRule.validate ⟨false, "a", some (-1), none, "mwr"⟩
      = .ok ⟨false, none, none, none, none⟩ := rfl
  exact ⟨rfl, compile_absorbs hw rfl [.jumpAlways 9] [] [⟨false, "x", none, none, "rwm"⟩]
    [⟨true, "c", some 1, some 3, "rw"⟩], ⟨_, rfl⟩⟩

end Program

end DeviceFilter
