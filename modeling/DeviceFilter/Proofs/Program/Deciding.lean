import DeviceFilter.Program.Compile
import Mathlib.Data.List.Forall2

/-!
The search for the rules that decide, from the last rule to the first. It passes the valid rules
that compare something and ends at the first other one: an invalid rule is its failure, and a rule
that answers every event is the last that it takes.
-/
set_option autoImplicit false

namespace DeviceFilter.Compile

section
variable {rule : DeviceRule} {r : RuleMatch} {rules : List DeviceRule}

theorem deciding_cons_of_invalid {cause : RuleError} (h : rule.validate = .error cause) :
    deciding (rule :: rules) = .error cause := by
  rw [deciding, h]
  rfl

theorem deciding_cons_of_wildcard (h : rule.validate = .ok r) (hr : r.isWildcard = true) :
    deciding (rule :: rules) = .ok [r] := by
  rw [deciding, h]
  exact if_pos hr

theorem deciding_cons_of_compares (h : rule.validate = .ok r) (hr : r.isWildcard = false) :
    deciding (rule :: rules) = (deciding rules).map (r :: ·) := by
  have hnot : ¬ r.isWildcard = true := by simp [hr]
  rw [deciding, h]
  refine (if_neg hnot).trans ?_
  cases deciding rules <;> rfl

/-- What a success of the search says about the rule it begins with. -/
theorem exists_of_deciding_cons {rs : List RuleMatch} (h : deciding (rule :: rules) = .ok rs) :
    ∃ r, rule.validate = .ok r ∧
      (r.isWildcard = true ∧ rs = [r] ∨
        r.isWildcard = false ∧ ∃ later, deciding rules = .ok later ∧ rs = r :: later) := by
  cases hrule : rule.validate with
  | error cause =>
    rw [deciding_cons_of_invalid hrule] at h
    cases h
  | ok r =>
    refine ⟨r, rfl, ?_⟩
    cases hr : r.isWildcard with
    | true =>
      rw [deciding_cons_of_wildcard hrule hr] at h
      exact .inl ⟨rfl, (Except.ok.inj h).symm⟩
    | false =>
      rw [deciding_cons_of_compares hrule hr] at h
      cases hlater : deciding rules with
      | error cause =>
        rw [hlater] at h
        cases h
      | ok later =>
        rw [hlater] at h
        exact .inr ⟨rfl, later, rfl, (Except.ok.inj h).symm⟩

end

/-- The rules are valid, have these matches, and all leave something to compare. -/
def Passed (rules : List DeviceRule) (rs : List RuleMatch) : Prop :=
  List.Forall₂ (fun rule r => rule.validate = .ok r ∧ r.isWildcard = false) rules rs

theorem deciding_append {rules : List DeviceRule} {rs : List RuleMatch} (h : Passed rules rs)
    (rest : List DeviceRule) : deciding (rules ++ rest) = (deciding rest).map (rs ++ ·) := by
  induction h with
  | nil => cases hrest : deciding rest <;> simp [hrest, Except.map]
  | cons hrule _ ih =>
    rw [List.cons_append, deciding_cons_of_compares hrule.1 hrule.2, ih]
    cases deciding rest <;> rfl

theorem Passed.deciding {rules : List DeviceRule} {rs : List RuleMatch} (h : Passed rules rs) :
    deciding rules = .ok rs := by
  have hwhole := deciding_append h []
  rw [List.append_nil] at hwhole
  simpa [Compile.deciding, Except.map] using hwhole

theorem Passed.compares {rules : List DeviceRule} {rs : List RuleMatch} (h : Passed rules rs) :
    ∀ r ∈ rs, r.isWildcard = false := by
  induction h with
  | nil => exact List.forall_mem_nil _
  | cons hrule _ ih => exact List.forall_mem_cons.mpr ⟨hrule.2, ih⟩

/-- Behind a rule that answers every event the search does not look. -/
theorem deciding_append_wildcard {w : DeviceRule} {r : RuleMatch} (hw : w.validate = .ok r)
    (hr : r.isWildcard = true) (rules rest : List DeviceRule) :
    deciding (rules ++ w :: rest) = deciding (rules ++ [w]) := by
  induction rules with
  | nil =>
    rw [List.nil_append, List.nil_append, deciding_cons_of_wildcard hw hr,
      deciding_cons_of_wildcard hw hr]
  | cons rule rules ih =>
    rw [List.cons_append, List.cons_append]
    cases hrule : rule.validate with
    | error cause => rw [deciding_cons_of_invalid hrule, deciding_cons_of_invalid hrule]
    | ok r' =>
      cases hr' : r'.isWildcard with
      | true => rw [deciding_cons_of_wildcard hrule hr', deciding_cons_of_wildcard hrule hr']
      | false =>
        rw [deciding_cons_of_compares hrule hr', deciding_cons_of_compares hrule hr', ih]

end DeviceFilter.Compile
