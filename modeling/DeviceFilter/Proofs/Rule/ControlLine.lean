import DeviceFilter.Decimal.Integer
import DeviceFilter.Proofs.Rule.Validated
import DeviceFilter.Proofs.Text.Fields

/-!
Control lines without the writer. A line that is cut at its spaces and its colon is a rule again,
and the rule on the line of a match has that match. So no two matches with the same verdict share a
line: an empty set of access modes leaves an empty field, which is not the field of all modes.
-/
set_option autoImplicit false

namespace DeviceFilter

/-! ## Numbers -/

theorem Decimal.readDigits?_toDigits (n : Nat) : readDigits? (Nat.toDigits 10 n) = some n := by
  have hdigits : (Nat.toDigits 10 n).all Char.isDigit = true := by
    rw [List.all_eq_true]
    intro c hc
    exact Nat.isDigit_of_mem_toDigits (by decide) (by decide) hc
  have hvalue : ofDigits (Nat.toDigits 10 n) = n :=
    Nat.ofDigitChars_toDigits (by decide) (by decide)
  rw [readDigits?, if_pos ⟨Nat.toDigits_ne_nil, hdigits⟩, hvalue]

/-- The number of a field; a star is none. -/
def RuleMatch.readNumber? (field : List Char) : Option (Option Int) :=
  if field = ['*'] then some none else (Decimal.readDigits? field).map fun n => some (n : Int)

/-- The number as it is written in a rule. -/
def RuleMatch.asWritten (n : Option UInt32) : Option Int := n.map fun n => (n.toNat : Int)

namespace RuleMatch

variable {c : Char} (n : Option UInt32)

theorem not_mem_numberText (hdigit : c.isDigit = false) (hstar : c ≠ '*') : c ∉ numberText n := by
  intro hc
  cases n with
  | none => exact hstar (List.mem_singleton.mp hc)
  | some n =>
    have := Nat.isDigit_of_mem_toDigits (by decide) (by decide) hc
    rw [hdigit] at this
    cases this

theorem readNumber?_numberText : readNumber? (numberText n) = some (asWritten n) := by
  cases n with
  | none => rfl
  | some n =>
    have hstar : Nat.toDigits 10 n.toNat ≠ ['*'] := by
      intro heq
      have hc : '*' ∈ Nat.toDigits 10 n.toNat := by
        rw [heq]
        exact List.mem_singleton_self '*'
      cases Nat.isDigit_of_mem_toDigits (by decide) (by decide) hc
    rw [numberText, readNumber?, if_neg hstar, Decimal.readDigits?_toDigits]
    rfl

theorem numberOf_asWritten (field : RuleField) :
    DeviceRule.numberOf field (asWritten n) = .ok n := by
  cases n with
  | none => rfl
  | some n =>
    have hbound := n.toNat_lt
    have hany : (n.toNat : Int) ≠ -1 := by omega
    have hrange : 0 ≤ (n.toNat : Int) ∧ (n.toNat : Int) < 4294967296 := by omega
    rw [asWritten, Option.map_some, DeviceRule.numberOf, if_neg hany, if_pos hrange,
      Int.toNat_natCast, UInt32.ofNat_toNat]

end RuleMatch

/-! ## Access modes -/

namespace Access

variable {a : Access} {text : String}

theorem within_of_parse (h : parse text = .ok a) : all.contains a = true := by
  rcases exists_first_or_forall IsLetter text.toList with
    ⟨before, c, after, htext, hbefore, hc⟩ | hletters
  · rw [parse, htext, ofLetters_eq_error hbefore hc] at h
    cases h
  · obtain ⟨b, hb, hall, -⟩ := exists_parse hletters
    rw [hb] at h
    cases h
    exact hall

theorem isLetter_of_mem_letters {c : Char} (h : c ∈ a.letters) : IsLetter c := by
  obtain ⟨mode, hmode, -⟩ := mem_letters_iff.mp h
  exact isLetter_iff.mpr ⟨mode, hmode⟩

theorem parse_toText (h : all.contains a = true) : parse a.toText = .ok a := by
  have htext : a.toText.toList = a.letters := String.toList_ofList
  have hknown : ∀ c ∈ a.toText.toList, IsLetter c := by
    intro c hc
    rw [htext] at hc
    exact isLetter_of_mem_letters hc
  obtain ⟨b, hb, hall, hletters⟩ := exists_parse hknown
  rw [htext] at hletters
  have hab : a.contains b = true := by
    apply (contains_iff_letters hall).mpr
    intro c hc
    exact (hletters c).mp hc
  have hba : b.contains a = true := by
    apply (contains_iff_letters h).mpr
    intro c hc
    exact (hletters c).mpr hc
  rw [hb, eq_of_contains hab hba]

end Access

/-! ## Rules -/

namespace RuleMatch

variable (m : RuleMatch)

/-- The rule that writes out what the match compares. -/
def toRule : DeviceRule where
  allow := m.allow
  type := String.ofList [typeLetter m.type]
  major := asWritten m.major
  minor := asWritten m.minor
  access := (m.access.getD .all).toText

theorem typeOf_typeLetter (type : Option DeviceType) :
    DeviceRule.typeOf (String.ofList [typeLetter type]) = .ok type := by
  rcases type with _ | _ | _
  · rfl
  · rfl
  · rfl

/-- All modes are no constraint, and only sets of the three modes are constraints. -/
theorem exists_access_of_validate {r : DeviceRule} {m : RuleMatch} (h : r.validate = .ok m) :
    ∃ a, Access.all.contains a = true ∧ m.access = if a = .all then none else some a := by
  obtain ⟨t, a, major, minor, -, ha, -, -, rfl⟩ := DeviceRule.exists_fields h
  exact ⟨a, Access.within_of_parse ha, rfl⟩

theorem validate_toRule {r : DeviceRule} (h : r.validate = .ok m) :
    m.toRule.validate = .ok m := by
  obtain ⟨a, hwithin, haccess⟩ := exists_access_of_validate h
  have hmodes : m.access.getD .all = a := by
    rw [haccess]
    split
    · exact Eq.symm ‹a = .all›
    · rfl
  have hparse : Access.parse m.toRule.access = .ok a := by
    rw [toRule, hmodes]
    exact Access.parse_toText hwithin
  have htype : DeviceRule.typeOf m.toRule.type = .ok m.type := typeOf_typeLetter m.type
  have hmajor : DeviceRule.numberOf .major m.toRule.major = .ok m.major := numberOf_asWritten _ _
  have hminor : DeviceRule.numberOf .minor m.toRule.minor = .ok m.minor := numberOf_asWritten _ _
  rw [DeviceRule.validate, htype, hparse, hmajor, hminor]
  exact congrArg (fun access => Except.ok { m with access }) haccess.symm

/-! ## Lines -/

/-- The rule on a line, with a verdict that the line itself does not tell. -/
def ofLine? (allow : Bool) (line : List Char) : Option DeviceRule :=
  match Text.split ' ' line with
  | [type, numbers, access] =>
    match Text.split ':' numbers with
    | [major, minor] => do
      let major ← readNumber? major
      let minor ← readNumber? minor
      return { allow, type := String.ofList type, major, minor, access := String.ofList access }
    | _ => none
  | _ => none

theorem split_controlLine :
    Text.split ' ' m.controlLine
      = [[typeLetter m.type], numberText m.major ++ ':' :: numberText m.minor,
          (m.access.getD .all).letters] := by
  have htype : ' ' ∉ [typeLetter m.type] := by
    rcases m.type with _ | _ | _ <;> decide
  have hnumbers : ' ' ∉ numberText m.major ++ ':' :: numberText m.minor := by
    have hspace (n : Option UInt32) : ' ' ∉ numberText n :=
      not_mem_numberText n (by decide) (by decide)
    simp [hspace]
  have hletters : ' ' ∉ (m.access.getD .all).letters := by
    intro hspace
    rcases Access.isLetter_of_mem_letters hspace with h | h | h <;> cases h
  have hline : m.controlLine = [typeLetter m.type] ++ ' ' ::
      ((numberText m.major ++ ':' :: numberText m.minor) ++ ' ' ::
        (m.access.getD .all).letters) := by
    simp [controlLine]
  rw [hline, Text.split_cons_field htype, Text.split_cons_field hnumbers,
    Text.split_of_not_mem hletters]

theorem ofLine?_controlLine : ofLine? m.allow m.controlLine = some m.toRule := by
  have hcolon (n : Option UInt32) : ':' ∉ numberText n :=
    not_mem_numberText n (by decide) (by decide)
  have hnumbers : Text.split ':' (numberText m.major ++ ':' :: numberText m.minor)
      = [numberText m.major, numberText m.minor] := by
    rw [Text.split_cons_field (hcolon _), Text.split_of_not_mem (hcolon _)]
  simp only [ofLine?, split_controlLine, hnumbers, readNumber?_numberText]
  rfl

/-- The rule on the line of a valid rule's match has that match, so the line and the verdict tell
the match. -/
theorem controlLine_lossless {r : DeviceRule} {m : RuleMatch} (h : r.validate = .ok m) :
    (∃ written, ofLine? m.allow m.controlLine = some written ∧ written.validate = .ok m) ∧
      ∀ (r' : DeviceRule) (m' : RuleMatch), r'.validate = .ok m' → m'.allow = m.allow →
        (m'.controlLine = m.controlLine ↔ m' = m) := by
  constructor
  · exact ⟨m.toRule, ofLine?_controlLine m, validate_toRule m h⟩
  · intro r' m' h' hallow
    constructor
    · intro hline
      have hread := ofLine?_controlLine m'
      rw [hline, hallow, ofLine?_controlLine] at hread
      have hvalid := validate_toRule m' h'
      rw [← Option.some.inj hread, validate_toRule m h] at hvalid
      exact (Except.ok.inj hvalid).symm
    · intro heq
      rw [heq]

/-- A rule without access modes ends in an empty field, and one with all of them does not. -/
theorem controlLine_lossless_noModes :
    DeviceRule.validate ⟨true, "c", some 195, some (-1), ""⟩
        = .ok ⟨true, some .character, some .none, some 195, none⟩ ∧
      controlLine ⟨true, some .character, some .none, some 195, none⟩ = "c 195:* ".toList ∧
      (∃ written, ofLine? true "c 195:* ".toList = some written ∧
        written.validate = .ok ⟨true, some .character, some .none, some 195, none⟩) ∧
      controlLine ⟨true, some .character, none, some 195, none⟩ ≠ "c 195:* ".toList := by
  have hvalid : DeviceRule.validate ⟨true, "c", some 195, some (-1), ""⟩
      = .ok ⟨true, some .character, some .none, some 195, none⟩ := rfl
  have hall : DeviceRule.validate ⟨true, "c", some 195, none, "mwr"⟩
      = .ok ⟨true, some .character, none, some 195, none⟩ := rfl
  have hline : controlLine ⟨true, some .character, some .none, some 195, none⟩
      = "c 195:* ".toList := by decide
  obtain ⟨hread, hsame⟩ := controlLine_lossless hvalid
  rw [hline] at hread hsame
  refine ⟨hvalid, hline, hread, ?_⟩
  intro heq
  cases (hsame _ _ hall rfl).mp heq

end RuleMatch

end DeviceFilter
