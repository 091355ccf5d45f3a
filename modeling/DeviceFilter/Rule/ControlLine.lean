import DeviceFilter.Rule.Basic

/-!
A rule as one line of a control file: type letter, major and minor number, access letters. A field
that is not compared is written `a`, `*` or `rwm`.
-/
set_option autoImplicit false

namespace DeviceFilter.RuleMatch

def numberText (n : Option UInt32) : List Char :=
  match n with
  | some n => Nat.toDigits 10 n.toNat
  | none => ['*']

def typeLetter (type : Option DeviceType) : Char := (type.map DeviceType.letter).getD 'a'

def controlLine (r : RuleMatch) : List Char :=
  typeLetter r.type :: ' ' :: numberText r.major ++ ':' :: numberText r.minor
    ++ ' ' :: (r.access.getD .all).letters

end DeviceFilter.RuleMatch
