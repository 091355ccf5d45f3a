/-!
Whole numbers written in decimal. Reading takes an optional sign, then digits only, and refuses
numbers outside the given range; leading zeros are accepted.
-/
set_option autoImplicit false

namespace DeviceFilter

/-- The integers from `low` to `high`. -/
structure IntegerRange where
  low : Int
  high : Int
deriving DecidableEq, Repr

namespace IntegerRange

def signed32 : IntegerRange := ⟨-2147483648, 2147483647⟩
def unsigned32 : IntegerRange := ⟨0, 4294967295⟩
def signed64 : IntegerRange := ⟨-9223372036854775808, 9223372036854775807⟩
def unsigned64 : IntegerRange := ⟨0, 18446744073709551615⟩

def contains (range : IntegerRange) (n : Int) : Bool :=
  decide (range.low ≤ n) && decide (n ≤ range.high)

end IntegerRange

namespace Decimal

def digitValue (c : Char) : Nat := c.toNat - '0'.toNat

/-- The number that the digits write. -/
def ofDigits (cs : List Char) : Nat := cs.foldl (fun n c => 10 * n + digitValue c) 0

def readDigits? (cs : List Char) : Option Nat :=
  if cs ≠ [] ∧ cs.all Char.isDigit then some (ofDigits cs) else none

/-- The integer of the range that the text writes. -/
def readInteger? (range : IntegerRange) (cs : List Char) : Option Int :=
  let value? : Option Int := match cs with
    | '-' :: rest => (readDigits? rest).map fun n => -(n : Int)
    | '+' :: rest => (readDigits? rest).map Int.ofNat
    | rest => (readDigits? rest).map Int.ofNat
  value?.filter range.contains

end Decimal

end DeviceFilter
