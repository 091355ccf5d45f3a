/-!
The fewest decimal digits that read back to a binary floating-point value. The value is taken
apart into `significand * 2 ^ exponent`; a decimal reads back to it when it lies between the
midpoints to its two neighbours, ends included exactly when the significand is even. All
comparisons are of natural numbers. Layout of the digits is the caller's business.
-/
set_option autoImplicit false

namespace DeviceFilter.Decimal

def twoTo (k : Nat) : Nat := Nat.pow 2 k

def tenTo (k : Nat) : Nat := Nat.pow 10 k

/-- A finite positive value `significand * 2 ^ exponent`. -/
structure Binary where
  significand : Nat
  exponent : Int
  /-- Whether the gap to the value below is half the gap to the value above. -/
  narrowBelow : Bool

/-- Takes the bits of a finite value apart and drops its sign. -/
def Binary.ofBits (bits : UInt64) : Binary :=
  let biased : Nat := (bits.toNat / twoTo 52) % twoTo 11
  let fraction : Nat := bits.toNat % twoTo 52
  if biased = 0 then ⟨fraction, -1074, false⟩
  else ⟨twoTo 52 + fraction, (biased : Int) - 1075, fraction = 0 && biased > 1⟩

/-- The decimal `digits * 10 ^ exponent`. -/
structure Scaled where
  digits : Nat
  exponent : Int
deriving Repr, DecidableEq

/-- A value and the ends of its rounding interval over one denominator. -/
structure Interval where
  low : Nat
  value : Nat
  high : Nat
  denominator : Nat
  closed : Bool

def Binary.interval (b : Binary) : Interval :=
  let up := twoTo (b.exponent - 2).toNat
  { low := (4 * b.significand - (if b.narrowBelow then 1 else 2)) * up
    value := 4 * b.significand * up
    high := (4 * b.significand + 2) * up
    denominator := twoTo (2 - b.exponent).toNat
    closed := b.significand % 2 = 0 }

namespace Interval

/-- Whether `d` rounds to the value. -/
def holds (i : Interval) (d : Scaled) : Bool :=
  let x := d.digits * i.denominator * tenTo d.exponent.toNat
  let down := tenTo (-d.exponent).toNat
  if i.closed then i.low * down ≤ x && x ≤ i.high * down
  else i.low * down < x && x < i.high * down

/-- Twice the distance of `d` from the value is compared through the sum of both neighbours. -/
def lowerIsNearer (i : Interval) (lower : Scaled) : Bool :=
  let sum := (2 * lower.digits + 1) * i.denominator * tenTo lower.exponent.toNat
  let twice := 2 * i.value * tenTo (-lower.exponent).toNat
  twice < sum || (twice = sum && lower.digits % 2 = 0)

/-- The least `k` with the value below `10 ^ k`. -/
def magnitude (i : Interval) : Int :=
  let whole := i.value / i.denominator
  if whole ≠ 0 then (Nat.toDigits 10 whole).length
  else match (List.range 400).find? (fun j => i.denominator ≤ i.value * tenTo j) with
    | some j => 1 - (j : Int)
    | none => 0

/-- The neighbour of the value on the grid `10 ^ exponent` that reads back, the nearer of two. -/
def onGrid? (i : Interval) (exponent : Int) : Option Scaled :=
  let lower : Scaled :=
    ⟨i.value * tenTo (-exponent).toNat / (i.denominator * tenTo exponent.toNat), exponent⟩
  let upper : Scaled := ⟨lower.digits + 1, exponent⟩
  match i.holds lower, i.holds upper with
  | true, true => if i.lowerIsNearer lower then some lower else some upper
  | true, false => some lower
  | false, true => some upper
  | false, false => none

end Interval

/-- Moves trailing zeros of the digits into the exponent, at most `fuel` of them. -/
def Scaled.strip (d : Scaled) : Nat → Scaled
  | 0 => d
  | fuel + 1 =>
    if d.digits ≠ 0 ∧ d.digits % 10 = 0 then Scaled.strip ⟨d.digits / 10, d.exponent + 1⟩ fuel
    else d

/-- The decimal of fewest digits that reads back to `b`, the nearest of those; seventeen digits
always suffice. -/
def Binary.shortest (b : Binary) : Scaled :=
  if b.significand = 0 then ⟨0, 0⟩
  else
    let i := b.interval
    let k := i.magnitude
    match (List.range 17).findSome? (fun (n : Nat) => i.onGrid? (k - ((n : Int) + 1))) with
    | some d => d.strip 20
    | none => ⟨i.value * tenTo 1100 / i.denominator, -1100⟩

end DeviceFilter.Decimal
