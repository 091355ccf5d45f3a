import DeviceFilter.Decimal.Integer
import DeviceFilter.Decimal.Shortest

/-!
JSON numbers. An integer that fits 64 bits stays exact; everything else becomes a floating-point
number, computed from the leading digits that fit 64 bits and a power of ten. Negative zero is no
integer.
-/
set_option autoImplicit false

namespace DeviceFilter.Json

inductive Number where
  | integer (n : Int)
  | float (x : Float)

def maxUnsigned : Nat := 18446744073709551615

/-- Appends digits to `n` as long as the result fits 64 bits; the second part counts them. -/
def absorb : Nat → List Char → Nat × Nat
  | n, [] => (n, 0)
  | n, c :: cs =>
    let next := 10 * n + Decimal.digitValue c
    if next > maxUnsigned then (n, 0)
    else
      let (total, count) := absorb next cs
      (total, count + 1)

/-- An exponent kept within 32 bits. -/
def clampExponent (e : Int) : Int := max (-2147483648) (min 2147483647 e)

def powerOfTen (n : Nat) : Float := Float.ofScientific 1 false n

/-- `x * 10 ^ exponent` by steps of at most 308 places, nothing when it is too large. -/
def scaleFloat : Nat → Float → Int → Option Float
  | 0, x, _ => some x
  | fuel + 1, x, exponent =>
    if exponent.natAbs ≤ 308 then
      if 0 ≤ exponent then
        let y := x * powerOfTen exponent.natAbs
        if y.isInf then none else some y
      else some (x / powerOfTen exponent.natAbs)
    else if x == 0.0 then some x
    else if 0 ≤ exponent then none
    else scaleFloat fuel (x / powerOfTen 308) (exponent + 308)

/-- Four steps of 308 places bring every 64-bit number to zero. -/
def floatOfParts (negative : Bool) (significand : Nat) (exponent : Int) : Option Float :=
  (scaleFloat 8 (UInt64.ofNat significand).toFloat exponent).map fun x =>
    if negative then -x else x

/-- An integer without fraction and exponent. -/
def Number.ofInteger (negative : Bool) (n : Nat) : Number :=
  if negative then
    if 1 ≤ n ∧ n ≤ 9223372036854775808 then .integer (-(n : Int))
    else .float (-(UInt64.ofNat n).toFloat)
  else .integer n

/-- The fewest digits that read back, positional for magnitudes from `10 ^ -5` to below `10 ^ 16`
and always with a fraction there; otherwise one leading digit and a signed exponent without leading
zeros. -/
def floatText (x : Float) : String :=
  let sign := if x.toBits >>> 63 = 1 then "-" else ""
  let d := (Decimal.Binary.ofBits x.toBits).shortest
  let digits := (toString d.digits).toList
  let lead := (digits.length : Int) + d.exponent - 1
  let zeros (n : Int) : List Char := List.replicate n.toNat '0'
  let body :=
    if d.digits = 0 then ['0', '.', '0']
    else if -5 ≤ lead ∧ lead ≤ 15 then
      if 0 ≤ d.exponent then digits ++ zeros d.exponent ++ ['.', '0']
      else if 0 ≤ lead then
        let whole := (lead + 1).toNat
        digits.take whole ++ '.' :: digits.drop whole
      else '0' :: '.' :: zeros (-lead - 1) ++ digits
    else
      let fraction := digits.drop 1
      let mantissa := if fraction = [] then digits else digits.take 1 ++ '.' :: fraction
      mantissa ++ 'e' :: (if lead < 0 then '-' else '+') :: (toString lead.natAbs).toList
  sign ++ String.ofList body

end DeviceFilter.Json
