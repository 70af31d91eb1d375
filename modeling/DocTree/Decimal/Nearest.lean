import DocTree.Decimal

/-!
# The float nearest to a decimal number

`Decimal.toFloat` rounds a decimal number to the nearest binary64 float, a tie to the one with an
even significand. A number from the midpoint after the greatest float on becomes infinity. All
arithmetic is exact.
-/

set_option autoImplicit false
set_option relaxedAutoImplicit false

namespace DocTree

/-- The integer nearest to `numerator / denominator`, a tie to the even one. -/
def nearestNat (numerator denominator : Nat) : Nat :=
  let quotient := numerator / denominator
  let twice := 2 * (numerator % denominator)
  if twice < denominator then quotient
  else if denominator < twice then quotient + 1
  else quotient + quotient % 2

/-- The integer part of the binary logarithm of `numerator / denominator`, both positive. -/
def ratioLog2 (numerator denominator : Nat) : Int :=
  let guess : Int := (numerator.log2 : Int) - denominator.log2
  if denominator <<< guess.toNat ≤ numerator <<< (-guess).toNat then guess else guess - 1

/-- The bits of the float nearest to `numerator / denominator`, with no regard to infinity. The bits
of a positive float are its significand plus its exponent times `2 ^ 52`, so that a significand
rounded up to `2 ^ 53` carries into the exponent. -/
def ratioBits (numerator denominator : Nat) : Nat :=
  if numerator = 0 then 0
  else
    let exponent := max (ratioLog2 numerator denominator - 52) (-1074)
    let significand :=
      nearestNat (numerator <<< (-exponent).toNat) (denominator <<< exponent.toNat)
    (exponent + 1074).toNat <<< 52 + significand

/-- The bits of positive infinity. -/
def infinityBits : Nat := 0x7ff0000000000000

/-- The float nearest to `numerator / denominator`. -/
def nearestFloat (numerator denominator : Nat) : Float :=
  Float.ofBits (min (ratioBits numerator denominator) infinityBits).toUInt64

namespace Decimal

/-- The number of decimal digits of a natural number. -/
def digitCount (number : Nat) : Nat := (Nat.toDigits 10 number).length

/-- The float nearest to a decimal number. Numbers of `10 ^ 400` and more are infinite, and numbers
below `10 ^ (-400)` are zero, whatever their digits. -/
def toFloat (decimal : Decimal) : Float :=
  let magnitude := decimal.exponent + digitCount decimal.coefficient
  if decimal.coefficient = 0 || magnitude < -400 then Float.ofBits 0
  else if 400 < magnitude then Float.ofBits infinityBits.toUInt64
  else
    nearestFloat (decimal.coefficient * Nat.pow 10 decimal.exponent.toNat)
      (Nat.pow 10 (-decimal.exponent).toNat)

/-- Reads a float: a decimal number, `inf`, `infinity` or `nan` in any case, with an optional sign in
front. -/
def floatOfText? (text : List Char) : Option Float :=
  let (negative, body) :=
    match text with
    | '-' :: rest => (true, rest)
    | '+' :: rest => (false, rest)
    | _ => (false, text)
  let word := String.ofList (body.map Char.toLower)
  let magnitude? :=
    if word = "inf" || word = "infinity" then some (Float.ofBits infinityBits.toUInt64)
    else if word = "nan" then some (0.0 / 0.0)
    else (ofText? body).map toFloat
  magnitude?.map fun magnitude ↦ if negative then -magnitude else magnitude

end Decimal

end DocTree
