import DocTree.Decimal.Nearest

/-!
# The shortest decimal number that reads back

A finite float is `m * 2 ^ q` for natural `m` and an integer `q`. Between the midpoints to its two
neighbours lie the numbers that round to it, the midpoints included when `m` is even.
`Decimal.shortest` looks for the fewest digits with which some number in that interval can be
written. On the grid of numbers with so many digits it tests the two neighbours of the float, takes
the nearer one when both fit, and the even one on a tie.

`Decimal.render` writes the result: with a point and at least one digit on either side of it when
the number is at least `10 ^ (-5)` and below `10 ^ 16`, and with an exponent otherwise.
-/

set_option autoImplicit false
set_option relaxedAutoImplicit false

namespace DocTree

/-- The sign of a float is its top bit. -/
def floatIsNegative (number : Float) : Bool := number.toBits >>> 63 = 1

/-- The significand `m` and the exponent `q` of a finite float `m * 2 ^ q`. -/
def floatParts (number : Float) : Nat × Int :=
  let bits := number.toBits.toNat
  let field : Nat := bits / Nat.pow 2 52 % Nat.pow 2 11
  let fraction : Nat := bits % Nat.pow 2 52
  if field = 0 then (fraction, -1074) else (fraction + Nat.pow 2 52, (field : Int) - 1075)

namespace Decimal

/-- The exponent of the leading decimal digit of `numerator / denominator`, both positive. -/
def leadingExponent (numerator denominator : Nat) : Int :=
  if denominator ≤ numerator then digitCount (numerator / denominator) - 1
  else -(digitCount ((denominator + numerator - 1) / numerator - 1))

/-- The open interval `(low, high) / 4 * 2 ^ q`, closed when `closed`, around `value / 4 * 2 ^ q`. -/
structure Interval where
  low : Nat
  value : Nat
  high : Nat
  q : Int
  closed : Bool

/-- The numbers that round to a positive finite float. The float below a power of two is half as far
away as the float above. -/
def Interval.ofFloat (number : Float) : Interval :=
  let (m, q) := floatParts number
  let gap := if m = Nat.pow 2 52 && -1074 < q then 1 else 2
  ⟨4 * m - gap, 4 * m, 4 * m + 2, q, m % 2 = 0⟩

/-- The factor that makes numbers of quarters of `2 ^ q` comparable to numbers on the grid of
`10 ^ exponent`, which have the factor `Interval.unit`. -/
def Interval.scale (interval : Interval) (exponent : Int) : Nat :=
  Nat.pow 10 (-exponent).toNat * Nat.pow 2 interval.q.toNat

/-- The factor that makes numbers on the grid of `10 ^ exponent` comparable to numbers of quarters of
`2 ^ q`, which have the factor `Interval.scale`. -/
def Interval.unit (interval : Interval) (exponent : Int) : Nat :=
  4 * Nat.pow 10 exponent.toNat * Nat.pow 2 (-interval.q).toNat

/-- Whether the number `d * 10 ^ exponent` lies in an interval. -/
def Interval.fits (interval : Interval) (exponent : Int) (d : Nat) : Bool :=
  let low := interval.low * interval.scale exponent
  let high := interval.high * interval.scale exponent
  let number := d * interval.unit exponent
  (low < number || (interval.closed && low = number)) &&
    (number < high || (interval.closed && number = high))

/-- The best number `d * 10 ^ exponent` in an interval, if there is one. -/
def Interval.pick? (interval : Interval) (exponent : Int) : Option Nat :=
  let numerator := interval.value * interval.scale exponent
  let below := numerator / interval.unit exponent
  let nearer := nearestNat numerator (interval.unit exponent)
  let farther := if nearer = below then below + 1 else below
  if interval.fits exponent nearer then some nearer
  else if interval.fits exponent farther then some farther
  else none

/-- The first grid from `digits` digits on, trying `tries` of them, that has a number in the
interval. -/
def Interval.search (interval : Interval) (leading : Int) (tries digits : Nat) : Decimal :=
  let exponent := leading - digits + 1
  match tries with
  | 0 => ⟨0, 0⟩
  | tries + 1 =>
    match interval.pick? exponent with
    | some d => if d = Nat.pow 10 digits then ⟨1, exponent + digits⟩ else ⟨d, exponent⟩
    | none => search interval leading tries (digits + 1)

/-- The decimal number with the fewest digits that rounds to a positive finite float. Seventeen
digits are always enough. -/
def shortest (number : Float) : Decimal :=
  let interval := Interval.ofFloat number
  let leading := leadingExponent (interval.value * Nat.pow 2 interval.q.toNat)
    (4 * Nat.pow 2 (-interval.q).toNat)
  interval.search leading 17 1

/-- Writes a positive decimal number, with `plus` in front of a positive exponent. -/
def render (plus : String) (decimal : Decimal) : String :=
  let digits := Nat.toDigits 10 decimal.coefficient
  let point := decimal.exponent + digits.length
  if 0 ≤ decimal.exponent && point ≤ 16 then
    .ofList (digits ++ List.replicate decimal.exponent.toNat '0' ++ ['.', '0'])
  else if 0 < point && point ≤ 16 then
    .ofList (digits.take point.toNat ++ '.' :: digits.drop point.toNat)
  else if -5 < point && point ≤ 0 then
    .ofList ('0' :: '.' :: List.replicate (-point).toNat '0' ++ digits)
  else
    let mantissa := if digits.length = 1 then digits else digits.take 1 ++ '.' :: digits.drop 1
    .ofList mantissa ++ (if 0 < point then "e" ++ plus else "e") ++ (point - 1).repr

end Decimal

/-- The text of a finite float, with `plus` in front of a positive exponent. -/
def renderFloat (plus : String) (number : Float) : String :=
  let sign := if floatIsNegative number then "-" else ""
  sign ++ if (floatParts number).1 = 0 then "0.0" else (Decimal.shortest number).render plus

end DocTree
