import DocTree.Decimal.Nearest

/-!
# Reading a float in steps

`Decimal.stepwise?` makes a decimal number a float with a few operations on floats, each of which
rounds: it takes the coefficient for a float and multiplies or divides it by a power of ten. So what
it gives may differ in its last bits from the nearest float, which `Decimal.toFloat` gives. A number
that would be infinite is refused, and one that is too small is zero. The coefficient has 64 bits,
for which `Decimal.ofLeadingDigits` takes the first digits of a number and no others.
-/

set_option autoImplicit false
set_option relaxedAutoImplicit false

namespace DocTree.Decimal

/-- Takes digits into a significand as long as 64 bits are enough for it. Gives the significand and
the digits that are left. -/
def absorb (significand : Nat) (digits : List Char) : Nat × List Char :=
  match digits with
  | [] => (significand, [])
  | digit :: rest =>
    let longer := 10 * significand + digitValue digit
    if longer < UInt64.size then absorb longer rest else (significand, digit :: rest)

/-- The number with an integer part, a fraction and a power of ten, made of its leading digits. Every
digit of the integer part that is left makes it ten times larger, and those of the fraction that are
left are ignored. -/
def ofLeadingDigits (whole fraction : List Char) (exponent : Int) : Decimal :=
  let (significand, dropped) := absorb 0 whole
  let (significand, ignored) := absorb significand fraction
  ⟨significand, exponent + dropped.length + ignored.length - fraction.length⟩

/-- The exponent of the greatest power of ten that is finite as a float. -/
def maxPower : Nat := 308

/-- The float nearest to a power of ten. -/
def powerOfTen (exponent : Nat) : Float := toFloat ⟨1, exponent⟩

/-- Divides a float by the greatest power of ten, so many times or until it is zero. -/
def shrink (number : Float) (times : Nat) : Float :=
  match times with
  | 0 => number
  | times + 1 => if number == 0 then number else shrink (number / powerOfTen maxPower) times

/-- Multiplies a float that is not negative by a power of ten, unless the result is too large. -/
def scale? (number : Float) (exponent : Int) : Option Float :=
  if exponent < 0 then
    let power := (-exponent).toNat
    let times := (power - 1) / maxPower
    some (shrink number times / powerOfTen (power - times * maxPower))
  else if exponent ≤ maxPower then
    let product := number * powerOfTen exponent.toNat
    if product.isInf then none else some product
  else if number == 0 then some number
  else none

/-- Reads a number with a coefficient of 64 bits as a float, unless it is too large. -/
def stepwise? (decimal : Decimal) : Option Float :=
  scale? decimal.coefficient.toUInt64.toFloat decimal.exponent

end DocTree.Decimal
