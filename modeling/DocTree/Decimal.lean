/-!
# Decimal numbers

A decimal number is a coefficient times a power of ten. `Decimal.ofText?` reads the usual notation:
digits with at most one point among them or at either end, and an exponent.
-/

set_option autoImplicit false
set_option relaxedAutoImplicit false

namespace DocTree

/-- The number `coefficient * 10 ^ exponent`. -/
structure Decimal where
  coefficient : Nat
  exponent : Int
deriving DecidableEq, Inhabited

namespace Decimal

/-- The value of a decimal digit. -/
def digitValue (digit : Char) : Nat := digit.toNat - '0'.toNat

/-- The value of a run of decimal digits. -/
def natOfDigits (digits : List Char) : Nat :=
  digits.foldl (fun value digit ↦ 10 * value + digitValue digit) 0

/-- The longest run of decimal digits in front, and the rest. -/
def spanDigits (text : List Char) : List Char × List Char :=
  (text.takeWhile Char.isDigit, text.dropWhile Char.isDigit)

/-- The number with an integer part, a fraction and a power of ten. -/
def ofParts (whole fraction : List Char) (exponent : Int) : Decimal :=
  ⟨natOfDigits (whole ++ fraction), exponent - fraction.length⟩

/-- An integer with an optional sign in front. -/
def signedInt? (text : List Char) : Option Int :=
  let (negative, digits) :=
    match text with
    | '-' :: rest => (true, rest)
    | '+' :: rest => (false, rest)
    | _ => (false, text)
  if digits.isEmpty || !digits.all Char.isDigit then none
  else some (if negative then -(natOfDigits digits : Int) else natOfDigits digits)

/-- Reads a number without a sign: it needs a digit before or after the point, and a digit in its
exponent if it has one. -/
def ofText? (text : List Char) : Option Decimal :=
  let (whole, rest) := spanDigits text
  let (fraction, rest) :=
    match rest with
    | '.' :: more => spanDigits more
    | _ => ([], rest)
  if whole.isEmpty && fraction.isEmpty then none
  else
    match rest with
    | [] => some (ofParts whole fraction 0)
    | mark :: exponent =>
      if mark = 'e' || mark = 'E' then
        (signedInt? exponent).map (ofParts whole fraction)
      else none

end Decimal

end DocTree
