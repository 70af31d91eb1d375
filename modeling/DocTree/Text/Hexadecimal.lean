/-!
# Hexadecimal codes

Many escapes name a character by its code in hexadecimal digits, of either case.
-/

set_option autoImplicit false
set_option relaxedAutoImplicit false

namespace DocTree.Text

/-- The value of a hexadecimal digit. -/
def hexDigit? (c : Char) : Option Nat :=
  if c.isDigit then some (c.toNat - '0'.toNat)
  else if 'a' ≤ c && c ≤ 'f' then some (c.toNat - 'a'.toNat + 10)
  else if 'A' ≤ c && c ≤ 'F' then some (c.toNat - 'A'.toNat + 10)
  else none

/-- The number that hexadecimal digits write after the digits of `value`. -/
def hexNumberFrom? (value : Nat) : List Char → Option Nat
  | [] => some value
  | c :: rest => (hexDigit? c).bind fun digit ↦ hexNumberFrom? (16 * value + digit) rest

/-- Reads a number of exactly `count` hexadecimal digits. -/
def hexNumber? (count : Nat) (text : List Char) : Option (Nat × List Char) :=
  if text.length < count then none
  else (hexNumberFrom? 0 (text.take count)).map (·, text.drop count)

/-- The character with a code, unless the code is a surrogate or too large. -/
def charOfCode? (code : Nat) : Option Char := if code.isValidChar then some (.ofNat code) else none

end DocTree.Text
