/-!
# White space

`isBlank` holds of the 25 characters with the Unicode property White_Space. `trim` removes them at
both ends of a text.
-/

set_option autoImplicit false
set_option relaxedAutoImplicit false

namespace DocTree.Text

/-- Whether a character is white space in the sense of Unicode. -/
def isBlank (c : Char) : Bool :=
  c = ' ' || ('\t' ≤ c && c ≤ '\r') || c = '\u0085' || c = '\u00a0' || c = '\u1680' ||
    ('\u2000' ≤ c && c ≤ '\u200a') || c = '\u2028' || c = '\u2029' || c = '\u202f' ||
    c = '\u205f' || c = '\u3000'

/-- The text without white space in front. -/
def trimStart (text : List Char) : List Char := text.dropWhile isBlank

/-- The text without white space at its end. -/
def trimEnd : List Char → List Char
  | [] => []
  | c :: rest =>
    match trimEnd rest with
    | [] => if isBlank c then [] else [c]
    | kept => c :: kept

/-- The text without white space at either end. -/
def trim (text : List Char) : List Char := trimEnd (trimStart text)

end DocTree.Text
