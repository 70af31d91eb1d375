import DocTree.Pattern.Expr
import DocTree.Text.Blank
import DocTree.Text.CaseFold
import DocTree.Text.Script

/-!
# Named classes of characters

The classes that a regular expression names: `\d`, `\s` and `\w`, bracket names such as `[:alpha:]`,
and properties such as `\p{Lu}` or `\p{Greek}`. Property names may differ in case, in spaces, hyphens
and underscores, and may start with `is`.
-/

set_option autoImplicit false
set_option relaxedAutoImplicit false

namespace DocTree.Pattern

open Text (CodePoints)

/-- The characters with the Unicode property White_Space. -/
def blankChars : CodePoints := .ofHex "9-d 20 85 a0 1680 2000-200a 2028-2029 202f 205f 3000"

/-- The class of the letter after a backslash, in Unicode or in ASCII. -/
def letterClass? (unicode : Bool) : Char → Option CodePoints
  | 'd' => some (if unicode then Text.Category.nd else .range 0x30 0x39)
  | 's' => some (if unicode then blankChars else ⟨[(0x9, 0xd), (0x20, 0x20)]⟩)
  | 'w' => some (if unicode then wordChars else asciiWordChars)
  | _ => none

/-- The class with a name in brackets. All of them are in ASCII. -/
def bracketClass? (name : String) : Option CodePoints :=
  ([("alnum", [(0x30, 0x39), (0x41, 0x5a), (0x61, 0x7a)]),
    ("alpha", [(0x41, 0x5a), (0x61, 0x7a)]),
    ("ascii", [(0x0, 0x7f)]),
    ("blank", [(0x9, 0x9), (0x20, 0x20)]),
    ("cntrl", [(0x0, 0x1f), (0x7f, 0x7f)]),
    ("digit", [(0x30, 0x39)]),
    ("graph", [(0x21, 0x7e)]),
    ("lower", [(0x61, 0x7a)]),
    ("print", [(0x20, 0x7e)]),
    ("punct", [(0x21, 0x2f), (0x3a, 0x40), (0x5b, 0x60), (0x7b, 0x7e)]),
    ("space", [(0x9, 0xd), (0x20, 0x20)]),
    ("upper", [(0x41, 0x5a)]),
    ("word", [(0x30, 0x39), (0x41, 0x5a), (0x5f, 0x5f), (0x61, 0x7a)]),
    ("xdigit", [(0x30, 0x39), (0x41, 0x46), (0x61, 0x66)])].lookup name).map CodePoints.mk

/-- Letters of the ASCII range in the other case. -/
def asciiFoldClosure (set : CodePoints) : CodePoints :=
  let upper := set.inter (.range 0x41 0x5a)
  let lower := set.inter (.range 0x61 0x7a)
  .normalize ⟨set.ranges ++ upper.ranges.map (fun range ↦ (range.1 + 32, range.2 + 32)) ++
    lower.ranges.map (fun range ↦ (range.1 - 32, range.2 - 32))⟩

/-- The characters with the property Alphabetic. -/
def alphabetic : CodePoints :=
  .union ⟨[(0x41, 0x5a), (0x61, 0x7a)]⟩
    (Text.alphanumericBeyondAscii.diff (Text.Category.nd.union Text.Category.no))

/-- The characters with the property Lowercase. -/
def lowercase : CodePoints :=
  Text.Category.ll.union (.ofHex
    "aa ba 2b0-2b8 2c0-2c1 2e0-2e4 345 37a 10fc 1d2c-1d6a 1d78 1d9b-1dbf 2071 207f 2090-209c
     2170-217f 24d0-24e9 2c7c-2c7d a69c-a69d a770 a7f2-a7f4 a7f8-a7f9 ab5c-ab5f ab69 10780
     10783-10785 10787-107b0 107b2-107ba 1e030-1e06d")

/-- The characters with the property Uppercase. -/
def uppercase : CodePoints :=
  Text.Category.lu.union (.ofHex "2160-216f 24b6-24cf 1f130-1f149 1f150-1f169 1f170-1f189")

/-- The characters with a property that holds or does not hold of each. -/
def binaryProperty? (name : String) : Option CodePoints :=
  if name ∈ ["alphabetic", "alpha"] then some alphabetic
  else if name ∈ ["lowercase", "lower"] then some lowercase
  else if name ∈ ["uppercase", "upper"] then some uppercase
  else if name ∈ ["whitespace", "wspace", "space"] then some blankChars
  else if name ∈ ["asciihexdigit", "ahex"] then
    some ⟨[(0x30, 0x39), (0x41, 0x46), (0x61, 0x66)]⟩
  else none

/-- A property name in lower case, without separators and without a leading `is`. -/
def propertyName (name : List Char) : String :=
  let kept := (name.filter fun c ↦ !(Text.isBlank c || c = '_' || c = '-')).map Char.toLower
  match kept with
  | 'i' :: 's' :: rest => .ofList (if rest = ['c'] then kept else rest)
  | _ => .ofList kept

/-- The property with a single name. -/
def property? (name : List Char) : Option CodePoints :=
  let name := propertyName name
  (binaryProperty? name).or ((Text.category? name).or (Text.script? name))

/-- The property given as a name and a value. -/
def propertyValue? (name value : List Char) : Option CodePoints :=
  let name := propertyName name
  if name ∈ ["generalcategory", "gc"] then Text.category? (propertyName value)
  else if name ∈ ["script", "sc", "scriptextensions", "scx"] then Text.script? (propertyName value)
  else none

end DocTree.Pattern
