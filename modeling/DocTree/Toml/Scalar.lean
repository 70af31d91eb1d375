import DocTree.Decimal.Nearest
import DocTree.Text.Hexadecimal
import DocTree.Toml.Item

/-!
# Numbers and dates of TOML

Numbers and dates are words. In numbers an underscore may stand between two digits. An integer fits
into 64 bits with a sign and has no leading zeros; without a sign it may be written in base sixteen,
eight or two. A date, a time of day, or both have fixed widths and must exist in the calendar.
-/

set_option autoImplicit false
set_option relaxedAutoImplicit false

namespace DocTree.Toml

/-- The characters of numbers and dates. -/
def isWordChar (c : Char) : Bool :=
  c.isAlphanum || c = '_' || c = '+' || c = '-' || c = '.' || c = ':'

/-! ### Numbers -/

/-- Whether underscores stand only between two characters that are none, and there is one such. -/
def hasSoundUnderscores (digits : List Char) : Bool :=
  (digits.splitOn '_').all (!·.isEmpty)

/-- The digits without underscores, if all are digits of a base. -/
def digits? (isDigit : Char → Bool) (text : List Char) : Option (List Char) :=
  let digits := text.filter (· ≠ '_')
  if hasSoundUnderscores text && digits.all isDigit then some digits else none

/-- The text after a sign, and whether that was a minus. -/
def splitSign : List Char → Bool × List Char
  | '-' :: rest => (true, rest)
  | '+' :: rest => (false, rest)
  | text => (false, text)

/-- The digits of a number in base ten without leading zeros. -/
def wholeDigits? (text : List Char) : Option (List Char) :=
  match text with
  | '0' :: _ :: _ => none
  | _ => digits? Char.isDigit text

/-- The number that digits of a base write. -/
def numberOf (base : Nat) (digits : List Char) : Nat :=
  digits.foldl (fun number c ↦ base * number + (Text.hexDigit? c).getD 0) 0

/-- The integer of a word. -/
def integer? (word : List Char) : Option Int :=
  let number? : Option Int :=
    match word with
    | '0' :: 'x' :: digits =>
      (digits? (fun c ↦ (Text.hexDigit? c).isSome) digits).map (numberOf 16 ·)
    | '0' :: 'o' :: digits => (digits? (fun c ↦ '0' ≤ c && c ≤ '7') digits).map (numberOf 8 ·)
    | '0' :: 'b' :: digits => (digits? (fun c ↦ c = '0' || c = '1') digits).map (numberOf 2 ·)
    | _ =>
      let (negative, rest) := splitSign word
      (wholeDigits? rest).map fun digits ↦
        let magnitude : Int := numberOf 10 digits
        if negative then -magnitude else magnitude
  number?.filter fun number ↦
    Int64.minValue.toInt ≤ number && number ≤ Int64.maxValue.toInt

/-- Whether a text is an exponent, or there is none. -/
def isExponent : List Char → Bool
  | [] => true
  | mark :: rest =>
    (mark = 'e' || mark = 'E') && (digits? Char.isDigit (splitSign rest).2).isSome

/-- Whether a text is a fraction or an exponent or both. -/
def isFraction (text : List Char) : Bool :=
  match text with
  | [] => false
  | '.' :: rest =>
    let digits := rest.takeWhile fun c ↦ c.isDigit || c = '_'
    (digits? Char.isDigit digits).isSome && isExponent (rest.drop digits.length)
  | _ => isExponent text

/-- Whether a word is a float. Its value must not be too large. -/
def isFloat (word : List Char) : Bool :=
  let (negative, rest) := splitSign word
  let whole := rest.takeWhile fun c ↦ c.isDigit || c = '_'
  rest = ['i', 'n', 'f'] || rest = ['n', 'a', 'n'] ||
    ((wholeDigits? whole).isSome && isFraction (rest.drop whole.length) &&
      (negative ||
        ((Decimal.ofText? (rest.filter (· ≠ '_'))).any fun decimal ↦ decimal.toFloat.isFinite)))

/-! ### Dates -/

/-- Reads a number of exactly `count` digits. -/
def fixed? (count : Nat) (text : List Char) : Option (Nat × List Char) :=
  let digits := text.take count
  if digits.length = count && digits.all Char.isDigit then
    some (numberOf 10 digits, text.drop count)
  else none

/-- Reads a given character. -/
def mark? (mark : Char) : List Char → Option (List Char)
  | c :: rest => if c = mark then some rest else none
  | [] => none

/-- The number of days of a month. -/
def daysOfMonth (year month : Nat) : Nat :=
  if month = 2 then
    if year % 4 = 0 && (year % 100 ≠ 0 || year % 400 = 0) then 29 else 28
  else if month = 4 || month = 6 || month = 9 || month = 11 then 30
  else 31

/-- Reads a day of the calendar. -/
def day? (text : List Char) : Option (List Char) := do
  let (year, text) ← fixed? 4 text
  let (month, text) ← fixed? 2 (← mark? '-' text)
  let (day, text) ← fixed? 2 (← mark? '-' text)
  if 1 ≤ month && month ≤ 12 && 1 ≤ day && day ≤ daysOfMonth year month then return text else none

/-- Reads a time of day, to the second or finer. -/
def time? (text : List Char) : Option (List Char) := do
  let (hour, text) ← fixed? 2 text
  let (minute, text) ← fixed? 2 (← mark? ':' text)
  let (second, text) ← fixed? 2 (← mark? ':' text)
  if 23 < hour || 59 < minute || 60 < second then none
  else
    match text with
    | '.' :: rest =>
      if rest.head?.any Char.isDigit then return rest.dropWhile Char.isDigit else none
    | _ => return text

/-- Whether a text is the distance of a local time, or there is none. -/
def isOffset (text : List Char) : Bool :=
  match text with
  | [] => true
  | ['Z'] => true
  | ['z'] => true
  | sign :: rest =>
    (sign = '+' || sign = '-') && ((do
      let (hour, rest) ← fixed? 2 rest
      let (minute, rest) ← fixed? 2 (← mark? ':' rest)
      return hour ≤ 23 && minute ≤ 59 && rest.isEmpty) : Option Bool).getD false

/-- Whether a text is a day, and nothing else. -/
def isDay (text : List Char) : Bool := day? text = some []

/-- Whether a text is a date: a day, a time of day, or both, and then perhaps an offset. -/
def isDate (text : List Char) : Bool :=
  match day? text with
  | none => time? text = some []
  | some [] => true
  | some (mark :: rest) =>
    (mark = 'T' || mark = 't' || mark = ' ') && (time? rest).any isOffset

/-- What a word stands for. -/
def wordItem? (word : List Char) : Option Item :=
  if word = ['t', 'r', 'u', 'e'] then some (.boolean true)
  else if word = ['f', 'a', 'l', 's', 'e'] then some (.boolean false)
  else
    match integer? word with
    | some number => some (.integer number)
    | none =>
      if isFloat word then some (.float (.ofList word))
      else if isDate word then some (.date (.ofList word))
      else none

end DocTree.Toml
