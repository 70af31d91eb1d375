import DocTree.Yaml.Token
import DocTree.Yaml.Token.Scalar

/-!
# Anchors, tags and directives of a YAML text

A node may have an anchor, by which an alias refers to it, and a tag. A tag is written as a handle and
a suffix, or in full between angle brackets. A directive stands on a line of its own in front of a
document; it gives the version of the language, or the text for which a handle of tags stands.
-/

set_option autoImplicit false
set_option relaxedAutoImplicit false

namespace DocTree.Yaml

/-- Reads the name after the sign of an anchor or an alias. -/
def Cursor.anchorName? (cursor : Cursor) : Option (List Char × Cursor) :=
  let next := (cursor.advance 1).skipWhile isNameChar
  let name := (cursor.rest.drop 1).takeWhile isNameChar
  let closes (c : Char) : Bool :=
    c = '?' || c = ':' || c = ',' || c = ']' || c = '\x7d' || c = '%' || c = '@' || c = '\x60'
  if name.isEmpty then none
  else if endsWord next.rest || startsWith closes next.rest then some (name, next)
  else none

/-! ### Tags -/

/-- Reads one byte that is written as a percent sign and two hexadecimal digits. -/
def escapedByte? : List Char → Option (Nat × List Char)
  | '%' :: rest => Text.hexNumber? 2 rest
  | _ => none

/-- Reads the given number of continuation bytes of an encoded character. -/
def continuation? (count code : Nat) (text : List Char) : Option (Nat × List Char) :=
  match count with
  | 0 => some (code, text)
  | count + 1 =>
    match escapedByte? text with
    | some (byte, rest) =>
      if byte / 64 = 2 then continuation? count (code * 64 + byte % 64) rest else none
    | none => none

/-- Reads a character that is written as its escaped bytes. -/
def escapedChar? (text : List Char) : Option (Char × List Char) := do
  let (lead, rest) ← escapedByte? text
  let (code, rest) ←
    if lead < 0x80 then some (lead, rest)
    else if lead / 32 = 6 then continuation? 1 (lead % 32) rest
    else if lead / 16 = 14 then continuation? 2 (lead % 16) rest
    else if lead / 8 = 30 then continuation? 3 (lead % 8) rest
    else none
  return ((Text.charOfCode? code).getD '\ufffd', rest)

/-- The characters of a tag. The indicators of flow sequences belong to it only when it is written in
full. -/
def isTagChar (full : Bool) (c : Char) : Bool :=
  isNameChar c || ";/?:@&=+$.%!~*'()".toList.contains c ||
    (full && (c = ',' || c = '[' || c = ']'))

/-- Reads the characters of a tag. -/
def tagChars? (full : Bool) : Nat → List Char → Option (List Char × List Char)
  | 0, text => some ([], text)
  | fuel + 1, text =>
    match text with
    | [] => some ([], [])
    | c :: rest =>
      if c = '%' then do
        let (char, rest) ← escapedChar? text
        let (chars, rest) ← tagChars? full fuel rest
        return (char :: chars, rest)
      else if isTagChar full c then
        (tagChars? full fuel rest).map fun (chars, rest) ↦ (c :: chars, rest)
      else some ([], text)

/-- Reads one or more characters of a tag. -/
def tagText? (full : Bool) (text : List Char) : Option (List Char × List Char) :=
  match tagChars? full (text.length + 1) text with
  | some ([], _) => none
  | result => result

/-- Reads an exclamation mark, the name after it, and the exclamation mark after that, if there is
one. -/
def tagHandle? : List Char → Option (List Char × List Char)
  | '!' :: text =>
    let name := text.takeWhile isNameChar
    match text.dropWhile isNameChar with
    | '!' :: rest => some ('!' :: name ++ ['!'], rest)
    | rest => some ('!' :: name, rest)
  | _ => none

/-- Whether what was read as a handle is closed by an exclamation mark of its own. -/
def isClosedHandle (handle : List Char) : Bool :=
  1 < handle.length && handle.getLast? = some '!'

/-- Reads a tag: its handle, which is empty for a tag that is written in full, and its suffix. A lone
exclamation mark is such a tag. -/
def tag? (text : List Char) : Option (Token × List Char) :=
  match text with
  | '!' :: '<' :: rest => do
    let (suffix, rest) ← tagText? true rest
    match rest with
    | '>' :: rest => return (.tag [] suffix, rest)
    | _ => none
  | _ => do
    let (handle, rest) ← tagHandle? text
    if isClosedHandle handle then
      let (suffix, rest) ← tagText? false rest
      return (.tag handle suffix, rest)
    else
      let (chars, rest) ← tagChars? false (rest.length + 1) rest
      match handle.drop 1 ++ chars with
      | [] => return (.tag [] ['!'], rest)
      | suffix => return (.tag ['!'] suffix, rest)

/-- Reads the tag that starts here. White space must follow it, or a comma in a flow collection. -/
def Cursor.tag? (cursor : Cursor) (flow : Bool) : Option (Token × Cursor) := do
  let (token, rest) ← Yaml.tag? cursor.rest
  if endsWord rest || (flow && startsWith (· = ',') rest) then
    return (token, cursor.advance (cursor.rest.length - rest.length))
  else none

/-! ### Directives -/

/-- Reads a number of at most nine digits. -/
def versionNumber? (text : List Char) : Option (Nat × List Char) :=
  let digits := text.takeWhile Char.isDigit
  if digits.isEmpty || 9 < digits.length then none
  else
    some (digits.foldl (fun number c ↦ 10 * number + (c.toNat - '0'.toNat)) 0,
      text.dropWhile Char.isDigit)

/-- Reads a version after the name of its directive. -/
def version? (text : List Char) : Option (Token × List Char) := do
  let (major, rest) ← versionNumber? (text.dropWhile isBlank)
  match rest with
  | '.' :: rest =>
    let (minor, rest) ← versionNumber? rest
    return (.version major minor, rest)
  | _ => none

/-- Reads a handle of tags and the text for which it stands, after the name of the directive. -/
def tagDirective? (text : List Char) : Option (Token × List Char) := do
  let (handle, rest) ← tagHandle? (text.dropWhile isBlank)
  if handle ≠ ['!'] && !isClosedHandle handle || !startsWith isBlank rest then none
  else
    let (start, rest) ← tagText? true (rest.dropWhile isBlank)
    if endsWord rest then return (.tagDirective handle start, rest) else none

/-- Reads the directive whose percent sign is here, and its line. -/
def Cursor.directive? (cursor : Cursor) : Option (Token × Cursor) := do
  let text := cursor.rest.drop 1
  let name := text.takeWhile isNameChar
  let rest := text.dropWhile isNameChar
  if !endsWord rest then none
  else
    let (token, rest) ←
      if name = ['Y', 'A', 'M', 'L'] then version? rest
      else if name = ['T', 'A', 'G'] then tagDirective? rest
      else none
    let cursor := cursor.advance (cursor.rest.length - rest.length)
    let cursor := (cursor.skipWhile isBlank).skipComment
    if endsLine cursor.rest then return (token, cursor.skipBreak) else none

end DocTree.Yaml
