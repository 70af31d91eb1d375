import DocTree.Text.Hexadecimal
import DocTree.Yaml.Cursor

/-!
# Scalars of a YAML text

A scalar is plain, in single or double quotes, or a block. Plain and quoted scalars run over several
lines, and the gaps between their words are folded. A block scalar holds the lines that are indented
to its margin. Its line breaks are kept when it is literal. When it is folded, a single line break
between two lines that do not start with a blank becomes a space.
-/

set_option autoImplicit false
set_option relaxedAutoImplicit false

namespace DocTree.Yaml

/-! ### Plain scalars -/

/-- Reads one word of a plain scalar. It ends before a colon that ends a word and, in a flow
collection, before an indicator of that collection. -/
def plainWord? (flow : Bool) : List Char → Option (List Char × List Char)
  | [] => some ([], [])
  | c :: rest =>
    if isGap c then some ([], c :: rest)
    else if flow && c = ':' && startsWith (fun d ↦ d = '?' || isFlowIndicator d) rest then none
    else if (c = ':' && endsWord rest) || (flow && isFlowIndicator c) then some ([], c :: rest)
    else (plainWord? flow rest).map fun (word, rest) ↦ (c :: word, rest)

/-- A plain scalar that was read. -/
structure Plain where
  text : List Char
  endsLine : Bool
  cursor : Cursor
deriving Inhabited

/-- Reads the words of a plain scalar after `text` and `gap`. Outside of flow collections it goes on
as long as its lines reach the column `margin`. -/
def Cursor.plainFrom (flow : Bool) (margin : Nat) :
    Nat → List Char → Gap → Cursor → Option Plain
  | 0, _, _, _ => none
  | fuel + 1, text, gap, cursor =>
    if cursor.atDocumentMark || startsWith (· = '#') cursor.rest then
      some ⟨text, !gap.breaks.isEmpty, cursor⟩
    else
      match plainWord? flow cursor.rest with
      | none => none
      | some ([], _) => some ⟨text, !gap.breaks.isEmpty, cursor⟩
      | some (word, _) =>
        let text := text ++ gap.fold ++ word
        let cursor := cursor.advance word.length
        if !startsWith isGap cursor.rest then some ⟨text, false, cursor⟩
        else
          match cursor.gap? margin with
          | none => none
          | some (gap, cursor) =>
            if !flow && cursor.column < margin then some ⟨text, !gap.breaks.isEmpty, cursor⟩
            else plainFrom flow margin fuel text gap cursor

/-- Reads the plain scalar that starts here. -/
def Cursor.plain? (cursor : Cursor) (flow : Bool) (margin : Nat) : Option Plain :=
  cursor.plainFrom flow margin (cursor.rest.length + 1) [] {}

/-! ### Quoted scalars -/

/-- The character whose code is written in the first `count` characters, after a letter. -/
def codeEscape? (count : Nat) (text : List Char) : Option (Char × Nat) :=
  (Text.hexNumber? count text).bind fun entry ↦ (Text.charOfCode? entry.1).map (·, count + 1)

/-- The character for the escape after a backslash, and the length of the escape. -/
def escape? : List Char → Option (Char × Nat)
  | [] => none
  | c :: rest =>
    match c with
    | '0' => some ('\x00', 1)
    | 'a' => some ('\x07', 1)
    | 'b' => some ('\x08', 1)
    | 't' => some ('\t', 1)
    | '\t' => some ('\t', 1)
    | 'n' => some ('\n', 1)
    | 'v' => some ('\x0b', 1)
    | 'f' => some ('\x0c', 1)
    | 'r' => some ('\r', 1)
    | 'e' => some ('\x1b', 1)
    | ' ' => some (' ', 1)
    | '"' => some ('"', 1)
    | '/' => some ('/', 1)
    | '\\' => some ('\\', 1)
    | 'N' => some ('\u0085', 1)
    | '_' => some ('\u00a0', 1)
    | 'L' => some ('\u2028', 1)
    | 'P' => some ('\u2029', 1)
    | 'x' => codeEscape? 2 rest
    | 'u' => codeEscape? 4 rest
    | 'U' => codeEscape? 8 rest
    | _ => none

/-- Reads a quoted scalar from inside its quotes on, up to the closing quote. A backslash at the end
of a line joins it to the next one. -/
def Cursor.quotedFrom (single : Bool) : Nat → Cursor → Option (List Char × Cursor)
  | 0, _ => none
  | fuel + 1, cursor =>
    match cursor.rest with
    | [] => none
    | c :: rest =>
      if isGap c then do
        let (gap, next) ← cursor.gap? 0
        if next.atDocumentMark then none
        else
          let (text, done) ← quotedFrom single fuel next
          return (gap.fold ++ text, done)
      else if single && c = '\'' && startsWith (· = '\'') rest then do
        let (text, done) ← quotedFrom single fuel (cursor.advance 2)
        return ('\'' :: text, done)
      else if c = (if single then '\'' else '"') then some ([], cursor.advance 1)
      else if !single && c = '\\' then
        if startsWith isBreak rest then do
          let start := (cursor.advance 1).skipBreak
          let (gap, next) ← Cursor.gapFrom 0 (start.rest.length + 1) true {} start
          if next.atDocumentMark then none
          else
            let (text, done) ← quotedFrom single fuel next
            return (gap.breaks ++ text, done)
        else do
          let (char, length) ← escape? rest
          let (text, done) ← quotedFrom single fuel (cursor.advance (length + 1))
          return (char :: text, done)
      else do
        let (text, done) ← quotedFrom single fuel (cursor.advance 1)
        return (c :: text, done)

/-- Reads the quoted scalar whose opening quote is here. -/
def Cursor.quoted? (cursor : Cursor) (single : Bool) : Option (List Char × Cursor) :=
  (cursor.advance 1).quotedFrom single (cursor.rest.length + 1)

/-! ### Block scalars -/

/-- What becomes of the line breaks at the end of a block scalar. -/
inductive Chomping where
  | strip
  | clip
  | keep
deriving DecidableEq, Inhabited

/-- The chomping that an indicator stands for. -/
def chomping? (c : Char) : Option Chomping :=
  if c = '-' then some .strip else if c = '+' then some .keep else none

/-- Reads the indicators of a block scalar, in either order: its chomping, and how many columns it is
indented, zero when its first line tells. -/
def Cursor.blockHeader? (cursor : Cursor) : Option (Chomping × Nat × Cursor) :=
  let digit (c : Char) : Nat := c.toNat - '0'.toNat
  match cursor.rest with
  | [] => some (.clip, 0, cursor)
  | first :: rest =>
    let second := rest.headD ' '
    match chomping? first with
    | some chomping =>
      if second = '0' then none
      else if second.isDigit then some (chomping, digit second, cursor.advance 2)
      else some (chomping, 0, cursor.advance 1)
    | none =>
      if first = '0' then none
      else if !first.isDigit then some (.clip, 0, cursor)
      else
        match chomping? second with
        | some chomping => some (chomping, digit first, cursor.advance 2)
        | none => some (.clip, digit first, cursor.advance 1)

/-- Reads the empty lines in front of a line of a block scalar: their line breaks, the greatest
column that any of these lines reaches by spaces, and the first character that is no part of them. A
margin of zero is not known yet. -/
def Cursor.blockBreaks (margin : Nat) : Nat → Cursor → Option (List Char × Nat × Cursor)
  | 0, cursor => some ([], cursor.column, cursor)
  | fuel + 1, cursor =>
    let spaces := (cursor.rest.takeWhile (· = ' ')).length
    let cursor :=
      cursor.advance (if margin = 0 then spaces else min spaces (margin - cursor.column))
    if (margin = 0 || cursor.column < margin) && startsWith (· = '\t') cursor.rest then none
    else
      match cursor.lineBreak? with
      | none => some ([], cursor.column, cursor)
      | some (lineBreak, next) =>
        (blockBreaks margin fuel next).map fun (breaks, column, next) ↦
          (lineBreak :: breaks, max cursor.column column, next)

/-- Reads the lines of a block scalar. `pending` is the line break of the line before, `breaks` those
of the empty lines after it, and `blank` tells whether that line started with a blank. The result
ends with the line breaks after the last line. -/
def Cursor.blockLines (literal : Bool) (margin : Nat) :
    Nat → List Char → List Char → Bool → Cursor →
      Option (List Char × List Char × List Char × Cursor)
  | 0, pending, breaks, _, cursor => some ([], pending, breaks, cursor)
  | fuel + 1, pending, breaks, blank, cursor =>
    if cursor.rest.isEmpty || cursor.column ≠ margin then some ([], pending, breaks, cursor)
    else
      let blankNow := startsWith isBlank cursor.rest
      let joint :=
        if !literal && pending = ['\n'] && !blank && !blankNow then
          if breaks.isEmpty then [' '] else []
        else pending
      let line := cursor.rest.takeWhile fun c ↦ !isBreak c
      let afterLine := cursor.advance line.length
      let (ending, next) :=
        match afterLine.lineBreak? with
        | some (lineBreak, next) => ([lineBreak], next)
        | none => ([], afterLine)
      match next.blockBreaks margin (next.rest.length + 1) with
      | none => none
      | some (empties, _, next) =>
        (blockLines literal margin fuel ending empties blankNow next).map
          fun (text, last, trailing, done) ↦ (joint ++ breaks ++ line ++ text, last, trailing, done)

/-- Reads the block scalar whose indicator is here, inside a block that is indented to `indent`. -/
def Cursor.block? (cursor : Cursor) (literal : Bool) (indent : Int) :
    Option (List Char × Cursor) := do
  let (chomping, increment, cursor) ← (cursor.advance 1).blockHeader?
  let cursor := (cursor.skipWhile isBlank).skipComment
  if !endsLine cursor.rest then none
  else
    let cursor := cursor.skipBreak
    let known := if increment = 0 then 0 else (max indent 0).toNat + increment
    let (breaks, column, cursor) ← cursor.blockBreaks known (cursor.rest.length + 1)
    let margin := if known = 0 then max column (max (indent + 1) 1).toNat else known
    let (text, last, trailing, cursor) ←
      cursor.blockLines literal margin (cursor.rest.length + 1) [] breaks false
    match chomping with
    | .strip => return (text, cursor)
    | .clip => return (text ++ last, cursor)
    | .keep => return (text ++ last ++ trailing, cursor)

end DocTree.Yaml
