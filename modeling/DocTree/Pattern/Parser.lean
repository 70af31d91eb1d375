import DocTree.Pattern.Class
import DocTree.Text.Hexadecimal

/-!
# The syntax of regular expressions

`Pattern.compile?` reads the text of a regular expression. Alternatives are separated by `|`.
Repetitions are `?`, `*`, `+` and `{n,m}`, each of which may be followed by `?`. Groups are
`(…)`, `(?:…)`, `(?<name>…)` and `(?P<name>…)`, and flags are set by `(?ims-R)` or `(?i:…)`. A class
in brackets may hold characters, ranges, named classes and classes in brackets, and `&&`, `--` and
`~~` take intersections, differences and symmetric differences. There are no references to groups and
no assertions about the text before or after a position, apart from `^`, `$`, `\A`, `\z`, `\b` and
`\B` and their like. Expressions that nest too deep or repeat too much are refused.
-/

set_option autoImplicit false
set_option relaxedAutoImplicit false

namespace DocTree

/-- A regular expression with the text it was read from. Expressions with one text are equal. -/
structure Pattern where
  source : String
  expr : Pattern.Expr
deriving Inhabited

instance : BEq Pattern := ⟨fun a b ↦ a.source == b.source⟩

namespace Pattern

open Text (CodePoints)

/-- The flags that are in force at a place of an expression. -/
structure Flags where
  ignoreCase : Bool := false
  multiLine : Bool := false
  dotAll : Bool := false
  crlf : Bool := false
  unicode : Bool := true
  extended : Bool := false

/-- What is left to read, the flags in force, and the group names that are taken. -/
structure Cursor where
  rest : List Char
  flags : Flags := {}
  names : List (List Char) := []

/-- A reader of a part of an expression; it fails on a malformed one. -/
abbrev Reader := StateT Cursor Option

/-- A part of an expression, with how deep its parts nest. -/
structure Part where
  expr : Expr
  depth : Nat := 0
  /-- Whether a repetition may follow. -/
  repeatable : Bool := true

/-! ### Characters -/

/-- The next character, which stays unread. -/
def peek? : Reader (Option Char) := do return (← get).rest.head?

/-- Reads one character. -/
def next : Reader Char := do
  match (← get).rest with
  | [] => failure
  | c :: rest =>
    modify ({ · with rest })
    return c

/-- Reads one character if it is `c`. -/
def accept (c : Char) : Reader Bool := do
  if (← peek?) = some c then
    let _ ← next
    return true
  else return false

/-- Reads the characters of `word` if they come next. -/
def acceptWord (word : List Char) : Reader Bool := do
  let cursor ← get
  if word.isPrefixOf cursor.rest then
    set { cursor with rest := cursor.rest.drop word.length }
    return true
  else return false

/-- Reads the longest run of characters that satisfy `test`. -/
def takeWhile (test : Char → Bool) : Reader (List Char) := do
  let cursor ← get
  set { cursor with rest := cursor.rest.dropWhile test }
  return cursor.rest.takeWhile test

/-- The text after white space and comments. -/
def dropIgnored : Bool → List Char → List Char
  | _, [] => []
  | true, c :: rest => dropIgnored (c ≠ '\n') rest
  | false, c :: rest =>
    if Text.isBlank c then dropIgnored false rest
    else if c = '#' then dropIgnored true rest
    else c :: rest

/-- Skips white space and comments where the flags say that they have no meaning. -/
def skipIgnored : Reader Unit := do
  let cursor ← get
  if cursor.flags.extended then set { cursor with rest := dropIgnored false cursor.rest }

/-! ### Escapes -/

/-- Reads so many hexadecimal digits. -/
def hexDigits : Nat → Nat → Reader Nat
  | 0, value => return value
  | count + 1, value => do
    skipIgnored
    let digit ← Text.hexDigit? (← next)
    hexDigits count (16 * value + digit)

/-- Reads the code point of an escape after its letter, which needs `count` digits without braces. -/
def hexEscape (count : Nat) : Reader Char := do
  skipIgnored
  if ← accept '\x7b' then
    let digits ← takeWhile (· ≠ '\x7d')
    let _ ← next
    if digits.isEmpty || 8 < digits.length then failure
    (Text.hexNumberFrom? 0 digits).bind Text.charOfCode?
  else
    Text.charOfCode? (← hexDigits count 0)

/-- The set closed under a change of case, where case has no meaning. -/
def foldCase (flags : Flags) (set : CodePoints) : CodePoints :=
  if !flags.ignoreCase then set
  else if flags.unicode then Text.foldClosure set
  else asciiFoldClosure set

/-- The complement of a set. Outside Unicode mode it would hold bytes that are no characters. -/
def negate (flags : Flags) (negated : Bool) (set : CodePoints) : Option CodePoints :=
  if !negated then some set else if flags.unicode then some set.complement else none

/-- Reads a property after `\p` or `\P`. -/
def propertyClass (negated : Bool) : Reader CodePoints := do
  skipIgnored
  let flags := (← get).flags
  if !flags.unicode then failure
  if ← accept '\x7b' then
    let name ← takeWhile (· ≠ '\x7d')
    let _ ← next
    let name := if flags.extended then name.filter (!Text.isBlank ·) else name
    let (found, negated) ←
      match name.findIdx? (fun c ↦ c = ':' || c = '=') with
      | none => do pure (← property? name, negated)
      | some place =>
        let differs := name[place]? = some '=' && 0 < place && name[place - 1]? = some '!'
        let property := name.take (if differs then place - 1 else place)
        do pure (← propertyValue? property (name.drop (place + 1)), negated != differs)
    negate flags negated (foldCase flags found)
  else
    let c ← next
    if c = '\\' then failure
    let found ← property? [c]
    negate flags negated (foldCase flags found)

/-- One thing that an escape, or a character with a meaning, stands for. -/
inductive Atom where
  | literal (c : Char)
  | set (set : CodePoints)
  | assertion (assertion : Assertion)

/-- The word characters in force. -/
def wordSet (flags : Flags) : CodePoints := if flags.unicode then wordChars else asciiWordChars

/-- The assertion with a name in braces after `\b`. -/
def namedBoundary? (word : CodePoints) (name : List Char) : Option Assertion :=
  match String.ofList name with
  | "start" => some (.wordStart false word)
  | "end" => some (.wordEnd false word)
  | "start-half" => some (.wordStart true word)
  | "end-half" => some (.wordEnd true word)
  | _ => none

/-- Reads what may follow `\b`: the name of a boundary in braces. Braces that do not start with a
letter or a hyphen are left to be read as a repetition. -/
def boundary (word : CodePoints) : Reader Assertion := do
  let isNameChar (c : Char) : Bool := c.isAlpha || c = '-'
  let cursor ← get
  if ← accept '\x7b' then
    skipIgnored
    match ← peek? with
    | none => failure
    | some c =>
      if isNameChar c then
        let name ← takeWhile isNameChar
        if !(← accept '\x7d') then failure
        namedBoundary? word name
      else
        set cursor
        return .wordBoundary true word
  else return .wordBoundary true word

/-- Reads what follows a backslash. -/
def escape : Reader Atom := do
  let flags := (← get).flags
  let c ← next
  match letterClass? flags.unicode c.toLower with
  | some found =>
    let found ← negate flags c.isUpper found
    return .set found
  | none =>
    match c with
    | 'x' =>
      let found ← hexEscape 2
      if !flags.unicode && 0x7f < found.toNat then failure
      return .literal found
    | 'u' => return .literal (← hexEscape 4)
    | 'U' => return .literal (← hexEscape 8)
    | 'p' => return .set (← propertyClass false)
    | 'P' => return .set (← propertyClass true)
    | 'a' => return .literal '\x07'
    | 'f' => return .literal '\x0c'
    | 't' => return .literal '\t'
    | 'n' => return .literal '\n'
    | 'r' => return .literal '\r'
    | 'v' => return .literal '\x0b'
    | 'A' => return .assertion .textStart
    | 'z' => return .assertion .textEnd
    | 'b' => return .assertion (← boundary (wordSet flags))
    | 'B' => return .assertion (.wordBoundary false (wordSet flags))
    | '<' => return .assertion (.wordStart false (wordSet flags))
    | '>' => return .assertion (.wordEnd false (wordSet flags))
    | _ => if c.toNat < 0x80 && !c.isAlphanum then return .literal c else failure

/-! ### Classes -/

/-- How the classes on the two sides of an operator are combined. -/
inductive SetOperator where
  | inter
  | diff
  | symmDiff

/-- Combines two classes. -/
def SetOperator.apply : SetOperator → CodePoints → CodePoints → CodePoints
  | inter, a, b => a.inter b
  | diff, a, b => a.diff b
  | symmDiff, a, b => (a.diff b).union (b.diff a)

/-- A class under construction: the items read since the last operator, and that operator with the
class on its left. -/
structure ClassState where
  items : CodePoints := .empty
  left : Option (SetOperator × CodePoints) := none

/-- Applies the operator that waits for its right side. -/
def ClassState.close (flags : Flags) (state : ClassState) : CodePoints :=
  match state.left with
  | none => state.items.normalize
  | some (operator, left) => operator.apply (foldCase flags left) (foldCase flags state.items)

/-- Adds a set to the items. -/
def ClassState.add (state : ClassState) (set : CodePoints) : ClassState :=
  { state with items := ⟨set.ranges ++ state.items.ranges⟩ }

/-- Reads a named class such as `[:alpha:]`, if there is one. -/
def namedClass? : Reader (Option CodePoints) := do
  let cursor ← get
  if ← acceptWord ['[', ':'] then
    let negated ← accept '^'
    let name ← takeWhile (· ≠ ':')
    if ← acceptWord [':', ']'] then
      match bracketClass? (.ofList name) with
      | some found => return some (← negate cursor.flags negated found)
      | none => pure ()
  set cursor
  return none

/-- Reads one item of a class: an escape or a character. -/
def classAtom : Reader Atom := do
  if ← accept '\\' then escape else return .literal (← next)

/-- The end of a range must be a character, in ASCII outside Unicode mode. -/
def Atom.bound? (flags : Flags) : Atom → Option Char
  | literal c => if flags.unicode || c.toNat < 0x80 then some c else none
  | _ => none

/-- Reads a character, a named class after a backslash, or a range. -/
def classItem : Reader CodePoints := do
  let flags := (← get).flags
  let first ← classAtom
  skipIgnored
  let cursor ← get
  if cursor.rest.isEmpty then failure
  let single : Option CodePoints :=
    match first with
    | .set found => some found
    | _ => (first.bound? flags).map fun c ↦ .range c.toNat c.toNat
  if ← accept '-' then
    let after := (← get).rest
    let after := if flags.extended then dropIgnored false after else after
    if after.head? = some ']' || after.head? = some '-' then
      set cursor
      single
    else
      skipIgnored
      let last ← classAtom
      let first ← first.bound? flags
      let last ← last.bound? flags
      if last < first then failure
      return .range first.toNat last.toNat
  else single

/-- The set operator that comes next, if there is one. -/
def setOperator? : List Char → Option SetOperator
  | '&' :: '&' :: _ => some .inter
  | '-' :: '-' :: _ => some .diff
  | '~' :: '~' :: _ => some .symmDiff
  | _ => none

/-- Reads the hyphens with which a class may start. -/
def leadingHyphens : Nat → ClassState → Reader ClassState
  | 0, state => return state
  | fuel + 1, state => do
    if ← accept '-' then
      skipIgnored
      leadingHyphens fuel (state.add (.range 0x2d 0x2d))
    else return state

mutual

/-- Reads a class after its opening bracket, with how deep its classes nest. -/
def classOpen : Nat → Reader (CodePoints × Nat)
  | 0 => failure
  | fuel + 1 => do
    skipIgnored
    let negated ← accept '^'
    skipIgnored
    let state ← leadingHyphens (← get).rest.length {}
    if state.items.ranges.isEmpty && (← accept ']') then
      classRest fuel negated (state.add (.range 0x5d 0x5d))
    else
      classRest fuel negated state

/-- Reads the rest of a class up to its closing bracket. -/
def classRest : Nat → Bool → ClassState → Reader (CodePoints × Nat)
  | 0, _, _ => failure
  | fuel + 1, negated, state => do
    skipIgnored
    let flags := (← get).flags
    match setOperator? (← get).rest with
    | some operator =>
      let _ ← next
      let _ ← next
      classRest fuel negated { left := some (operator, state.close flags) }
    | none =>
      match ← peek? with
      | none => failure
      | some ']' =>
        let _ ← next
        return (← negate flags negated (foldCase flags (state.close flags)), 1)
      | some '[' =>
        match ← namedClass? with
        | some found => classRest fuel negated (state.add found)
        | none =>
          let _ ← next
          let (inner, depth) ← classOpen fuel
          let (found, outer) ← classRest fuel negated (state.add inner)
          return (found, max outer (depth + 1))
      | some _ =>
        let item ← classItem
        classRest fuel negated (state.add item)

end

/-! ### Groups, repetitions and alternatives -/

/-- Switches one flag. -/
def Flags.switch? (flags : Flags) (on : Bool) : Char → Option Flags
  | 'i' => some { flags with ignoreCase := on }
  | 'm' => some { flags with multiLine := on }
  | 's' => some { flags with dotAll := on }
  | 'R' => some { flags with crlf := on }
  | 'u' => some { flags with unicode := on }
  | 'x' => some { flags with extended := on }
  | 'U' => some flags
  | _ => none

/-- The flags after a list of switches, which may hold each letter and the hyphen once, and no hyphen
at its end. -/
def Flags.switchAll? (flags : Flags) (letters : List Char) : Option Flags :=
  if !letters.Nodup || letters.getLast? = some '-' then none
  else
    (letters.foldlM (fun (state : Flags × Bool) letter ↦
      if letter = '-' then some (state.1, false)
      else (state.1.switch? state.2 letter).map (·, state.2)) (flags, true)).map Prod.fst

/-- What a parenthesis opens: a group, or flags for the rest of the group around it. -/
inductive Opening where
  | group (flags : Flags)
  | switch (flags : Flags)

/-- Whether a text names a group. -/
def isGroupName : List Char → Bool
  | [] => false
  | first :: rest =>
    (first = '_' || alphabetic.contains first.toNat) &&
      rest.all fun c ↦ c ∈ ['_', '.', '[', ']'] || Text.isAlphanumeric c

/-- Reads what follows an opening parenthesis. -/
def opening : Reader Opening := do
  skipIgnored
  let flags := (← get).flags
  for ahead in ["?=", "?!", "?<=", "?<!"] do
    if ahead.toList.isPrefixOf (← get).rest then failure
  if (← acceptWord ['?', 'P', '<']) || (← acceptWord ['?', '<']) then
    let name ← takeWhile (· ≠ '>')
    let _ ← next
    let cursor ← get
    if !isGroupName name || cursor.names.contains name then failure
    set { cursor with names := name :: cursor.names }
    return .group flags
  else if ← accept '?' then
    let letters ← takeWhile fun c ↦ c ≠ ':' && c ≠ ')'
    let switched ← flags.switchAll? letters
    if (← next) = ':' then return .group switched
    else if letters.isEmpty then failure
    else return .switch switched
  else return .group flags

/-- Reads a decimal number, with white space around it. -/
def decimal? : Reader (Option Nat) := do
  let _ ← takeWhile Text.isBlank
  let digits ← takeWhile Char.isDigit
  let _ ← takeWhile Text.isBlank
  if digits.isEmpty then return none
  let value := digits.foldl (fun value digit ↦ 10 * value + (digit.toNat - '0'.toNat)) 0
  if value < Nat.pow 2 32 then return some value else failure

/-- Reads the bounds of a repetition after the opening brace. -/
def bounds : Reader (Nat × Option Nat) := do
  skipIgnored
  let least ← decimal?
  if ← accept ',' then
    skipIgnored
    if ← accept '\x7d' then
      return (← least, none)
    let least ← least
    match ← decimal? with
    | none => failure
    | some most =>
      if !(← accept '\x7d') || most < least then failure
      return (least, some most)
  else
    if !(← accept '\x7d') then failure
    return (← least, ← least)

/-- Repeats the last part. -/
def repeatLast (parts : List Part) (least : Nat) (most : Option Nat) : Option (List Part) :=
  match parts with
  | [] => none
  | part :: rest =>
    if part.repeatable then some (⟨.repeated part.expr least most, part.depth + 1, true⟩ :: rest)
    else none

/-- Joins parts that are given last to first. -/
def concatParts (parts : List Part) : Part :=
  match parts with
  | [] => ⟨.empty, 0, true⟩
  | [part] => part
  | part :: rest =>
    ⟨rest.foldl (fun after before ↦ .concat before.expr after) part.expr,
      parts.foldl (fun depth part ↦ max depth part.depth) 0 + 1, true⟩

/-- Joins alternatives that are given last to first. -/
def alternateParts (branches : List Part) : Part :=
  match branches with
  | [] => ⟨.empty, 0, true⟩
  | [branch] => branch
  | branch :: rest =>
    ⟨rest.foldl (fun after before ↦ .alternate before.expr after) branch.expr,
      branches.foldl (fun depth branch ↦ max depth branch.depth) 0 + 1, true⟩

/-- The characters that a dot stands for. -/
def dotSet? (flags : Flags) : Option CodePoints :=
  if !flags.unicode then none
  else if flags.dotAll then some .all
  else if flags.crlf then some (CodePoints.ofChars ['\n', '\r']).complement
  else some (CodePoints.ofChars ['\n']).complement

/-- The expression for one thing that stands outside a class. -/
def Atom.expr (flags : Flags) : Atom → Expr
  | literal c => .chars (foldCase flags (.range c.toNat c.toNat))
  | set found => .chars found
  | assertion claim => .assertion claim

/-- Reads a dot, an anchor, an escape or a character. -/
def primitive : Reader Expr := do
  let flags := (← get).flags
  let c ← next
  match c with
  | '.' => return .chars (← dotSet? flags)
  | '^' => return .assertion (if flags.multiLine then .lineStart flags.crlf else .textStart)
  | '$' => return .assertion (if flags.multiLine then .lineEnd flags.crlf else .textEnd)
  | '\\' => return (← escape).expr flags
  | _ => return (Atom.literal c).expr flags

/-- Reads alternatives up to a closing parenthesis or the end, which stays unread. -/
def alternatives : Nat → List Part → List Part → Reader Part
  | 0, _, _ => failure
  | fuel + 1, branches, parts => do
    skipIgnored
    match ← peek? with
    | none => return alternateParts (concatParts parts :: branches)
    | some ')' => return alternateParts (concatParts parts :: branches)
    | some '|' =>
      let _ ← next
      alternatives fuel (concatParts parts :: branches) []
    | some '(' =>
      let _ ← next
      match ← opening with
      | .switch flags =>
        modify ({ · with flags })
        alternatives fuel branches (⟨.empty, 0, false⟩ :: parts)
      | .group flags =>
        let around := (← get).flags
        modify ({ · with flags })
        let inner ← alternatives fuel [] []
        if (← next) ≠ ')' then failure
        modify ({ · with flags := around })
        alternatives fuel branches (⟨inner.expr, inner.depth + 1, true⟩ :: parts)
    | some '[' =>
      let _ ← next
      let (found, depth) ← classOpen fuel
      alternatives fuel branches (⟨.chars found, depth, true⟩ :: parts)
    | some c =>
      let found : Option (Nat × Option Nat) ←
        if c = '?' then do let _ ← next; pure (some (0, some 1))
        else if c = '*' then do let _ ← next; pure (some (0, none))
        else if c = '+' then do let _ ← next; pure (some (1, none))
        else if c = '\x7b' then do
          if parts.isEmpty then failure
          let _ ← next
          let found ← bounds
          skipIgnored
          pure (some found)
        else pure none
      match found with
      | some (least, most) =>
        let repeated ← repeatLast parts least most
        let _ ← accept '?'
        alternatives fuel branches repeated
      | none =>
        let expr ← primitive
        alternatives fuel branches (⟨expr, 0, true⟩ :: parts)

/-! ### Limits -/

/-- How deep the parts of an expression may nest. -/
def maxDepth : Nat := 250

/-- How large an expression may grow, in bytes, when its repetitions are written out. -/
def maxSize : Nat := 10 * Nat.pow 2 20

/-- The bytes of one state of an automaton. -/
def stateSize : Nat := 32

/-- About how many bytes an automaton takes for an expression. -/
def Expr.size : Expr → Nat
  | empty => stateSize
  | chars set =>
    (set.ranges.filter fun range ↦ 0x7f < range.2).length * 20 + stateSize
  | assertion _ => stateSize
  | concat first second => first.size + second.size
  | alternate first second => first.size + second.size + stateSize
  | repeated body least none => (least + 1) * body.size + stateSize
  | repeated body least (some most) =>
    least * body.size + (most - least) * (body.size + stateSize) + stateSize

/-- Reads a regular expression; a malformed one and one that is too large are refused. -/
def compile? (source : String) : Option Pattern :=
  let text := source.toList
  match (alternatives (text.length + 1) [] []).run { rest := text } with
  | some (part, cursor) =>
    if cursor.rest.isEmpty && part.depth ≤ maxDepth && part.expr.size ≤ maxSize then
      some ⟨source, part.expr⟩
    else none
  | none => none

/-- Whether a match of the expression occurs anywhere in a text. -/
def matchesIn (pattern : Pattern) (text : String) : Bool := pattern.expr.occursIn text.toList

end Pattern

end DocTree
