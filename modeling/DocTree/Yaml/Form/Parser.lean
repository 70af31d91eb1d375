import DocTree.Yaml.Form
import DocTree.Yaml.Token

/-!
# From the tokens of a YAML text to its document

A text holds at most one document. In front of it may stand directives, which then end with a line
of hyphens. In a block mapping or sequence nothing need be written for a node that is empty.

An anchor is numbered by the count of names that were used for anchors before it. A name that is used
twice counts once, so that two anchors may share a number; an alias refers to the last node with its
number.
-/

set_option autoImplicit false
set_option relaxedAutoImplicit false

namespace DocTree.Yaml

/-- A document that is read in part: the tokens to come, the texts for which the handles of tags
stand, the number of each anchor's name, for each number the last node with it (the nodes with
anchors being counted), and those nodes. -/
structure Reading where
  tokens : List Token
  handles : List (List Char × List Char) := []
  names : List (List Char × Nat) := []
  owners : List (Nat × Nat) := []
  marked : List (Nat × Form) := []
deriving Inhabited

/-- A step that reads tokens and may fail. -/
abbrev Grammar (α : Type) := StateT Reading Option α

namespace Grammar

/-- The next token. -/
def peek : Grammar Token := do return (← get).tokens.headD .streamEnd

/-- Moves on to the token after the next. -/
def skip : Grammar Unit := modify fun reading ↦ { reading with tokens := reading.tokens.drop 1 }

/-- Moves on over a given token. -/
def expect (token : Token) : Grammar Unit := do
  if (← peek) = token then skip else failure

/-! ### Properties -/

/-- The text of a tag in full. -/
def fullTag (handle suffix : List Char) : Grammar (List Char) := do
  if handle.isEmpty then return suffix
  else
    match (← get).handles.find? fun entry ↦ entry.1 = handle with
    | some entry => return entry.2 ++ suffix
    | none => failure

/-- Reads the anchor and the tag of a node, in either order. -/
def properties : Grammar (Option (List Char) × Option (List Char)) := do
  match ← peek with
  | .anchor name =>
    skip
    match ← peek with
    | .tag handle suffix =>
      skip
      return (some name, some (← fullTag handle suffix))
    | _ => return (some name, none)
  | .tag handle suffix =>
    skip
    match ← peek with
    | .anchor name =>
      skip
      return (some name, some (← fullTag handle suffix))
    | _ => return (none, some (← fullTag handle suffix))
  | _ => return (none, none)

/-- Numbers the anchor of a node, and gives the count of nodes with anchors before it. -/
def openAnchor (name : List Char) : Grammar Nat :=
  modifyGet fun reading ↦
    let number := reading.names.length
    let others := reading.names.filter fun entry ↦ entry.1 ≠ name
    let node := reading.owners.length
    (node, { reading with
      names := (name, number) :: others, owners := (number, node) :: reading.owners })

/-- Keeps the form of a node with an anchor. -/
def closeAnchor (node : Nat) (form : Form) : Grammar Unit :=
  modify fun reading ↦ { reading with marked := (node, form) :: reading.marked }

/-- The form of an alias, whose name must be that of an anchor before it. -/
def aliasOf (name : List Char) : Grammar Form := do
  match (← get).names.find? fun entry ↦ entry.1 = name with
  | some entry => return .reference entry.2
  | none => failure

/-! ### Nodes -/

/-- A lone exclamation mark as the tag of a scalar has no meaning. -/
def scalarTag (tag : Option (List Char)) : Option (List Char) := tag.filter (· ≠ ['!'])

mutual

/-- Reads a node. -/
def node (block indentless : Bool) : Nat → Grammar Form
  | 0 => failure
  | fuel + 1 => do
    match ← peek with
    | .reference name =>
      skip
      aliasOf name
    | _ =>
      let (anchor, tag) ← properties
      match anchor with
      | none => content block indentless tag.isSome tag fuel
      | some name =>
        let number ← openAnchor name
        let form ← content block indentless true tag fuel
        closeAnchor number form
        return form

/-- Reads a node after its properties. It may be empty if it has any. A block may open only in a
block, and a sequence without an indentation of its own only in a mapping. -/
def content (block indentless mayBeEmpty : Bool) (tag : Option (List Char)) : Nat → Grammar Form
  | 0 => failure
  | fuel + 1 => do
    match ← peek, block, indentless with
    | .scalar text plain, _, _ =>
      skip
      return .scalar (scalarTag tag) text plain
    | .flowSequenceStart, _, _ =>
      skip
      return .sequence tag (← flowItems true fuel)
    | .flowMappingStart, _, _ =>
      skip
      return .mapping tag (← flowPairs true fuel)
    | .blockSequenceStart, true, _ =>
      skip
      return .sequence tag (← blockItems fuel)
    | .blockMappingStart, true, _ =>
      skip
      return .mapping tag (← blockPairs fuel)
    | .blockEntry, _, true => return .sequence tag (← indentlessItems fuel)
    | _, _, _ => if mayBeEmpty then return .scalar tag [] true else failure

/-- Reads a node, which is empty when the next token is one of `stops`. -/
def nodeUnless (stops : List Token) (block indentless : Bool) : Nat → Grammar Form
  | 0 => failure
  | fuel + 1 => do
    if stops.contains (← peek) then return .empty else node block indentless fuel

/-- Reads the elements of a block sequence and its end. -/
def blockItems : Nat → Grammar (List Form)
  | 0 => failure
  | fuel + 1 => do
    match ← peek with
    | .blockEntry =>
      skip
      let item ← nodeUnless [.blockEntry, .blockEnd] true false fuel
      return item :: (← blockItems fuel)
    | .blockEnd =>
      skip
      return []
    | _ => failure

/-- Reads the elements of a sequence that is indented no deeper than the mapping around it. -/
def indentlessItems : Nat → Grammar (List Form)
  | 0 => failure
  | fuel + 1 => do
    match ← peek with
    | .blockEntry =>
      skip
      let item ← nodeUnless [.blockEntry, .key, .value, .blockEnd] true false fuel
      return item :: (← indentlessItems fuel)
    | _ => return []

/-- Reads the pairs of a block mapping and its end. -/
def blockPairs : Nat → Grammar (List (Form × Form))
  | 0 => failure
  | fuel + 1 => do
    match ← peek with
    | .key =>
      skip
      let key ← nodeUnless [.key, .value, .blockEnd] true true fuel
      let value ← pairValue [.key, .value, .blockEnd] true fuel
      return (key, value) :: (← blockPairs fuel)
    | .blockEnd =>
      skip
      return []
    | _ => failure

/-- Reads the value of a pair, which is empty when there is no colon or one of `stops` follows it. -/
def pairValue (stops : List Token) (block : Bool) : Nat → Grammar Form
  | 0 => failure
  | fuel + 1 => do
    match ← peek with
    | .value =>
      skip
      nodeUnless stops block block fuel
    | _ => return .empty

/-- Reads the elements of a flow sequence and its end. A pair may stand for a mapping of that pair;
after the question mark of such a pair, the token that leaves the key empty is passed over. -/
def flowItems (first : Bool) : Nat → Grammar (List Form)
  | 0 => failure
  | fuel + 1 => do
    if !first && (← peek) ≠ .flowSequenceEnd then expect .flowEntry
    match ← peek with
    | .flowSequenceEnd =>
      skip
      return []
    | .key =>
      skip
      let stops := [.value, .flowEntry, .flowSequenceEnd]
      let keyIsEmpty := stops.contains (← peek)
      let key ← nodeUnless stops false false fuel
      if keyIsEmpty then skip
      let value ← pairValue [.flowEntry, .flowSequenceEnd] false fuel
      return .mapping none [(key, value)] :: (← flowItems false fuel)
    | _ =>
      let item ← node false false fuel
      return item :: (← flowItems false fuel)

/-- Reads the pairs of a flow mapping and its end. -/
def flowPairs (first : Bool) : Nat → Grammar (List (Form × Form))
  | 0 => failure
  | fuel + 1 => do
    if !first && (← peek) ≠ .flowMappingEnd then expect .flowEntry
    match ← peek with
    | .flowMappingEnd =>
      skip
      return []
    | .key =>
      skip
      let key ← nodeUnless [.value, .flowEntry, .flowMappingEnd] false false fuel
      let value ← pairValue [.flowEntry, .flowMappingEnd] false fuel
      return (key, value) :: (← flowPairs false fuel)
    | _ =>
      let key ← node false false fuel
      return (key, .empty) :: (← flowPairs false fuel)

end

/-! ### Documents -/

/-- The handles of tags that stand for something in every document. -/
def defaultHandles : List (List Char × List Char) :=
  [(['!'], ['!']), (['!', '!'], "tag:yaml.org,2002:".toList)]

/-- Reads the directives in front of a document: at most one version, which is 1.1 or 1.2, and for
each handle at most one text. -/
def directives (versioned : Bool) : Nat → Grammar Unit
  | 0 => failure
  | fuel + 1 => do
    match ← peek with
    | .version major minor =>
      if versioned || major ≠ 1 || (minor ≠ 1 && minor ≠ 2) then failure
      else
        skip
        directives true fuel
    | .tagDirective handle start =>
      if (← get).handles.any fun entry ↦ entry.1 = handle then failure
      else
        modify fun reading ↦ { reading with handles := (handle, start) :: reading.handles }
        skip
        directives versioned fuel
    | _ => modify fun reading ↦ { reading with handles := reading.handles ++ defaultHandles }

/-- Whether a document ends before a token. -/
def endsDocument : Token → Bool
  | .version _ _ => true
  | .tagDirective _ _ => true
  | .documentStart => true
  | .documentEnd => true
  | .streamEnd => true
  | _ => false

/-- Whether a token starts a document by itself. -/
def startsDocument (token : Token) : Bool :=
  endsDocument token && token ≠ .documentEnd && token ≠ .streamEnd

/-- Reads a document, if there is one. -/
def document (fuel : Nat) : Grammar (Option Form) := do
  let first ← peek
  if first = .streamEnd then return none
  else
    directives false fuel
    if startsDocument first then
      expect .documentStart
      if endsDocument (← peek) then return some .empty else return some (← node true false fuel)
    else return some (← node true false fuel)

/-- Moves on over lines that end a document. -/
def skipDocumentEnds : Nat → Grammar Unit
  | 0 => failure
  | fuel + 1 => do
    if (← peek) = .documentEnd then
      skip
      skipDocumentEnds fuel

end Grammar

/-- The anchors of a document that was read, each with the form of the last node with its number. -/
def Reading.targets (reading : Reading) : List (Nat × Form) :=
  reading.owners.filterMap fun owner ↦
    (reading.marked.find? fun entry ↦ entry.1 = owner.2).map fun entry ↦ (owner.1, entry.2)

/-- The document of a text with the given tokens, if it has one. -/
def Source.ofTokens? (tokens : List Token) : Option (Option Source) := do
  let fuel := 4 * tokens.length + 4
  let (root?, reading) ← (Grammar.document fuel).run { tokens }
  let (_, rest) ← (do Grammar.skipDocumentEnds fuel; Grammar.expect .streamEnd).run reading
  return root?.map (⟨·, rest.targets⟩)

end DocTree.Yaml
