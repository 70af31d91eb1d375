import DocTree.Command
import DocTree.Decimal

/-!
# Reading arguments

Arguments are read from the left. The options and the file come first, in any order, then the name of
the action and its values. An option is given once; `-v`, which may be repeated, changes nothing but
the log. The value of an option follows it, as an argument that does not start with a hyphen, or is
attached to it: after the letter, with or without an equals sign, or after the word and an equals
sign. After `--` the values of an action may start with a hyphen.
-/

set_option autoImplicit false
set_option relaxedAutoImplicit false

namespace DocTree

/-- Why arguments are no command. -/
inductive Halt where
  /-- They are against the rules. -/
  | usage
  /-- They ask for help. -/
  | help
  /-- They ask for the version. -/
  | version
deriving DecidableEq, Inhabited

namespace Command

/-- An option with a value. -/
inductive ValueOption where
  | format
  | indent
  | output
deriving DecidableEq, Inhabited

/-- An option without a value. -/
inductive Switch where
  | inPlace
  | verbose
  | help
  | version
deriving DecidableEq, Inhabited

/-- An option. -/
inductive Flag where
  | option (option : ValueOption)
  | switch (switch : Switch)
deriving DecidableEq, Inhabited

/-- The option with a letter. -/
def Flag.ofLetter? : Char → Option Flag
  | 'f' => some (.option .format)
  | 'i' => some (.option .indent)
  | 'o' => some (.option .output)
  | 'v' => some (.switch .verbose)
  | 'h' => some (.switch .help)
  | 'V' => some (.switch .version)
  | _ => none

/-- The option with a word. -/
def Flag.ofWord? (word : List Char) : Option Flag :=
  match String.ofList word with
  | "format" => some (.option .format)
  | "indent" => some (.option .indent)
  | "output" => some (.option .output)
  | "in-place" => some (.switch .inPlace)
  | "verbose" => some (.switch .verbose)
  | "help" => some (.switch .help)
  | "version" => some (.switch .version)
  | _ => none

/-- What has been read in front of the name of the action. -/
structure Draft where
  file : Option String := none
  format : Option String := none
  indent : Option Nat := none
  output : Option String := none
  inPlace : Bool := false
deriving Inhabited

/-- Indents are below `2 ^ 64`. -/
def indentBound : Nat := Nat.pow 2 64

/-- The number of spaces that a text denotes: digits, with a plus sign in front or without. -/
def indentOfText? (text : List Char) : Option Nat :=
  match Decimal.signedInt? text with
  | none => none
  | some number =>
    if text.head? = some '-' || indentBound ≤ number.toNat then none else some number.toNat

namespace Draft

/-- Sets an option that has not been set. -/
def setOption? (draft : Draft) (option : ValueOption) (value : String) : Option Draft :=
  match option with
  | .format => if draft.format.isSome then none else some { draft with format := some value }
  | .output =>
    if draft.output.isSome || value.isEmpty then none
    else some { draft with output := some value }
  | .indent =>
    if draft.indent.isSome then none
    else (indentOfText? value.toList).map fun indent ↦ { draft with indent := some indent }

/-- Sets an option without a value. -/
def setSwitch (draft : Draft) : Switch → Except Halt Draft
  | .inPlace => if draft.inPlace then .error .usage else .ok { draft with inPlace := true }
  | .verbose => .ok draft
  | .help => .error .help
  | .version => .error .version

/-- Sets an option, or breaks the rules. -/
def setOption (draft : Draft) (option : ValueOption) (value : List Char) : Except Halt Draft :=
  match draft.setOption? option (String.ofList value) with
  | some draft => .ok draft
  | none => .error .usage

/-- Reads letters after a hyphen. The last one may be an option whose value is the next argument. -/
def readLetters (draft : Draft) : List Char → Except Halt (Draft × Option ValueOption)
  | [] => .ok (draft, none)
  | letter :: rest =>
    match Flag.ofLetter? letter with
    | none => .error .usage
    | some (.switch switch) =>
      match draft.setSwitch switch with
      | .ok draft => readLetters draft rest
      | .error halt => .error halt
    | some (.option option) =>
      match rest with
      | [] => .ok (draft, some option)
      | '=' :: value => (draft.setOption option value).map (·, none)
      | value => (draft.setOption option value).map (·, none)

/-- Reads the word after two hyphens. It may be an option whose value is the next argument. -/
def readWord (draft : Draft) (text : List Char) : Except Halt (Draft × Option ValueOption) :=
  match Flag.ofWord? (text.takeWhile (· ≠ '=')), text.dropWhile (· ≠ '=') with
  | some (.switch switch), [] => (draft.setSwitch switch).map (·, none)
  | some (.option option), [] => .ok (draft, some option)
  | some (.option option), _ :: value => (draft.setOption option value).map (·, none)
  | _, _ => .error .usage

/-- Reads an argument in front of the name of the action. -/
def read (draft : Draft) (argument : String) : Except Halt (Draft × Option ValueOption) :=
  match argument.toList with
  | '-' :: '-' :: word => draft.readWord word
  | '-' :: letter :: letters => draft.readLetters (letter :: letters)
  | _ =>
    if draft.file.isSome then .error .usage
    else .ok ({ draft with file := some argument }, none)

end Draft

/-- Whether an argument starts like an option. -/
def isFlag (argument : String) : Bool :=
  match argument.toList with
  | '-' :: _ :: _ => true
  | _ => false

/-- Whether an argument asks for help with an action. -/
def asksHelp (argument : String) : Bool :=
  match argument.toList with
  | '-' :: 'h' :: _ => true
  | _ => argument = "--help"

/-- Reads the values of an action, of which there are `count`. -/
def readValues (count : Nat) : List String → Except Halt (List String)
  | [] => if count = 0 then .ok [] else .error .usage
  | argument :: rest =>
    if argument = "--" then if rest.length = count then .ok rest else .error .usage
    else if asksHelp argument then .error .help
    else if isFlag argument then .error .usage
    else
      match count with
      | 0 => .error .usage
      | count + 1 => (readValues count rest).map (argument :: ·)

/-- The command of a draft and an action. -/
def ofDraft (draft : Draft) (action : Action) : Except Halt Command :=
  match draft.file with
  | none => .error .usage
  | some file =>
    if draft.inPlace && draft.output.isSome then .error .usage
    else .ok { draft with file, action }

/-- Reads an action with its values. -/
def readAction (name : String) (count : Nat) (arguments : List String) : Except Halt Action := do
  match Action.ofValues? name (← readValues count arguments) with
  | some action => return action
  | none => throw .usage

/-- Reads what follows the word `help`: nothing or the name of an action. -/
def readTopic : List String → Halt
  | [] => .help
  | [name] => if name = "help" || (Action.valueCount? name).isSome then .help else .usage
  | _ => .usage

/-- Reads arguments after a draft. -/
def parseFrom (draft : Draft) : List String → Except Halt Command
  | [] => .error .usage
  | argument :: rest =>
    match Action.valueCount? argument with
    | some count =>
      match readAction argument count rest with
      | .ok action => ofDraft draft action
      | .error halt => .error halt
    | none =>
      if argument = "help" then .error (readTopic rest)
      else
        match draft.read argument with
        | .error halt => .error halt
        | .ok (draft, none) => parseFrom draft rest
        | .ok (draft, some option) =>
          match rest with
          | [] => .error .usage
          | value :: rest =>
            if isFlag value then .error .usage
            else
              match draft.setOption option value.toList with
              | .ok draft => parseFrom draft rest
              | .error halt => .error halt

/-- Reads a command. -/
def parse (arguments : List String) : Except Halt Command := parseFrom {} arguments

end Command

end DocTree
