import DocTree.Command
import DocTree.Selector.Resolve
import DocTree.Store.Load
import DocTree.Store.Save

/-!
# Carrying out commands

`Command.evaluate` says what a command does with its document: what it prints, whether it changed
anything, and what it saves. A save is the last thing that a command does.
-/

set_option autoImplicit false
set_option relaxedAutoImplicit false

namespace DocTree

/-- Why a command fails. -/
inductive CommandError where
  | input (cause : InputError)
  | load (cause : LoadError)
  | unknownFormat (name : String)
  | noArray (kind : Kind)
  | invalidQuery (query : String)
  | render (cause : RenderError)
  | inputInPlace
  | save (cause : SaveError)
deriving Inhabited

/-- The message of an error. -/
def CommandError.message : CommandError → String
  | input cause => cause.message
  | load cause => cause.message
  | unknownFormat name => "Unknown format '" ++ name ++ "'"
  | noArray kind => "query needs an array document, found " ++ kind.name
  | invalidQuery query => "Invalid query '" ++ query ++ "'"
  | render cause => cause.message
  | inputInPlace => "--in-place needs a file, not stdin"
  | save cause => cause.message

/-- A document to be saved. -/
structure SaveRequest where
  name : String
  format : Format
  value : Value

/-- What a command does. -/
structure Report where
  output : String := ""
  /-- Whether an update found nothing to write to. -/
  changedNothing : Bool := false
  error : Option CommandError := none
  save : Option SaveRequest := none

namespace Report

/-- A failure without any output. -/
def ofError (error : CommandError) : Report := { error := some error }

/-- Prints values, each in a format, up to the first one that cannot be written. -/
def print (format : Format) (options : RenderOptions) : List Value → Report
  | [] => {}
  | value :: rest =>
    match format.render value options with
    | .error cause => ofError (.render cause)
    | .ok text =>
      let report := print format options rest
      { report with output := text ++ report.output }

end Report

namespace Command

/-- The configuration with the indent that a command asks for. -/
def configure (command : Command) (config : Config) : Config :=
  { config with indentSize := command.indent.getD config.indentSize }

/-- The format in which a command prints: the one it asks for, else that of its file, else that of
the configuration. -/
def printFormat (command : Command) (config : Config) : Except CommandError Format :=
  match command.format with
  | some name =>
    match Format.ofName? name with
    | some format => .ok format
    | none => .error (.unknownFormat name)
  | none =>
    if command.readsInput then .ok ((Format.ofName? config.outputFormat).getD .json)
    else .ok (Format.ofOutput command.file config.outputFormat)

/-- The element of a document that a query chose, with its position. -/
def queryRow (position : Nat) (value : Value) : Value :=
  .object [("index", .int (Int64.ofNat position)), ("value", value)]

/-- Prints the elements of a document that a query chooses. -/
def runQuery (document : Value) (query : String) (format : Format) (options : RenderOptions) :
    Report :=
  match document.items? with
  | none => .ofError (.noArray document.kind)
  | some items =>
    match Query.run none items query with
    | .error _ => .ofError (.invalidQuery query)
    | .ok found =>
      .print format options [.array (List.zipWith queryRow found.positions found.values)]

/-- Where the document of a command is saved after a change, if it is saved. -/
def target (command : Command) : Option String :=
  if command.inPlace then some command.file else command.output

/-- Changes a document and prints or saves it. -/
def update (command : Command) (config : Config) (document : Value) (format : Format)
    (selector : String) (change : Change) : Report :=
  let (written, root) := document.changeAll none selector change
  let report : Report :=
    if command.inPlace && command.readsInput then .ofError .inputInPlace
    else
      match command.target with
      | none => .print format config.renderOptions [root]
      | some name =>
        let format :=
          if command.format.isSome then format else Format.ofOutput name config.outputFormat
        { save := some ⟨name, format, root⟩ }
  { report with changedNothing := written = 0 }

/-- What a command does with its document, under the configuration that it has set. -/
def evaluate (command : Command) (config : Config) (document : Value) : Report :=
  match command.printFormat config with
  | .error error => .ofError error
  | .ok format =>
    match command.action with
    | .get selector =>
      .print format config.renderOptions (document.getAll none selector)
    | .query query => runQuery document query format config.renderOptions
    | .set selector value =>
      command.update config document format selector (.replace (Json.parseLiteral value))
    | .append selector value =>
      command.update config document format selector (.append (Json.parseLiteral value))
    | .put selector key value =>
      command.update config document format selector (.put key (Json.parseLiteral value))

end Command

end DocTree
