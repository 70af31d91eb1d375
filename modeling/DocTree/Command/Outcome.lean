import DocTree.Command.Parser
import DocTree.Command.Report

/-!
# Running commands

`run` takes arguments to an outcome: an exit code, a text for standard output, a message if the
command failed, and the files as they are afterwards. Arguments that are no command have exit code 2,
unless they ask for help or the version.
-/

set_option autoImplicit false
set_option relaxedAutoImplicit false

namespace DocTree

/-- What a command finds: files, the bytes of standard input, and a configuration. -/
structure Environment where
  store : Store := {}
  input : List UInt8 := []
  config : Config := {}

/-- What a command leaves. -/
structure Outcome where
  exitCode : UInt32
  output : String := ""
  message : Option String := none
  changedNothing : Bool := false
  store : Store

/-- The text for those who ask for the version. -/
def versionText : String := "pathquill 0.1.0\n"

/-- The text for those who ask for help. -/
def helpText : String :=
  "Read and update JSON and YAML documents by selector\n\n" ++
  "Usage: pathquill [OPTIONS] <FILE> <COMMAND>\n\n" ++
  "Commands: get, set, append, put, query\n" ++
  "Options: --format, --indent, --output, --in-place, --verbose, --help, --version\n"

namespace Halt

/-- The exit code for arguments that are no command. -/
def exitCode : Halt → UInt32
  | usage => 2
  | _ => 0

/-- The text for arguments that are no command. -/
def output : Halt → String
  | usage => ""
  | help => helpText
  | version => versionText

end Halt

/-- The exit code of a command that may have failed. -/
def exitCodeOf (error : Option CommandError) : UInt32 := if error.isSome then 1 else 0

namespace Command

/-- The document of a command. -/
def load (command : Command) (environment : Environment) : Except CommandError Value :=
  if command.readsInput then (Value.ofBytes environment.input).mapError .input
  else (environment.store.load command.file).mapError .load

/-- Saves what a report asks for. -/
def commit (report : Report) (config : Config) (store : Store) : Option CommandError × Store :=
  match report.save with
  | none => (report.error, store)
  | some ⟨name, format, value⟩ =>
    match Store.saveAs name format value config store with
    | .ok _ store => (report.error, store)
    | .error cause store => (some (.save cause), store)

/-- What a command leaves. -/
def run (command : Command) (environment : Environment) : Outcome :=
  let config := command.configure environment.config
  let report : Report :=
    match command.load environment with
    | .ok document => command.evaluate config document
    | .error error => .ofError error
  let (error, store) := commit report config environment.store
  { exitCode := exitCodeOf error
    output := report.output
    message := error.map CommandError.message
    changedNothing := report.changedNothing
    store }

end Command

/-- What is left after a command with some arguments. -/
def run (environment : Environment) (arguments : List String) : Outcome :=
  match Command.parse arguments with
  | .ok command => command.run environment
  | .error halt => ⟨halt.exitCode, halt.output, none, false, environment.store⟩

end DocTree
