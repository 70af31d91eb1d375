import DocTree.Command.Outcome

/-!
# The command line

Reads the files that a command names, and carries out on the disk the steps that `saveSteps` gives.
-/

set_option autoImplicit false
set_option relaxedAutoImplicit false

namespace DocTree

/-- What is found under a file name. What is there but cannot be read counts as a directory. -/
def entryOnDisk (name : String) : IO (Option StoreEntry) := do
  match ← (IO.FS.readBinFile name).toBaseIO with
  | .ok content => return some (.file content.toList)
  | .error (.noFileOrDirectory ..) => return none
  | .error _ => return some .directory

/-- Takes a step of saving, and tells whether it succeeded. -/
def performOnDisk (step : SaveStep) : IO Bool := do
  let action : IO Unit :=
    match step with
    | .backup name copy => do IO.FS.writeBinFile copy (← IO.FS.readBinFile name)
    | .writeTemporary name content _ => IO.FS.writeBinFile name ⟨content.toArray⟩
    | .rename temporary name => IO.FS.rename temporary name
  match ← action.toBaseIO with
  | .ok _ => return true
  | .error _ => return false

/-- Takes steps of saving up to the first one that fails. -/
def performAllOnDisk : List SaveStep → IO (Option SaveError)
  | [] => return none
  | step :: steps => do
    if ← performOnDisk step then performAllOnDisk steps else return some step.error

/-- Saves what a report asks for. -/
def commitOnDisk (report : Report) (config : Config) : IO (Option CommandError) := do
  match report.save with
  | none => return report.error
  | some ⟨name, format, value⟩ =>
    match saveSteps name format value config (← entryOnDisk name).isSome with
    | .error cause => return some (.save cause)
    | .ok steps => return (← performAllOnDisk steps).map .save

/-- The configuration of the user. -/
def userConfig : IO Config := do
  match ← IO.getEnv "HOME" with
  | none => return {}
  | some home =>
    match ← entryOnDisk (home ++ "/.config/pathquill/config.toml") with
    | some (.file content) => return ((textOfBytes? content).map Config.ofText).getD {}
    | _ => return {}

/-- The document of a command. -/
def documentOnDisk (command : Command) : IO (Except CommandError Value) := do
  if command.readsInput then
    let input ← (← IO.getStdin).readBinToEnd
    return (Value.ofBytes input.toList).mapError .input
  else return (Value.ofEntry command.file (← entryOnDisk command.file)).mapError .load

/-- Runs a command and gives its exit code. -/
def runOnDisk (command : Command) : IO UInt32 := do
  let config := command.configure (← userConfig)
  let report : Report :=
    match ← documentOnDisk command with
    | .ok document => command.evaluate config document
    | .error error => .ofError error
  IO.print report.output
  if report.changedNothing then IO.eprintln "warning: the selector changed nothing"
  let error ← commitOnDisk report config
  match error with
  | some error => IO.eprintln ("Error: " ++ error.message)
  | none => pure ()
  return exitCodeOf error

end DocTree

/-- Runs the command that the arguments denote. -/
def main (args : List String) : IO UInt32 := do
  match DocTree.Command.parse args with
  | .ok command => DocTree.runOnDisk command
  | .error halt =>
    IO.print halt.output
    if halt = .usage then IO.eprint DocTree.helpText
    return halt.exitCode
