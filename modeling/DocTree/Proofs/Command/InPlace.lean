import DocTree.Command.Outcome
import DocTree.Proofs.Store.Replace

/-!
# Printing a change and making it in place

An update can print its document or put it back into the file that it came from. A command that
succeeds in place saves its document in the format in which it would have printed it
(`exists_saveAs_of_inPlace`). So it succeeds as well when it prints, leaves all files as they are
then, and prints what the file holds after the change in place (`printing_of_inPlace`).
-/

set_option autoImplicit false
set_option relaxedAutoImplicit false

namespace DocTree

/-- The positions at which an action makes a change, and the change, if it is an update. -/
def Action.change? : Action → Option (String × Change)
  | get _ => none
  | query _ => none
  | set selector value => some (selector, .replace (Json.parseLiteral value))
  | append selector value => some (selector, .append (Json.parseLiteral value))
  | put selector key value => some (selector, .put key (Json.parseLiteral value))

theorem exitCodeOf_eq_zero_iff {error : Option CommandError} :
    exitCodeOf error = 0 ↔ error = none := by
  cases error <;> simp [exitCodeOf]

namespace Command

/-- The same command with its result printed. -/
def printing (command : Command) : Command := { command with inPlace := false, output := none }

/-- What a command does in an environment. -/
def report (command : Command) (environment : Environment) : Report :=
  match command.load environment with
  | .ok document => command.evaluate (command.configure environment.config) document
  | .error error => .ofError error

variable {command : Command} {environment : Environment} {config : Config}
  {document : Value} {selector text : String} {change : Change} {format : Format}

/-- A command succeeds when its report has no error and what it asks for is saved. -/
theorem exitCode_run_eq_zero_iff : (command.run environment).exitCode = 0 ↔
    (commit (command.report environment) (command.configure environment.config)
      environment.store).1 = none :=
  exitCodeOf_eq_zero_iff

theorem store_run : (command.run environment).store =
    (commit (command.report environment) (command.configure environment.config)
      environment.store).2 :=
  rfl

theorem evaluate_of_change? (hchange : command.action.change? = some (selector, change)) :
    command.evaluate config document =
      match command.printFormat config with
      | .error error => .ofError error
      | .ok format => command.update config document format selector change := by
  unfold evaluate
  cases command.printFormat config with
  | error error => rfl
  | ok format =>
    cases haction : command.action with
    | get | query =>
      rw [haction] at hchange
      cases hchange
    | set | append | put =>
      rw [haction] at hchange
      obtain ⟨rfl, rfl⟩ := Prod.mk.inj (Option.some.inj hchange)
      rfl

/-- A document that comes from a file is printed in the format in which it is saved there. -/
theorem saveFormat_eq (hfile : command.readsInput = false)
    (hformat : command.printFormat config = .ok format) :
    (if command.format.isSome then format else Format.ofOutput command.file config.outputFormat) =
      format := by
  cases hasked : command.format with
  | some name => rfl
  | none =>
    simp only [printFormat, hasked, hfile] at hformat
    exact Except.ok.inj hformat

theorem report_of_change? (hchange : command.action.change? = some (selector, change))
    (hload : command.load environment = .ok document)
    (hformat : command.printFormat (command.configure environment.config) = .ok format) :
    command.report environment =
      command.update (command.configure environment.config) document format selector change := by
  simp only [report, hload, evaluate_of_change? hchange, hformat]

/-- A report with an error and nothing to save fails. -/
theorem commit_ofError_ne_none (error : CommandError) (config : Config) (store : Store) :
    (commit (.ofError error) config store).1 ≠ none := by
  simp [commit, Report.ofError]

/-! ### In place -/

theorem update_of_inPlace (hinPlace : command.inPlace = true) (hfile : command.readsInput = false)
    (hformat : command.printFormat config = .ok format) :
    command.update config document format selector change =
      { changedNothing := (document.changeAll none selector change).1 = 0
        save := some ⟨command.file, format, (document.changeAll none selector change).2⟩ } := by
  have hsaved := saveFormat_eq hfile hformat
  simp only [update, target, hinPlace, hfile, Bool.and_false, if_true, hsaved, Bool.false_eq_true,
    if_false]

theorem update_of_inPlace_input (hinPlace : command.inPlace = true)
    (hinput : command.readsInput = true) :
    command.update config document format selector change =
      { error := some .inputInPlace
        changedNothing := (document.changeAll none selector change).1 = 0 } := by
  simp [update, hinPlace, hinput, Report.ofError]

/-- An update that succeeds in place has loaded its document and saves what it makes of it, in the
format in which it would print it. -/
theorem exists_saveAs_of_inPlace (hinPlace : command.inPlace = true)
    (hchange : command.action.change? = some (selector, change))
    (hexit : (command.run environment).exitCode = 0) :
    ∃ document format, command.load environment = .ok document ∧
      command.printFormat (command.configure environment.config) = .ok format ∧
        Store.saveAs command.file format (document.changeAll none selector change).2
          (command.configure environment.config) environment.store =
            .ok () (command.run environment).store := by
  rw [exitCode_run_eq_zero_iff] at hexit
  rw [store_run]
  cases hload : command.load environment with
  | error error =>
    simp only [report, hload] at hexit
    exact absurd hexit (commit_ofError_ne_none _ _ _)
  | ok document =>
    cases hformat : command.printFormat (command.configure environment.config) with
    | error error =>
      simp only [report, hload, evaluate_of_change? hchange, hformat] at hexit
      exact absurd hexit (commit_ofError_ne_none _ _ _)
    | ok format =>
      rw [report_of_change? hchange hload hformat] at hexit ⊢
      cases hfile : command.readsInput with
      | true =>
        rw [update_of_inPlace_input hinPlace hfile] at hexit
        cases hexit
      | false =>
        rw [update_of_inPlace hinPlace hfile hformat] at hexit ⊢
        refine ⟨document, format, rfl, rfl, ?_⟩
        dsimp only [commit] at hexit ⊢
        split at hexit
        · rename_i hsave
          rw [hsave]
        · cases hexit

/-! ### Printed -/

theorem update_printing (hrender : format.render (document.changeAll none selector change).2
      config.renderOptions = .ok text) :
    command.printing.update config document format selector change =
      { output := text
        changedNothing := (document.changeAll none selector change).1 = 0 } := by
  simp [update, target, printing, Report.print, hrender]

/-- An update whose document is loaded, changed and rendered prints it and keeps all files. -/
theorem run_printing (hchange : command.action.change? = some (selector, change))
    (hload : command.load environment = .ok document)
    (hformat : command.printFormat (command.configure environment.config) = .ok format)
    (hrender : format.render (document.changeAll none selector change).2
      (command.configure environment.config).renderOptions = .ok text) :
    (command.printing.run environment).exitCode = 0 ∧
      (command.printing.run environment).output = text ∧
        (command.printing.run environment).store = environment.store := by
  have hreport : command.printing.report environment =
      command.printing.update (command.configure environment.config) document format selector
        change :=
    report_of_change? hchange hload hformat
  rw [update_printing hrender] at hreport
  rw [exitCode_run_eq_zero_iff, store_run, hreport]
  exact ⟨rfl, congrArg Report.output hreport, rfl⟩

/-- An update that succeeds in place succeeds as well when it prints its document. It changes no
file then, and prints the text that it leaves in the file when it works in place. -/
theorem printing_of_inPlace (hinPlace : command.inPlace = true)
    (hupdate : command.action.change?.isSome)
    (hexit : (command.run environment).exitCode = 0) :
    (command.printing.run environment).exitCode = 0 ∧
      (command.printing.run environment).store = environment.store ∧
        ∃ content, (command.run environment).store.read? command.file = some content ∧
          Store.HoldsText command.file (command.printing.run environment).output content := by
  obtain ⟨⟨selector, change⟩, hchange⟩ := Option.isSome_iff_exists.mp hupdate
  obtain ⟨document, format, hload, hformat, hsave⟩ :=
    exists_saveAs_of_inPlace hinPlace hchange hexit
  obtain ⟨text, content, hrender, hread, hcontent⟩ := (Store.replaced_of_saveAs hsave).document
  obtain ⟨hprinted, houtput, hkept⟩ := run_printing hchange hload hformat hrender
  exact ⟨hprinted, hkept, content, hread, houtput ▸ hcontent⟩

/-- A compressed document with one row, and a configuration that asks for YAML and keeps the order
of keys. -/
def rowsEnvironment : Environment where
  store := ⟨[(["rows.gz"], .file (contentOf "rows.gz" "[\x7b\"b\": 1, \"a\": 2\x7d]"))]⟩
  config := { outputFormat := "yaml", sortKeys := false }

/-- The command that writes a key of every row and puts the document back. -/
def rowsCommand : Command where
  file := "rows.gz"
  format := none
  indent := none
  output := none
  inPlace := true
  action := .put "[..]" "c" "null"

/-- The rows are printed as YAML, and this is what the compressed file holds after the change. -/
theorem printing_of_inPlace_rows :
    rowsCommand.inPlace = true ∧ rowsCommand.action.change?.isSome ∧
      (rowsCommand.run rowsEnvironment).exitCode = 0 ∧
        (rowsCommand.printing.run rowsEnvironment).exitCode = 0 ∧
          (rowsCommand.printing.run rowsEnvironment).output = "- b: 1\n  a: 2\n  c: null\n" ∧
            ∃ content,
              (rowsCommand.run rowsEnvironment).store.read? rowsCommand.file = some content ∧
                Store.HoldsText rowsCommand.file "- b: 1\n  a: 2\n  c: null\n" content := by
  have hexit : (rowsCommand.run rowsEnvironment).exitCode = 0 := by decide +kernel
  have houtput : (rowsCommand.printing.run rowsEnvironment).output =
      "- b: 1\n  a: 2\n  c: null\n" := by
    decide +kernel
  obtain ⟨hprinted, -, hcontent⟩ := printing_of_inPlace rfl rfl hexit
  exact ⟨rfl, rfl, hexit, hprinted, houtput, houtput ▸ hcontent⟩

end Command

end DocTree
