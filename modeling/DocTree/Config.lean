import DocTree.Format.Printer
import DocTree.Format.Reader
import DocTree.Store
import DocTree.Toml.Parser
import DocTree.Toml.Printer

/-!
# Configuration

The configuration is a TOML document with four keys, any of which may be missing. Other keys have no
meaning. A document that cannot be read, or holds a value of the wrong type under one of the four
keys, counts as an empty one.
-/

set_option autoImplicit false
set_option relaxedAutoImplicit false

namespace DocTree

/-- How documents are written, and in which format where nothing else tells. -/
structure Config where
  indentSize : Nat := 2
  outputFormat : String := "json"
  /-- Whether a file is copied before it is overwritten. -/
  createBackup : Bool := false
  sortKeys : Bool := true
deriving DecidableEq, Inhabited

namespace Config

/-- How documents are written. -/
def renderOptions (config : Config) : RenderOptions := ⟨config.indentSize, config.sortKeys⟩

/-- A natural number in a table. -/
def natural? : Toml.Item → Option Nat
  | .integer number => if number < 0 then none else some number.toNat
  | _ => none

/-- A text in a table. -/
def text? : Toml.Item → Option String
  | .string text => some text
  | _ => none

/-- A flag in a table. -/
def flag? : Toml.Item → Option Bool
  | .boolean flag => some flag
  | _ => none

/-- What is read under a key, or `otherwise` when the key is missing. -/
def field? {α : Type} (table : Toml.Table) (key : String) (read : Toml.Item → Option α)
    (otherwise : α) : Option α :=
  match table.get? key with
  | none => some otherwise
  | some item => read item

/-- Reads a configuration from a table. -/
def ofTable? (table : Toml.Table) : Option Config := do
  let defaults : Config := {}
  let indentSize ← field? table "indent_size" natural? defaults.indentSize
  let outputFormat ← field? table "output_format" text? defaults.outputFormat
  let createBackup ← field? table "create_backup" flag? defaults.createBackup
  let sortKeys ← field? table "sort_keys" flag? defaults.sortKeys
  return { indentSize, outputFormat, createBackup, sortKeys }

/-- Reads a configuration. -/
def ofText (text : String) : Config := ((Toml.parse? text).bind ofTable?).getD {}

/-- Reads the configuration of a file. -/
def load (store : Store) (name : String) : Config :=
  match (store.read? name).bind textOfBytes? with
  | some text => ofText text
  | none => {}

/-- The greatest number that can be written in TOML. -/
def maxInteger : Nat := Nat.pow 2 63 - 1

/-- The line for a key. -/
def line (key value : String) : String := key ++ " = " ++ value ++ "\n"

/-- The text of a configuration, unless its number is too great. -/
def toText? (config : Config) : Option String :=
  if maxInteger < config.indentSize then none
  else
    some <| line "indent_size" config.indentSize.repr ++
      line "output_format" (.ofList (Toml.writeString config.outputFormat.toList)) ++
      line "create_backup" (toString config.createBackup) ++
      line "sort_keys" (toString config.sortKeys)

/-- Writes the configuration to a file, after making the directories above it, which stay when the
file cannot be written. -/
def save (config : Config) (name : String) : EStateM Unit Store Unit := fun store ↦
  match store.makeParents? name with
  | none => .error () store
  | some store =>
    match config.toText?.bind fun text ↦ store.write? name (bytesOfText text) with
    | some store => .ok () store
    | none => .error () store

end Config

end DocTree
