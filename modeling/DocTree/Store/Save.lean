import DocTree.Config

/-!
# Saving documents

A document is rendered in full before anything is written. Its file is then replaced in steps: an
existing file is copied to its backup if the configuration asks for one, the new content is written
to a temporary file, and that file is renamed. `saveSteps` gives the steps, and `Store.save` takes
them one after another until one fails.
-/

set_option autoImplicit false
set_option relaxedAutoImplicit false

namespace DocTree

/-- Why a document cannot be saved. -/
inductive SaveError where
  | render (cause : RenderError)
  | invalidName
  | backup
  | temporaryFile
  | compressedTemporaryFile
  | rename
deriving Inhabited

/-- The message of an error. -/
def SaveError.message : SaveError → String
  | render cause => cause.message
  | invalidName => "Invalid file name"
  | backup => "Failed to create backup"
  | temporaryFile => "Failed to write temp file"
  | compressedTemporaryFile => "Failed to create temp file"
  | rename => "Failed to rename temp file"

/-- A step of saving. -/
inductive SaveStep where
  | backup (name copy : String)
  | writeTemporary (name : String) (content : List UInt8) (compressed : Bool)
  | rename (temporary name : String)

namespace SaveStep

/-- The error when a step fails. -/
def error : SaveStep → SaveError
  | backup _ _ => .backup
  | writeTemporary _ _ compressed => if compressed then .compressedTemporaryFile else .temporaryFile
  | rename _ _ => .rename

/-- The store after a step. -/
def take? (store : Store) : SaveStep → Option Store
  | backup name copy => store.copy? name copy
  | writeTemporary name content _ => store.write? name content
  | rename temporary name => store.rename? temporary name

/-- Takes a step in a store. -/
def perform (step : SaveStep) : EStateM SaveError Store Unit := fun store ↦
  match step.take? store with
  | some store => .ok () store
  | none => .error step.error store

end SaveStep

/-- The bytes that a file holds for a text: its encoding, compressed if the name says so. -/
def contentOf (name text : String) : List UInt8 :=
  if FileName.isGzip name then Gzip.compress (bytesOfText text) else bytesOfText text

/-- The step that keeps the file that is there, if one is asked for. -/
def backupSteps (name : String) (wanted : Bool) : Except SaveError (List SaveStep) :=
  if wanted then
    match FileName.backup? name with
    | some copy => .ok [.backup name copy]
    | none => .error .invalidName
  else .ok []

/-- The steps that replace the file with a name, which may be there already. -/
def saveSteps (name : String) (format : Format) (value : Value) (config : Config)
    (isPresent : Bool) : Except SaveError (List SaveStep) := do
  let text ← (format.render value config.renderOptions).mapError .render
  let before ← backupSteps name (config.createBackup && isPresent)
  let temporary := FileName.temporary name
  return before ++ [.writeTemporary temporary (contentOf name text) (FileName.isGzip name),
    .rename temporary name]

namespace Store

/-- Saves a document to a file in a given format. -/
def saveAs (name : String) (format : Format) (value : Value) (config : Config) :
    EStateM SaveError Store Unit := fun store ↦
  match saveSteps name format value config (store.contains name) with
  | .ok steps => steps.forM SaveStep.perform store
  | .error error => .error error store

/-- Saves a document to a file in the format that its name or the configuration tells. -/
def save (name : String) (value : Value) (config : Config) : EStateM SaveError Store Unit :=
  saveAs name (Format.ofOutput name config.outputFormat) value config

end Store

end DocTree
