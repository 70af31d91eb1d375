import DocTree.Format.Reader
import DocTree.Store

/-!
# Loading documents

The name of a file tells whether it is compressed and in which format it is.
-/

set_option autoImplicit false
set_option relaxedAutoImplicit false

namespace DocTree

/-- Why a file cannot be loaded. -/
inductive LoadError where
  | missing (name : String)
  | compression
  | read (name : String)
  | parse (cause : ParseError)
deriving DecidableEq, Inhabited

/-- The message of an error. -/
def LoadError.message : LoadError → String
  | .missing name => "Failed to open gzipped file " ++ name
  | .compression => "Failed to decompress gzipped file - file may be corrupted"
  | .read name => "Failed to read file " ++ name
  | .parse cause => cause.message

/-- The text of the file with a name, given the entry found there. -/
def textOfEntry (name : String) (entry : Option StoreEntry) : Except LoadError String :=
  if FileName.isGzip name then
    match entry with
    | none => .error (.missing name)
    | some .directory => .error .compression
    | some (.file content) =>
      match (Gzip.decompress? content).bind textOfBytes? with
      | some text => .ok text
      | none => .error .compression
  else
    match entry with
    | some (.file content) =>
      match textOfBytes? content with
      | some text => .ok text
      | none => .error (.read name)
    | _ => .error (.read name)

/-- The document of the file with a name, given the entry found there. -/
def Value.ofEntry (name : String) (entry : Option StoreEntry) : Except LoadError Value := do
  let text ← textOfEntry name entry
  ((Format.ofFileName name).parse text).mapError .parse

/-- Loads a document from a file. -/
def Store.load (store : Store) (name : String) : Except LoadError Value :=
  Value.ofEntry name (store.entry? name)

end DocTree
