import DocTree.FileName

/-!
# Stores of files

A store is a directory with everything below it. Its entries are found by their location, the names
from the root directory down. The operations of a store fail, and then change nothing, where those
of a disk do: a file is written only into a directory and never over one, a file is copied or renamed
only if it is there, and no directory is made below a file.

A file name stands for a location when it is relative and does not lead upwards. A name that ends
with a slash or a lone point finds nothing but a directory there.
-/

set_option autoImplicit false
set_option relaxedAutoImplicit false

namespace DocTree

/-- The names from the root directory down. -/
abbrev Location := List String

namespace Location

/-- The most bytes that the name of one entry may have. -/
def maxNameLength : Nat := 255

/-- Whether an entry may have a name. -/
def isName (name : String) : Bool :=
  name ≠ ".." && name.utf8ByteSize ≤ maxNameLength && !name.toList.contains '\x00'

/-- The location that a file name stands for. It has no slash in front; empty parts and lone points
have no meaning. -/
def ofName? (name : String) : Option Location :=
  let parts := FileName.parts name
  if parts.head? = some "" || !parts.all isName then none
  else some (parts.filter fun part ↦ part ≠ "" && part ≠ ".")

end Location

/-- What is found at a location. -/
inductive StoreEntry where
  | file (content : List UInt8)
  | directory
deriving DecidableEq, Inhabited

/-- A root directory and the entries below it. -/
structure Store where
  entries : List (Location × StoreEntry) := []
deriving Inhabited

namespace Store

/-- The entry at a location. The root is always a directory. -/
def entryAt? (store : Store) (location : Location) : Option StoreEntry :=
  if location = [] then some .directory else store.entries.lookup location

/-- The entry with a name. -/
def entry? (store : Store) (name : String) : Option StoreEntry :=
  ((Location.ofName? name).bind store.entryAt?).filter fun entry ↦
    entry = .directory || !FileName.isOfDirectory name

/-- Whether there is an entry with a name. -/
def contains (store : Store) (name : String) : Bool := (store.entry? name).isSome

/-- The content of the file with a name. -/
def read? (store : Store) (name : String) : Option (List UInt8) :=
  match store.entry? name with
  | some (.file content) => some content
  | _ => none

/-- The store without the entry at a location. -/
def eraseAt (store : Store) (location : Location) : Store :=
  ⟨store.entries.filter fun entry ↦ entry.1 ≠ location⟩

/-- The store with an entry at a location. -/
def putAt (store : Store) (location : Location) (entry : StoreEntry) : Store :=
  ⟨(location, entry) :: (store.eraseAt location).entries⟩

/-- Whether a file may be written at a location. -/
def acceptsFileAt (store : Store) (location : Location) : Bool :=
  store.entryAt? location.dropLast = some .directory &&
    store.entryAt? location ≠ some .directory

/-- Writes the file with a name. -/
def write? (store : Store) (name : String) (content : List UInt8) : Option Store := do
  let location ← Location.ofName? name
  if !FileName.isOfDirectory name && store.acceptsFileAt location then
    return store.putAt location (.file content)
  else none

/-- Copies the file with the name `source` to the name `target`. -/
def copy? (store : Store) (source target : String) : Option Store := do
  store.write? target (← store.read? source)

/-- Moves the file with the name `source` to the name `target`. -/
def rename? (store : Store) (source target : String) : Option Store := do
  let content ← store.read? source
  let location ← Location.ofName? source
  (store.eraseAt location).write? target content

/-- Makes the directories below a location that lead down along some names. -/
def makeDirectoriesFrom? (store : Store) (location : Location) : List String → Option Store
  | [] => some store
  | name :: rest =>
    let next := location ++ [name]
    match store.entryAt? next with
    | some (.file _) => none
    | some .directory => makeDirectoriesFrom? store next rest
    | none => makeDirectoriesFrom? (store.putAt next .directory) next rest

/-- Makes the directory with a name, and those above it. -/
def makeDirectories? (store : Store) (name : String) : Option Store := do
  store.makeDirectoriesFrom? [] (← Location.ofName? name)

/-- Makes the directories above a name. -/
def makeParents? (store : Store) (name : String) : Option Store := do
  store.makeDirectoriesFrom? [] (← Location.ofName? name).dropLast

/-- The names of the entries of the root directory, in increasing order. -/
def names (store : Store) : List String :=
  (store.entries.filterMap fun entry ↦
    match entry.1 with
    | [name] => some name
    | _ => none).mergeSort fun a b ↦ decide (a ≤ b)

end Store

end DocTree
