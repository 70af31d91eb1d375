import DocTree.Entries

/-!
# TOML tables

A table is made by a header, by a dotted key, or only by standing above another table. A key is
written once. A header makes a table that no other header and no dotted key has made; a dotted key
adds to tables that dotted keys have made. An inline table is closed, and a header in double brackets
adds an element to an array of tables.

The writing functions give `none` where these rules are broken.
-/

set_option autoImplicit false
set_option relaxedAutoImplicit false

namespace DocTree.Toml

/-- What has made a table. -/
inductive Origin where
  | header
  | dottedKey
  | position
deriving DecidableEq, Inhabited

/-- The content of a key. The text of a float or of a date is kept as it is written. -/
inductive Item where
  | string (text : String)
  | integer (number : Int)
  | float (text : String)
  | boolean (flag : Bool)
  | date (text : String)
  | array (items : List Item)
  | inline (entries : List (String × Item))
  | table (origin : Origin) (entries : List (String × Item))
  | tables (elements : List (List (String × Item)))
deriving Inhabited

/-- The entries of a table. -/
abbrev Table := Entries Item

/-- A dotted key: the names before the last one, and the last one. -/
structure Key where
  path : List String
  name : String
deriving Inhabited

namespace Table

/-- Changes the entries of the table or of the last table of the array that is an item. -/
def change? (change : Table → Option Table) : Item → Option Item
  | .table origin entries => (change entries).map (.table origin)
  | .tables elements =>
    match elements.reverse with
    | [] => none
    | last :: before => (change last).map fun entries ↦ .tables (before.reverse ++ [entries])
  | _ => none

/-- Changes the table at a path, and makes the tables on the way that are missing. -/
def changeAt? (change : Table → Option Table) : List String → Table → Option Table
  | [], table => change table
  | name :: path, table => do
    let item := (table.get? name).getD (.table .position [])
    return table.insert name (← change? (changeAt? change path) item)

/-- Writes a new key. -/
def add? (table : Table) (name : String) (item : Item) : Option Table :=
  if (table.get? name).isSome then none else some (table.insert name item)

/-- Whether dotted keys may add to an item: not to the table of a header. -/
def isOpen : Item → Bool
  | .table .header _ => false
  | _ => true

/-- Whether a dotted key may end in an item. -/
def isDotted : Item → Bool
  | .table .dottedKey _ => true
  | _ => false

/-- Writes a new key under a dotted path, and makes the tables on the way that are missing. -/
def addDotted? (name : String) (item : Item) : List String → Table → Option Table
  | [], table => add? table name item
  | [last], table => do
    let parent := (table.get? last).getD (.table .dottedKey [])
    if isDotted parent then return table.insert last (← change? (add? · name item) parent)
    else none
  | first :: path, table => do
    let parent := (table.get? first).getD (.table .dottedKey [])
    if isOpen parent then
      return table.insert first (← change? (addDotted? name item path) parent)
    else none

/-- Writes a pair. -/
def addPair? (table : Table) (key : Key) (item : Item) : Option Table :=
  addDotted? key.name item key.path table

/-- Opens the table of a header. -/
def openTable? (table : Table) (key : Key) : Option Table :=
  changeAt? (fun parent ↦
    match parent.get? key.name with
    | none => some (parent.insert key.name (.table .header []))
    | some (.table .position entries) =>
      some (parent.insert key.name (.table .header entries))
    | some _ => none) key.path table

/-- Opens a new element of the array of tables of a header. -/
def openElement? (table : Table) (key : Key) : Option Table :=
  changeAt? (fun parent ↦
    match parent.get? key.name with
    | none => some (parent.insert key.name (.tables [[]]))
    | some (.tables elements) => some (parent.insert key.name (.tables (elements ++ [[]])))
    | some _ => none) key.path table

end Table

end DocTree.Toml
