/-!
# File names

A file name is a text with slashes between its parts. Empty parts and lone points at its end do not
count, and the last of the other parts is the name of the file in its directory. The extension of
that name follows its last point, unless that point is in front.
-/

set_option autoImplicit false
set_option relaxedAutoImplicit false

namespace DocTree

/-- The text in lower case, as far as it is ASCII. -/
def lowerCase (text : String) : List Char := text.toList.map Char.toLower

/-- Whether a text ends with another one. -/
def endsWith (text ending : List Char) : Bool := ending.reverse.isPrefixOf text.reverse

namespace FileName

/-- The parts of a file name between its slashes. -/
def parts (name : String) : List String := (name.toList.splitOn '/').map String.ofList

/-- Whether a name can stand for nothing but a directory: it ends with a slash or a lone point. -/
def isOfDirectory (name : String) : Bool :=
  (parts name).getLast?.any fun part ↦ part = "" || part = "."

/-- The parts in front of the name of the file in its directory, and that name. A name that ends with
two points names no file. -/
def split? (name : String) : Option (List String × String) :=
  match (parts name).reverse.dropWhile fun part ↦ part = "" || part = "." with
  | [] => none
  | last :: before => if last = ".." then none else some (before.reverse, last)

/-- The file name with another name of the file in its directory, if it names a file. -/
def changeLast (name : String) (change : String → String) : String :=
  match split? name with
  | none => name
  | some (before, last) => "/".intercalate (before ++ [change last])

/-- The part of a name before its last point and the part after it. -/
def splitExtension (name : List Char) : List Char × Option (List Char) :=
  let extension := (name.reverse.takeWhile (· ≠ '.')).reverse
  let stem := name.take (name.length - extension.length - 1)
  if extension.length = name.length || stem.isEmpty then (name, none) else (stem, some extension)

/-- Whether a file with this name is compressed: its extension is `gz` in any case. -/
def isGzip (name : String) : Bool :=
  match split? name with
  | some (_, last) => (splitExtension (lowerCase last)).2 = some ['g', 'z']
  | none => false

/-- A file name in lower case, without the ending of compressed files. -/
def base (name : String) : List Char :=
  let lower := lowerCase name
  if endsWith lower ['.', 'g', 'z'] then lower.take (lower.length - 3) else lower

/-- The name of the temporary file for a file: it has the extension `tmp` instead of its own. -/
def temporary (name : String) : String :=
  changeLast name fun last ↦ .ofList ((splitExtension last.toList).1 ++ ['.', 't', 'm', 'p'])

/-- The name of the backup of a file, if it names a file. -/
def backup? (name : String) : Option String :=
  (split? name).map fun _ ↦ changeLast name (· ++ ".bak")

end FileName

end DocTree
