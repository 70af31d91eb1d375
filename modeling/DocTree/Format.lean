import DocTree.FileName

/-!
# Document formats

A document is stored as JSON, as JSON Lines, with one element of an array on each line, or as YAML.
The ending of a file name tells the format. Case does not matter.
-/

set_option autoImplicit false
set_option relaxedAutoImplicit false

namespace DocTree

/-- A format of stored documents. -/
inductive Format where
  | json
  | jsonLines
  | yaml
deriving DecidableEq, Inhabited

namespace Format

/-- The format with a name. -/
def ofName? (name : String) : Option Format :=
  match String.ofList (lowerCase name) with
  | "json" => some .json
  | "jsonl" => some .jsonLines
  | "ndjson" => some .jsonLines
  | "yaml" => some .yaml
  | "yml" => some .yaml
  | _ => none

/-- The format in which a file is read. -/
def ofFileName (name : String) : Format :=
  let base := FileName.base name
  if endsWith base ['.', 'y', 'a', 'm', 'l'] || endsWith base ['.', 'y', 'm', 'l'] then .yaml
  else if endsWith base ['.', 'j', 's', 'o', 'n', 'l'] then .jsonLines
  else if endsWith base ['.', 'n', 'd', 'j', 's', 'o', 'n'] then .jsonLines
  else .json

/-- The format in which a file is written: that of its ending, and the format with the name
`otherwise` when the ending names none. -/
def ofOutput (name otherwise : String) : Format :=
  match ofFileName name with
  | .json =>
    if endsWith (FileName.base name) ['.', 'j', 's', 'o', 'n'] then .json
    else (ofName? otherwise).getD .json
  | format => format

end Format

end DocTree
