import DocTree.Format
import DocTree.Json.Lines
import DocTree.Yaml.Document

/-!
# Writing documents

`Format.render` writes a value in a format, with a line feed at its end. A value with an infinite
float or NaN is refused, and a JSON document must be readable again, which fails when containers nest
too deep.
-/

set_option autoImplicit false
set_option relaxedAutoImplicit false

namespace DocTree

/-- How documents are written: the spaces for each level of JSON, zero for a single line, and whether
the keys of objects are sorted. -/
structure RenderOptions where
  indent : Nat := 2
  sortKeys : Bool := true
deriving DecidableEq, Inhabited

/-- Why a value cannot be written. -/
inductive RenderError where
  | json (number : Float)
  | yaml (number : Float)
  | unreadable
deriving Inhabited

/-- The message for a float that is infinite or NaN. -/
def nonFiniteMessage (number : Float) : String :=
  "cannot serialize non-finite number " ++ nonFiniteName number

/-- The message of an error. -/
def RenderError.message : RenderError → String
  | json number => "JSON serialization failed: " ++ nonFiniteMessage number
  | yaml number => "YAML serialization failed: " ++ nonFiniteMessage number
  | unreadable => "Generated invalid JSON"

/-- Writes a value as JSON. -/
def renderJson (value : Value) (options : RenderOptions) : Except RenderError String :=
  let arranged := value.arrange options.sortKeys
  match arranged.nonFinite? with
  | some number => .error (.json number)
  | none => .ok (.ofList (Json.write options.indent 0 arranged))

/-- Writes a value as YAML. -/
def renderYaml (value : Value) (options : RenderOptions) : Except RenderError String :=
  let arranged := value.arrange options.sortKeys
  match arranged.nonFinite? with
  | some number => .error (.yaml number)
  | none => .ok (Yaml.render arranged)

/-- Writes a value as JSON Lines. -/
def renderJsonLines (value : Value) (options : RenderOptions) : Except RenderError String :=
  let arranged := value.arrange options.sortKeys
  match arranged.nonFinite? with
  | some number => .error (.json number)
  | none => .ok (.ofList (Json.writeLines (Json.lineValues arranged)))

/-- Refuses a text that is not a JSON document. -/
def checkJson (text : String) : Except RenderError String :=
  if (Json.parse? text).isSome then .ok text else .error .unreadable

/-- The text with a line feed at its end. -/
def endLine (text : String) : String :=
  if text.toList.getLast? = some '\n' then text else text.push '\n'

/-- Writes a value in a format. -/
def Format.render (format : Format) (value : Value) (options : RenderOptions) :
    Except RenderError String :=
  endLine <$>
    match format with
    | json => renderJson value options >>= checkJson
    | jsonLines => renderJsonLines value options
    | yaml => renderYaml value options

end DocTree
