import DocTree.Format
import DocTree.Gzip.Member
import DocTree.Json.Lines
import DocTree.Yaml.Document

/-!
# Reading documents

`Format.parse` reads a text in a given format. `Value.ofBytes` finds out the format of bytes: they are
decompressed when they start like a gzip file, and then read in the first format that fits, JSON
before JSON Lines before YAML.
-/

set_option autoImplicit false
set_option relaxedAutoImplicit false

namespace DocTree

/-- Why a text is no document in a format. -/
inductive ParseError where
  | json
  | jsonLine (number : Nat)
  | noLines
  | yaml
deriving DecidableEq, Inhabited

/-- The message of an error. -/
def ParseError.message : ParseError → String
  | json => "Failed to parse JSON"
  | jsonLine number => s!"Invalid JSON on line {number}"
  | noLines => "No valid JSON found in JSON Lines content"
  | yaml => "Failed to parse YAML"

/-- Reads a JSON document. -/
def parseJson (text : String) : Except ParseError Value :=
  match Json.parse? text with
  | some value => .ok value
  | none => .error .json

/-- Reads a document in JSON Lines. -/
def parseJsonLines (text : String) : Except ParseError Value :=
  match Json.parseLines text with
  | .error number => .error (.jsonLine number)
  | .ok [] => .error .noLines
  | .ok items => .ok (.array items)

/-- Reads a YAML document. -/
def parseYaml (text : String) : Except ParseError Value :=
  match Yaml.parse? text with
  | some value => .ok value
  | none => .error .yaml

/-- Reads a document in a format. -/
def Format.parse : Format → String → Except ParseError Value
  | json => parseJson
  | jsonLines => parseJsonLines
  | yaml => parseYaml

/-- Why bytes are no document. -/
inductive InputError where
  | compression
  | encoding
  | unknownFormat
deriving DecidableEq, Inhabited

/-- The message of an error. -/
def InputError.message : InputError → String
  | compression => "Failed to decompress gzipped input"
  | encoding => "Invalid UTF-8 in input"
  | unknownFormat => "Input is neither JSON, JSON Lines nor YAML"

/-- The text with the given bytes as its encoding. -/
def textOfBytes? (bytes : List UInt8) : Option String := String.fromUTF8? ⟨bytes.toArray⟩

/-- The encoding of a text. -/
def bytesOfText (text : String) : List UInt8 := text.toUTF8.toList

/-- The text of bytes that may be compressed. -/
def textOfInput (bytes : List UInt8) : Except InputError String :=
  if Gzip.hasMagic bytes then
    match (Gzip.decompress? bytes).bind textOfBytes? with
    | some text => .ok text
    | none => .error .compression
  else
    match textOfBytes? bytes with
    | some text => .ok text
    | none => .error .encoding

/-- The document of a text in any format. -/
def Value.ofText? (text : String) : Option Value :=
  ((parseJson text).toOption.or (parseJsonLines text).toOption).or (parseYaml text).toOption

/-- The document of bytes in any format. -/
def Value.ofBytes (bytes : List UInt8) : Except InputError Value := do
  let text ← textOfInput bytes
  match Value.ofText? text with
  | some value => return value
  | none => throw .unknownFormat

end DocTree
