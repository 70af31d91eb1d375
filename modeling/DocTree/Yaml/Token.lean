/-!
# Tokens of a YAML text

The tokens are the indicators of a text, its scalars with their properties, and the marks at which
block collections start and end, which stand nowhere in the text but follow from its indentation.
-/

set_option autoImplicit false
set_option relaxedAutoImplicit false

namespace DocTree.Yaml

/-- A token. A scalar that is not `plain` is quoted or a block scalar. -/
inductive Token where
  | version (major minor : Nat)
  | tagDirective (handle start : List Char)
  | documentStart
  | documentEnd
  | streamEnd
  | blockSequenceStart
  | blockMappingStart
  | blockEnd
  | blockEntry
  | flowSequenceStart
  | flowSequenceEnd
  | flowMappingStart
  | flowMappingEnd
  | flowEntry
  | key
  | value
  | anchor (name : List Char)
  | reference (name : List Char)
  | tag (handle suffix : List Char)
  | scalar (text : List Char) (plain : Bool)
deriving DecidableEq, Inhabited

end DocTree.Yaml
