/-!
# Paths

A path names one position of a document: a list of segments, each the key of an object entry or the
index of an array element. The empty path names the root. A segment applies to one kind of
container only, so the key `"0"` is no index.
-/

set_option autoImplicit false
set_option relaxedAutoImplicit false

namespace DocTree

/-- One step of a path. -/
inductive Segment where
  | key (name : String)
  | index (position : Nat)
deriving DecidableEq, Inhabited

/-- A key stands for itself and an index is written in decimal. -/
def Segment.render : Segment → String
  | .key name => name
  | .index position => position.repr

/-- A position in a document, from the root down. -/
abbrev Path := List Segment

namespace Path

/-- The segments with a slash between each two. -/
def render (path : Path) : String := "/".intercalate (path.map Segment.render)

/-- The path one segment further down. -/
def child (path : Path) (segment : Segment) : Path := path ++ [segment]

/-- The path to the parent and the last segment. -/
def splitLast? (path : Path) : Option (Path × Segment) :=
  path.getLast?.map fun last ↦ (path.dropLast, last)

end Path

end DocTree
