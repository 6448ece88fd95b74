/-
# Path patterns

A pattern is a path with holes: `:name` stands for one name, `*name` for all that is left.  Only the
non-empty pieces of a pattern and of a path count, so repeated and trailing slashes make no
difference to what matches.
-/
import Gatehouse.Path.Segments

namespace Gatehouse

/-- One piece of a pattern. -/
inductive Segment
  | literal (name : String)
  /-- One name, kept under `key`. -/
  | one (key : String)
  /-- All names that are left, kept under `key` with slashes between them. -/
  | rest (key : String)
deriving DecidableEq, Repr

/-- Parameters in the order of their pattern. -/
abbrev Params := List (String × String)

namespace Segment

/-- A piece of a pattern, read. -/
def ofName (name : String) : Segment :=
  match name.toList with
  | ':' :: key => .one (String.ofList key)
  | '*' :: key => .rest (String.ofList key)
  | _ => .literal name

def ofPattern (pattern : String) : List Segment := (Path.names pattern).map ofName

/-- What the names of a path leave in the holes of a pattern, if they fit it.  A catch-all takes
all that is left, and nothing behind it is looked at. -/
def fit? : List Segment → List String → Option Params
  | [], [] => some []
  | .rest key :: _, names => some [(key, Path.joinPieces names)]
  | .literal name :: more, n :: names => if n = name then fit? more names else none
  | .one key :: more, n :: names => (fit? more names).map ((key, n) :: ·)
  | _, _ => none

end Segment
end Gatehouse
