/-
# Clean paths

`clean` takes a path to its shortest lexical form: repeated slashes collapse, `.` pieces
vanish, and `..` removes the name before it.  A rooted path never climbs above `/`; a relative
one keeps the `..` it cannot resolve, and is `.` when nothing is left.

`join` cleans one path after another, and `under` places a route's relative path below the base
of its group.  `under` alone keeps a trailing slash, which addresses everything below a folder.
-/
import Gatehouse.Fault
import Gatehouse.Path.Segments

namespace Gatehouse
namespace Path

/-! ## 1. One path -/

/-- A `..` met with the names in `stack` (innermost first) still standing: it removes the
innermost one, unless that is itself a `..` or there is none.  Then a rooted path stays where it
is and a relative one keeps the `..`. -/
def climb (rooted : Bool) (stack : List String) : List String :=
  match stack with
  | top :: rest => if top ≠ ".." then rest else if rooted then stack else ".." :: stack
  | [] => if rooted then [] else [".."]

/-- One piece of a path read with the names in `stack` (innermost first) still standing. -/
def visit (rooted : Bool) (stack : List String) (piece : String) : List String :=
  if piece = "" ∨ piece = "." then stack
  else if piece = ".." then climb rooted stack
  else piece :: stack

/-- The names that remain of a path, outermost first. -/
def cleanNames (p : String) : List String :=
  ((pieces p).foldl (visit (isRooted p)) []).reverse

/-- The lexical normal form of a path. -/
def clean (p : String) : String :=
  if isRooted p then "/" ++ joinPieces (cleanNames p)
  else if cleanNames p = [] then "."
  else joinPieces (cleanNames p)

/-! ## 2. One path below another -/

/-- Two paths read one after the other and cleaned.  An empty one is left out, and two empty
ones make the empty path. -/
def join (base relative : String) : String :=
  if base = "" then (if relative = "" then "" else clean relative)
  else if relative = "" then clean base
  else clean (base ++ "/" ++ relative)

/-- Whether a path ends in a slash; a path without characters has no end to look at. -/
def endsInSlash? (p : String) : Except RouteFault Bool :=
  if p = "" then .error .emptyPath else .ok (endsInSlash p)

/-- The absolute path of `relative` below `base`.  An empty `relative` is `base` itself, as it
stands.  Otherwise the two are joined, and a slash at the end of `relative` is kept. -/
def under (base relative : String) : Except RouteFault String :=
  if relative = "" then .ok base
  else do
    let joined := join base relative
    if ← endsInSlash? relative then
      -- Cleaning has taken the slash away, unless it is the whole path.
      return if ← endsInSlash? joined then joined else joined ++ "/"
    else
      return joined

end Path
end Gatehouse
