/-
# Locations on a disk

A location is the text that is handed to the operating system.  Locations are put together with
`below` and read, without touching the disk, by `fileName?` and `extension?`.
-/
import Gatehouse.Path.Segments

namespace Gatehouse
namespace Disk

/-- The location of `relative` below `base`.  A rooted `relative` stands for itself, and no slash
is added behind an empty `base` or one that ends in a slash. -/
def below (base relative : String) : String :=
  if Path.isRooted relative then relative
  else if base = "" ∨ Path.endsInSlash base then base ++ relative
  else base ++ "/" ++ relative

/-- The steps of a location: its non-empty pieces, those that stay in place left out. -/
def steps (p : String) : List String := (Path.names p).filter (· ≠ ".")

/-- A piece of a location that leads nowhere. -/
def staysPut (piece : String) : Bool := piece = "" || piece = "."

/-- A location that is not rooted, without the pieces at its two ends that lead nowhere. -/
def trimmed (p : String) : String :=
  Path.joinPieces (((Path.pieces p).dropWhile staysPut).reverse.dropWhile staysPut).reverse

/-- The last step, when it goes down. -/
def fileName? (p : String) : Option String :=
  match (steps p).getLast? with
  | some name => if name = ".." then none else some name
  | none => none

/-- What follows the last dot of a file's name.  A dot in front of all else starts no
extension. -/
def extension? (p : String) : Option String :=
  match fileName? p with
  | none => none
  | some name =>
    let reversed := name.toList.reverse
    match reversed.dropWhile (· ≠ '.') with
    | _ :: _ :: _ => some (String.ofList (reversed.takeWhile (· ≠ '.')).reverse)
    | _ => none

end Disk
end Gatehouse
