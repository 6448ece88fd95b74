/-
# File trees

A file tree is a folder with everything below it, each entry under the list of names that leads to
it.  `Tree.toDisk` is the disk whose empty location is that folder: `locate` walks a location
piece by piece, as the operating system does, and follows links on the way.

A walk fails where a name is missing or too long, where something other than a folder is entered,
where it would leave the tree, or when it meets more links than the system is willing to follow.
A location that is too long as a whole is not walked at all.
-/
import Gatehouse.Disk.Basic
import Gatehouse.Disk.Location

namespace Gatehouse
namespace Disk

/-! ## 1. Trees -/

/-- One thing in a tree. -/
inductive Entry
  /-- A file with its content, when it was changed, and whether it can be read. -/
  | file (body : Bytes) (modified : Int) (readable : Bool)
  | folder
  /-- A link to a location, which counts from the top of the tree. -/
  | link (target : String)
deriving Repr

/-- A folder with everything below it, by the names that lead there.  Of two entries under the
same names the first is the one that counts. -/
structure Tree where
  entries : List (List String × Entry)

namespace Tree

def empty : Tree := ⟨[]⟩

/-- What stands under the given names; the top itself is a folder. -/
def entry? (t : Tree) (place : List String) : Option Entry :=
  if place = [] then some .folder else t.entries.lookup place

/-- The folders above a place, the top left out. -/
def parents (place : List String) : List (List String) :=
  (List.range (place.length - 1)).map fun n => place.take (n + 1)

/-- Puts an entry at a location, and folders above it where there is nothing yet. -/
def put (t : Tree) (p : String) (e : Entry) : Tree :=
  let place := steps p
  let missing := (parents place).filter fun above => (t.entry? above).isNone
  ⟨(place, e) :: missing.map (·, Entry.folder) ++ t.entries⟩

/-! ## 2. Walking -/

/-- The longest name, in octets. -/
def longestName : Nat := 255

/-- The longest location, in octets: the system's limit of 4095, less what it takes to lead to
the top of the tree. -/
def longestLocation : Nat := 4095 - 31

/-- The most links that one walk follows. -/
def linkBudget : Nat := 40

def isFolder (t : Tree) (place : List String) : Bool :=
  match t.entry? place with
  | some .folder => true
  | _ => false

/-- Where a walk along `todo` from `place` ends.  An empty piece or a dot stays, but only in a
folder, so that a slash behind a file's name leads nowhere. -/
def walk (t : Tree) (budget : Nat) (place : List String) (todo : List String) :
    Option (List String) :=
  match todo with
  | [] => some place
  | piece :: rest =>
    if !t.isFolder place then none
    else if piece = "" ∨ piece = "." then walk t budget place rest
    else if piece = ".." then if place = [] then none else walk t budget place.dropLast rest
    else if piece.utf8ByteSize > longestName then none
    else
      match t.entry? (place ++ [piece]) with
      | none => none
      | some (.link target) =>
        match budget with
        | 0 => none
        -- A link leads on from the top, with what was left to walk behind its target.
        | left + 1 => walk t left [] (Path.pieces target ++ rest)
      | some _ => walk t budget (place ++ [piece]) rest
termination_by (budget, todo.length)

/-- The names under which a location's entry stands.  The empty location is the top, and a
rooted location, one with a NUL in it or one that is too long lies outside. -/
def locate (t : Tree) (p : String) : Option (List String) :=
  if Path.isRooted p ∨ p.toList.any (fun c => c.toNat = 0) ∨ longestLocation < p.utf8ByteSize then
    none
  else t.walk linkBudget [] (Path.pieces p)

/-- What stands at a location once links are followed. -/
def find? (t : Tree) (p : String) : Option Entry := (t.locate p).bind t.entry?

/-! ## 3. As a disk -/

def statOf : Entry → Option FileStat
  | .file body modified _ => some ⟨.regular, body.length, some modified⟩
  | .folder => some ⟨.folder, 0, some 0⟩
  | .link _ => none

def contentOf : Entry → Option Bytes
  | .file body _ true => some body
  | _ => none

/-- The disk whose empty location is the top of the tree. -/
def toDisk (t : Tree) : Disk where
  stat? p := (t.find? p).bind statOf
  read? p := (t.find? p).bind contentOf

end Tree
end Disk
end Gatehouse
