/-
# Disks

What a service sees of a file system: for each location, what stands there and what can be read
from it.  Links are followed by the system before it answers, so a `Disk` has none.
-/
import Gatehouse.Http.Headers

namespace Gatehouse

/-- What stands at a location. -/
inductive FileKind
  | regular
  | folder
  /-- A device, a socket or a pipe. -/
  | special
deriving DecidableEq, Repr

/-- What the system tells of a location without reading it: what stands there, its size in
octets, and, where the system keeps that, when it was last changed, in nanoseconds from the start of
1970. -/
structure FileStat where
  kind : FileKind
  size : Nat
  modified? : Option Int
deriving DecidableEq, Repr

/-- A file system as it answers: `stat?` is `none` where nothing can be reached, `read?` where
nothing can be read. -/
structure Disk where
  stat? : String → Option FileStat
  read? : String → Option Bytes

namespace Disk

def isRegular (d : Disk) (p : String) : Bool :=
  match d.stat? p with
  | some s => s.kind = .regular
  | none => false

/-- The disk on which there is nothing. -/
def bare : Disk := ⟨fun _ => none, fun _ => none⟩

end Disk
end Gatehouse
