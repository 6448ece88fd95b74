/-
# Request targets

The first line of a request names its target in one of four forms: a path with an optional query,
an absolute address, an authority alone, or a single star.  Routing needs nothing but the path,
taken as it is written; `Target.path?` reads it, and is `none` for a text that is no target.

No part is percent-decoded.  A fragment is cut off unread.
-/
import Gatehouse.Http.Headers

namespace Gatehouse
namespace Target

/-! ## 1. Paths and queries -/

/-- The longest target, in octets. -/
def longest : Nat := 65534

/-- An octet that a path may hold.  The quotation mark and the braces ought to be
percent-encoded and are let through all the same. -/
def isPathOctet (b : UInt8) : Bool :=
  b = 0x21 || b = 0x22 || (0x24 ≤ b && b ≤ 0x3B) || b = 0x3D || (0x40 ≤ b && b ≤ 0x5F) ||
    (0x61 ≤ b && b ≤ 0x7E) || 0x80 ≤ b

def isQueryOctet (b : UInt8) : Bool :=
  b = 0x21 || (0x24 ≤ b && b ≤ 0x3B) || b = 0x3D || (0x3F ≤ b && b ≤ 0x7E) || 0x80 ≤ b

/-- What follows the mark of a query is sound up to a fragment. -/
def isQuery (q : Bytes) : Bool := (q.takeWhile (· ≠ 0x23)).all isQueryOctet

/-- The path in front of an optional query and an optional fragment. -/
def originPath? (t : Bytes) : Option Bytes :=
  let path := t.takeWhile fun b => b ≠ 0x3F && b ≠ 0x23
  let rest := t.drop path.length
  let sound := match rest with
    | [] => true
    | b :: q => b ≠ 0x3F || isQuery q
  if path.all isPathOctet && sound then some path else none

/-! ## 2. Authorities -/

/-- What has been seen of an authority: colons since the last `@` or `]`, brackets opened and
closed, a percent sign since the last `@` or `]`, and whether the last octet was an `@`. -/
structure Authority where
  colons : Nat := 0
  opened : Bool := false
  closed : Bool := false
  percent : Bool := false
  atEnd : Bool := false

/-- An octet with no meaning of its own in an authority. -/
def isPlainOctet (b : UInt8) : Bool :=
  (0x30 ≤ b && b ≤ 0x39) || (0x41 ≤ b && b ≤ 0x5A) || (0x61 ≤ b && b ≤ 0x7A) ||
    [0x21, 0x24, 0x26, 0x27, 0x28, 0x29, 0x2A, 0x2B, 0x2C, 0x2D, 0x2E, 0x3B, 0x3D, 0x5F,
      0x7E].contains b

/-- One octet more of an authority.  Brackets come once, and at most eight colons may stand
between two marks that forget them. -/
def Authority.push (a : Authority) (b : UInt8) : Option Authority :=
  if b = 0x3A then
    if a.colons < 8 then some { a with colons := a.colons + 1, atEnd := false } else none
  else if b = 0x5B then
    if a.percent || a.opened then none else some { a with opened := true, atEnd := false }
  else if b = 0x5D then
    if !a.opened || a.closed then none
    else some { a with closed := true, colons := 0, percent := false, atEnd := false }
  else if b = 0x40 then some { a with colons := 0, percent := false, atEnd := true }
  else if b = 0x25 then some { a with percent := true, atEnd := false }
  else if isPlainOctet b then some { a with atEnd := false }
  else none

/-- A whole authority: brackets that match, at most one colon, no percent sign
outside a user's name, and a host after an `@`. -/
def Authority.isWhole (a : Authority) : Bool :=
  a.opened == a.closed && a.colons ≤ 1 && !a.atEnd && !a.percent

/-- Cuts an authority off the front, up to the first `/`, `?` or `#`. -/
def cutAuthority? (t : Bytes) : Option (Bytes × Bytes) :=
  let front := t.takeWhile fun b => b ≠ 0x2F && b ≠ 0x3F && b ≠ 0x23
  match front.foldlM Authority.push {} with
  | some a => if a.isWhole then some (front, t.drop front.length) else none
  | none => none

/-! ## 3. Whole targets -/

def isSchemeOctet (b : UInt8) : Bool :=
  (0x30 ≤ b && b ≤ 0x39) || (0x41 ≤ b && b ≤ 0x5A) || (0x61 ≤ b && b ≤ 0x7A) ||
    b = 0x2B || b = 0x2D || b = 0x2E || b = 0x7E

/-- What follows `scheme://`, if a scheme stands in front.  A scheme of more than 64 octets is an
error, told apart from none at all by the outer layer. -/
def afterScheme (t : Bytes) : Option (Option Bytes) :=
  let name := t.takeWhile isSchemeOctet
  match t.drop name.length with
  | 0x3A :: 0x2F :: 0x2F :: rest => if name.length ≤ 64 then some (some rest) else none
  | _ => some none

/-- The octets of the path that a target names. -/
def pathOctets? (t : Bytes) : Option Bytes :=
  if t.length > longest then none
  else match t with
  | [] => none
  | [0x2A] => some t
  | 0x2F :: _ => originPath? t
  | _ =>
    match afterScheme t with
    | none => none
    | some none =>
      match cutAuthority? t with
      | some (_, []) => some []
      | _ => none
    | some (some rest) =>
      match cutAuthority? rest with
      | some (_ :: _, tail) =>
        (originPath? tail).map fun p => if p = [] then [0x2F] else p
      | _ => none

def path? (t : String) : Option String := (pathOctets? (Bytes.ofText t)).bind Bytes.toText?

end Target
end Gatehouse
