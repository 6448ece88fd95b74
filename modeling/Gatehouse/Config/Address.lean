/-
# Socket addresses

Socket addresses are hosts with ports: `127.0.0.1:8888`, `[::1]:80`, `[fe80::1%5]:80`.

`SocketAddress.ofText?` reads one.  The octets of an IPv4 host have no leading zeros; an IPv6 host
stands in brackets, may leave out one run of zero groups by `::` and may end in an IPv4 host;
ports may have leading zeros.

`SocketAddress.text` writes the canonical form: groups in lower case without leading zeros, and
the longest run of two or more zero groups, the first of equals, as `::`.
-/
import Gatehouse.Text.Quoted

namespace Gatehouse

/-! ## 1. Addresses -/

/-- A host by its number. -/
inductive Host
  | v4 (a b c d : Nat)
  /-- Eight groups of 16 bits. -/
  | v6 (groups : List Nat)
deriving DecidableEq, Repr

/-- A host with one of its ports, and for an IPv6 host the number of the interface, 0 for none. -/
structure SocketAddress where
  host : Host
  portNumber : Nat
  scope : Nat
deriving DecidableEq, Repr

namespace Host

/-! ## 2. Writing -/

/-- Groups with a colon between each two. -/
def groupsText (groups : List Nat) : String := ":".intercalate (groups.map Text.hex)

/-- The start and the length of the longest run of zero groups, the first of equals. -/
def longestZeros (groups : List Nat) : Nat × Nat :=
  let runAt (i : Nat) := ((groups.drop i).takeWhile (· = 0)).length
  (List.range groups.length).foldl
    (fun best i => if best.2 < runAt i then (i, runAt i) else best) (0, 0)

/-- The canonical text of a host.  An IPv4 host inside an IPv6 one keeps its dots. -/
def text : Host → String
  | v4 a b c d => s!"{a}.{b}.{c}.{d}"
  | v6 [0, 0, 0, 0, 0, 0xffff, x, y] =>
    s!"::ffff:{x / 256}.{x % 256}.{y / 256}.{y % 256}"
  | v6 groups =>
    let (start, length) := longestZeros groups
    if 1 < length then
      groupsText (groups.take start) ++ "::" ++ groupsText (groups.drop (start + length))
    else groupsText groups

def isV4 : Host → Bool
  | v4 .. => true
  | v6 _ => false

end Host

namespace SocketAddress

def text (a : SocketAddress) : String :=
  match a.host with
  | .v4 .. => s!"{a.host.text}:{a.portNumber}"
  | .v6 _ =>
    if a.scope = 0 then s!"[{a.host.text}]:{a.portNumber}"
    else s!"[{a.host.text}%{a.scope}]:{a.portNumber}"

/-! ## 3. Reading

A reader takes text and gives what it read with the text behind it. -/

/-- The value of a digit, letters of either case from ten on. -/
def digitValue (c : Char) : Nat :=
  if c.isDigit then c.toNat - 48
  else if 'a' ≤ c && c ≤ 'f' then c.toNat - 87
  else c.toNat - 55

/-- A digit of the given base, which is 10 or 16. -/
def isDigitOf (base : Nat) (c : Char) : Bool :=
  c.isDigit || (base = 16 && (('a' ≤ c && c ≤ 'f') || ('A' ≤ c && c ≤ 'F')))

/-- What digits mean in a base. -/
def valueOf (base : Nat) (digits : List Char) : Nat :=
  digits.foldl (fun n c => n * base + digitValue c) 0

/-- A number below `bound`, with at most `most` digits if that is given. -/
def number? (base bound : Nat) (most : Option Nat) (cs : List Char) : Option (Nat × List Char) :=
  let digits := cs.takeWhile (isDigitOf base)
  let fits := match most with
    | none => true
    | some n => digits.length ≤ n
  if digits ≠ [] && fits && valueOf base digits < bound then
    some (valueOf base digits, cs.drop digits.length)
  else none

/-- One given character. -/
def mark? (c : Char) : List Char → Option (List Char)
  | d :: cs => if c = d then some cs else none
  | [] => none

/-- An octet in decimal without leading zeros. -/
def octet? (cs : List Char) : Option (Nat × List Char) :=
  match number? 10 256 (some 3) cs with
  | some (n, rest) =>
    if cs.head? = some '0' && 1 < cs.length - rest.length then none else some (n, rest)
  | none => none

/-- Four octets with dots between them. -/
def quad? (cs : List Char) : Option ((Nat × Nat × Nat × Nat) × List Char) := do
  let (a, cs) ← octet? cs
  let (b, cs) ← octet? (← mark? '.' cs)
  let (c, cs) ← octet? (← mark? '.' cs)
  let (d, cs) ← octet? (← mark? '.' cs)
  return ((a, b, c, d), cs)

/-- As many groups as there are, at most `room`: the groups, whether the last two were written as
four octets, and the text behind them.  Each group but the first stands behind a colon. -/
def groups : Nat → Bool → List Char → List Nat × Bool × List Char
  | 0, _, cs => ([], false, cs)
  | room + 1, first, cs =>
    match (if first then some cs else mark? ':' cs) with
    | none => ([], false, cs)
    | some start =>
      match (if 1 ≤ room then quad? start else none) with
      | some ((a, b, c, d), rest) => ([a * 256 + b, c * 256 + d], true, rest)
      | none =>
        match number? 16 65536 (some 4) start with
        | none => ([], false, cs)
        | some (g, rest) =>
          let (gs, dotted, rest) := groups room false rest
          (g :: gs, dotted, rest)

/-- An IPv6 host.  Four octets may end the groups, but not in front of `::`, and `::` stands for
at least one group. -/
def hostV6? (cs : List Char) : Option (Host × List Char) :=
  let (front, dotted, cs) := groups 8 true cs
  if front.length = 8 then some (.v6 front, cs)
  else if dotted then none
  else do
    let cs ← mark? ':' cs
    let cs ← mark? ':' cs
    let (back, _, cs) := groups (7 - front.length) true cs
    let zeros := List.replicate (8 - front.length - back.length) 0
    return (.v6 (front ++ zeros ++ back), cs)

/-- A colon and one of the ports from 0 to 65535. -/
def portNumber? (cs : List Char) : Option (Nat × List Char) := do
  number? 10 65536 none (← mark? ':' cs)

/-- The number of an interface, if a percent sign starts one. -/
def scope? (cs : List Char) : Option (Nat × List Char) :=
  match mark? '%' cs with
  | some rest => number? 10 4294967296 none rest
  | none => some (0, cs)

def ofV4? (cs : List Char) : Option (SocketAddress × List Char) := do
  let ((a, b, c, d), cs) ← quad? cs
  let (portNumber, cs) ← portNumber? cs
  return (⟨.v4 a b c d, portNumber, 0⟩, cs)

def ofV6? (cs : List Char) : Option (SocketAddress × List Char) := do
  let (host, cs) ← hostV6? (← mark? '[' cs)
  let (scope, cs) ← scope? cs
  let (portNumber, cs) ← portNumber? (← mark? ']' cs)
  return (⟨host, portNumber, scope⟩, cs)

/-- The address that a text spells, with nothing behind it. -/
def ofText? (s : String) : Option SocketAddress :=
  match ofV4? s.toList with
  | some (a, []) => some a
  | _ =>
    match ofV6? s.toList with
    | some (a, []) => some a
    | _ => none

/-- What is said of a text that spells no address. -/
def syntaxReason : String := "invalid socket address syntax"

example : (ofText? "[2001:db8:0:0:8:800:200C:417A]:0443").map text =
    some "[2001:db8::8:800:200c:417a]:443" := by decide +kernel
example : (ofText? "[::ffff:1.2.3.4]:1").map text = some "[::ffff:1.2.3.4]:1" := by decide +kernel
example : ofText? "01.2.3.4:5" = none := by decide +kernel

end SocketAddress
end Gatehouse
