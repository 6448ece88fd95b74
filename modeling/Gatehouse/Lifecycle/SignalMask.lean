/-
# The mask of ignored signals

A process can read which signals it ignores in its status document: lines of the form
`Name: value`, one of them `SigIgn:` with a mask of 64 bits in hexadecimal, the lowest bit for
signal 1.  Only the first such line counts.
-/
import Gatehouse.Text.Classes

namespace Gatehouse
namespace SignalMask

/-- What stands in front of the mask. -/
def key : List Char := "SigIgn:".toList

/-- The parts of a document between its line feeds.  A carriage return in front of a line feed
stays, and is trimmed with the other blanks around a mask. -/
def lines : List Char → List (List Char)
  | [] => [[]]
  | c :: cs =>
    if c = '\n' then [] :: lines cs
    else
      match lines cs with
      | [] => [[c]]
      | l :: ls => (c :: l) :: ls

/-- What follows `front` in a line that starts with it. -/
def after? (front line : List Char) : Option (List Char) :=
  if front.isPrefixOf line then some (line.drop front.length) else none

def digit? (c : Char) : Option Nat :=
  if '0' ≤ c && c ≤ '9' then some (c.toNat - 48)
  else if 'a' ≤ c && c ≤ 'f' then some (c.toNat - 87)
  else if 'A' ≤ c && c ≤ 'F' then some (c.toNat - 55)
  else none

/-- The number that hexadecimal digits spell. -/
def value? (digits : List Char) : Option Nat :=
  digits.foldlM (fun n c => (digit? c).map (n * 16 + ·)) 0

/-- One plus sign may stand in front. -/
def unsigned : List Char → List Char
  | '+' :: digits => digits
  | digits => digits

/-- The mask that a text spells: one or more digits, and a number of at most 64 bits. -/
def mask? (cs : List Char) : Option Nat :=
  let digits := unsigned cs
  if digits = [] then none
  else
    match value? digits with
    | some n => if n < Nat.pow 2 64 then some n else none
    | none => none

def ofDocument? (document : List Char) : Option Nat :=
  ((lines document).findSome? (after? key)).bind fun rest => mask? (Text.trim rest)

/-- Whether a mask has the bit of a signal. -/
def ignores (mask signal : Nat) : Bool := 0 < signal && mask.testBit (signal - 1)

end SignalMask
end Gatehouse
