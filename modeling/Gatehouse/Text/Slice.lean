/-
# Slices of a text

A slice is cut out of a text at two places, and both are counted in octets of its UTF-8 form.  A
place may fall inside a character; there is no such slice, and `BrokenCharacter` says where the cut
would have gone through.  `cut_self` says that the whole of a text is a slice of it.
-/
import Gatehouse.Text.Quoted

namespace Gatehouse
namespace Text

/-- Which end of a slice a place is. -/
inductive Edge
  | start
  | stop
deriving DecidableEq, Repr

/-- A cut through a character. -/
structure BrokenCharacter where
  edge : Edge
  /-- The octet at which the slice would start or stop. -/
  place : Nat
  char : Char
  /-- The octet at which the character starts. -/
  first : Nat
deriving DecidableEq, Repr

def BrokenCharacter.message (b : BrokenCharacter) : String :=
  let edge := match b.edge with
    | .start => "start"
    | .stop => "end"
  s!"{edge} byte index {b.place} is not a char boundary; it is inside '{quoteChar b.char}' " ++
    s!"(bytes {b.first}..{b.first + b.char.utf8Size} of string)"

def octets : List Char → Nat
  | [] => 0
  | c :: cs => c.utf8Size + octets cs

/-- What is left of a text from an octet on, when `seen` octets have gone before.  Nothing is left
behind the end. -/
def dropOctets (edge : Edge) (place seen : Nat) : List Char → Except BrokenCharacter (List Char)
  | [] => .ok []
  | c :: cs =>
    if place ≤ seen then .ok (c :: cs)
    else if place < seen + c.utf8Size then .error ⟨edge, place, c, seen⟩
    else dropOctets edge place (seen + c.utf8Size) cs

/-- The slice of a text from one octet up to another.  Of two cuts through characters the first
one is told. -/
def cut (cs : List Char) (start stop : Nat) : Except BrokenCharacter (List Char) := do
  let slice ← dropOctets .start start 0 cs
  let rest ← dropOctets .stop stop start slice
  .ok (slice.take (slice.length - rest.length))

theorem dropOctets_all (edge : Edge) (cs : List Char) (seen : Nat) :
    dropOctets edge (seen + octets cs) seen cs = .ok [] := by
  induction cs generalizing seen with
  | nil => rfl
  | cons c cs ih =>
    have hpos := c.utf8Size_pos
    have hrest : seen + octets (c :: cs) = seen + c.utf8Size + octets cs := by
      simp [octets, Nat.add_assoc]
    rw [hrest, dropOctets, if_neg (by omega), if_neg (by omega), ih]

theorem dropOctets_zero (edge : Edge) (cs : List Char) (seen : Nat) :
    dropOctets edge seen seen cs = .ok cs := by
  cases cs <;> simp [dropOctets]

theorem cut_self (cs : List Char) : cut cs 0 (octets cs) = .ok cs := by
  have h := dropOctets_all .stop cs 0
  rw [Nat.zero_add] at h
  simp [cut, dropOctets_zero, h, bind, Except.bind]

end Text
end Gatehouse
