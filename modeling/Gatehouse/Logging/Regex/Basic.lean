/-
# Expressions

A field in a log filter may be compared with a regular expression.  The log only has to know which
expressions it can match values with, so an expression is kept here as far as that depends on it:
its shape, and for each character how it is spelled.  Braces cannot count repetitions, since a
closing brace ends the field.

An expression is read in one of several modes.  In Unicode mode it is about characters, otherwise
about octets, and then all that it matches must still be UTF-8.  There are no tables of letters,
digits or cases of scripts: what would need one is unsound.

* `ClassSet.isSound`, `Regex.inspect`: what is sound in a mode;
* `Regex.depth`: how deep it is nested, which is limited;
* `Regex.check`: all of it.
-/

namespace Gatehouse

/-! ## 1. Flags and modes -/

namespace Regex

/-- A flag, by its letter, and whether it is switched on. -/
abbrev FlagChange := Char × Bool

def flagLetters : List Char := ['i', 'm', 's', 'U', 'u', 'R', 'x']

/-- How an expression is read, as far as its soundness depends on it. -/
structure Mode where
  ignoreCase : Bool
  unicode : Bool
deriving DecidableEq, Repr

def Mode.initial : Mode := ⟨false, true⟩

/-- The mode after some flags have been changed. -/
def Mode.after (m : Mode) (changes : List FlagChange) : Mode :=
  ⟨(changes.lookup 'i').getD m.ignoreCase, (changes.lookup 'u').getD m.unicode⟩

/-- A character as an expression spells it. -/
structure Literal where
  char : Char
  /-- Spelled with two hexadecimal digits, which outside Unicode mode stand for one octet. -/
  twoDigits : Bool
deriving DecidableEq, Repr

/-- A character of one octet. -/
def Literal.isAscii (l : Literal) : Bool := l.char.toNat ≤ 0x7F

end Regex

/-! ## 2. Sets between brackets -/

/-- What stands between brackets. -/
inductive ClassSet
  | literal (l : Regex.Literal)
  | range (low high : Regex.Literal)
  /-- A class with a name, such as `[:alpha:]`. -/
  | named (negated : Bool)
  /-- Digits, blanks or the characters of words, by a backslash and a letter. -/
  | shorthand (negated : Bool)
  | bracketed (negated : Bool) (inner : ClassSet)
  /-- Any number of sets side by side, except one. -/
  | union (parts : List ClassSet)
  /-- Two sets with a doubled sign between them. -/
  | combined (left right : ClassSet)

namespace ClassSet

/-- The set of some parts, given last first. -/
def ofReversed : List ClassSet → ClassSet
  | [part] => part
  | parts => .union parts.reverse

mutual

/-- How deep a set is nested.  A single member is not. -/
def depth : ClassSet → Nat
  | .literal _ | .range .. | .named _ | .shorthand _ | .union [] => 0
  | .bracketed _ inner => inner.depth + 1
  | .union (part :: parts) => deepest part.depth parts + 1
  | .combined left right => max left.depth right.depth + 1

/-- The greatest of a number and the depths of some sets. -/
def deepest (n : Nat) : List ClassSet → Nat
  | [] => n
  | part :: parts => deepest (max n part.depth) parts

end

mutual

/-- Whether a set is sound.  In Unicode mode letters cannot be told from their other case and
shorthands are unknown; otherwise nothing may hold an octet that is no character, as the
complement of a set always does. -/
def isSound (m : Regex.Mode) : ClassSet → Bool
  | .literal l => if m.unicode then !m.ignoreCase else l.isAscii
  | .range low high => if m.unicode then !m.ignoreCase else low.isAscii && high.isAscii
  | .named negated => if m.unicode then !m.ignoreCase else !negated
  | .shorthand negated => !m.unicode && !negated
  | .bracketed negated inner => (m.unicode || !negated) && inner.isSound m
  | .union parts => areSound m parts
  | .combined left right => left.isSound m && right.isSound m

def areSound (m : Regex.Mode) : List ClassSet → Bool
  | [] => true
  | part :: parts => part.isSound m && areSound m parts

end

end ClassSet

/-! ## 3. Expressions -/

/-- An expression. -/
inductive Regex
  | literal (l : Regex.Literal)
  /-- The dot. -/
  | any
  /-- The start or the end of a line or of all. -/
  | anchor
  /-- An edge of a word, or a place that is none. -/
  | wordEdge
  /-- Digits, blanks or the characters of words, by a backslash and a letter. -/
  | shorthand (negated : Bool)
  | bracketed (negated : Bool) (set : ClassSet)
  /-- Flags for the rest of the group. -/
  | flags (changes : List Regex.FlagChange)
  /-- A group, with the flags that hold in it. -/
  | group (changes : List Regex.FlagChange) (inner : Regex)
  /-- What is repeated, and how many signs behind it say so. -/
  | repeated (signs : Nat) (inner : Regex)
  /-- Any number of parts one after the other, except one. -/
  | sequence (parts : List Regex)
  /-- Several branches. -/
  | choice (parts : List Regex)

namespace Regex

/-- The sequence of some parts, given last first. -/
def ofReversed : List Regex → Regex
  | [part] => part
  | parts => .sequence parts.reverse

/-- The choice among some branches, given last first. -/
def ofBranches : List Regex → Regex
  | [part] => part
  | parts => .choice parts.reverse

mutual

/-- How deep an expression is nested.  A single piece is not. -/
def depth : Regex → Nat
  | .literal _ | .any | .anchor | .wordEdge | .shorthand _ | .flags _ => 0
  | .bracketed _ set => set.depth + 1
  | .group _ inner => inner.depth + 1
  | .repeated signs inner => inner.depth + signs
  | .sequence [] | .choice [] => 0
  | .sequence (part :: parts) => deepest part.depth parts + 1
  | .choice (part :: parts) => deepest part.depth parts + 1

/-- The greatest of a number and the depths of some expressions. -/
def deepest (n : Nat) : List Regex → Nat
  | [] => n
  | part :: parts => deepest (max n part.depth) parts

end

mutual

/-- Reads an expression in a mode: the mode that holds behind it and whether it asks for the edges
of words of Unicode, or nothing when it is unsound. -/
def inspect (m : Mode) : Regex → Option (Mode × Bool)
  | .literal l =>
    if (if m.unicode then m.ignoreCase else l.twoDigits && !l.isAscii) then none
    else some (m, false)
  | .any => if m.unicode then some (m, false) else none
  | .anchor => some (m, false)
  | .wordEdge => some (m, m.unicode)
  | .shorthand negated => if m.unicode || negated then none else some (m, false)
  | .bracketed negated set =>
    if (m.unicode || !negated) && set.isSound m then some (m, false) else none
  | .flags changes => some (m.after changes, false)
  | .group changes inner =>
    match inner.inspect (m.after changes) with
    | none => none
    | some (_, edges) => some (m, edges)
  | .repeated _ inner => inner.inspect m
  | .sequence parts => inspectAll m false parts
  | .choice parts => inspectAll m false parts

/-- Reads expressions one after the other, given whether edges of words were asked for before.
A flag that one branch of a choice sets holds in the next one. -/
def inspectAll (m : Mode) (edges : Bool) : List Regex → Option (Mode × Bool)
  | [] => some (m, edges)
  | part :: parts =>
    match part.inspect m with
    | none => none
    | some (m', found) => inspectAll m' (edges || found) parts

end

/-! ## 4. What can be matched -/

/-- Why no value can be matched with a text. -/
inductive Fault
  /-- It is no expression, or an unsound one. -/
  | unsound
  /-- It asks for edges of words of Unicode. -/
  | wordEdges
deriving DecidableEq, Repr

def Fault.message : Fault → String
  | unsound => "error building NFA"
  | wordEdges =>
    "unsupported regex feature for DFAs: cannot build DFAs for regexes with Unicode word " ++
      "boundaries; switch to ASCII word boundaries, or heuristically enable Unicode word " ++
      "boundaries or use a different regex engine"

def depthLimit : Nat := 250

/-- Whether values can be matched with an expression. -/
def check (r : Regex) : Except Fault Unit :=
  if depthLimit < r.depth then .error .unsound
  else
    match r.inspect .initial with
    | none => .error .unsound
    | some (_, true) => .error .wordEdges
    | some (_, false) => .ok ()

end Regex
end Gatehouse
