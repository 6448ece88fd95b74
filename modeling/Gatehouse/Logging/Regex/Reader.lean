/-
# Reading expressions

`Regex.read?` reads an expression from its text, one piece at a time, with the groups that are
still open on a stack; `readClass?` does the same for brackets.  The flag `x` says that blanks and
comments between the pieces are left out.  A name may be given to one group only.

Every piece takes at least one character, so as many steps as there are characters suffice.
-/
import Gatehouse.Logging.Regex.Basic
import Gatehouse.Text.Classes

namespace Gatehouse
namespace Regex

/-! ## 1. Blanks and comments -/

/-- The text behind blanks and comments; a comment goes from a hash sign to the end of its
line. -/
def skipBlanks (inComment : Bool) : List Char → List Char
  | [] => []
  | c :: cs =>
    if inComment then skipBlanks (c ≠ '\n') cs
    else if Text.isBlank c then skipBlanks false cs
    else if c = '#' then skipBlanks true cs
    else c :: cs

/-- The text from the next piece on. -/
def gap (blanks : Bool) (cs : List Char) : List Char :=
  if blanks then skipBlanks false cs else cs

/-! ## 2. Single pieces -/

/-- A piece that may stand on its own and behind a backslash. -/
inductive Piece
  | literal (l : Literal)
  | shorthand (negated : Bool)
  | anchor
  | wordEdge

def Piece.toRegex : Piece → Regex
  | literal l => .literal l
  | shorthand negated => .shorthand negated
  | anchor => .anchor
  | wordEdge => .wordEdge

def Piece.toSet? : Piece → Option ClassSet
  | literal l => some (.literal l)
  | shorthand negated => some (.shorthand negated)
  | anchor => none
  | wordEdge => none

/-- The value of a hexadecimal digit. -/
def digitValue? (c : Char) : Option Nat :=
  if c.isDigit then some (c.toNat - 48)
  else if 'a' ≤ c ∧ c ≤ 'f' then some (c.toNat - 87)
  else if 'A' ≤ c ∧ c ≤ 'F' then some (c.toNat - 55)
  else none

/-- A character by the given count of hexadecimal digits. -/
def readDigits? (blanks : Bool) : Nat → Nat → List Char → Option (Char × List Char)
  | 0, value, cs => if value.isValidChar then some (Char.ofNat value, cs) else none
  | _ + 1, _, [] => none
  | count + 1, value, c :: cs =>
    match digitValue? c with
    | some digit => readDigits? blanks count (value * 16 + digit) (gap blanks cs)
    | none => none

/-- How many hexadecimal digits follow a letter. -/
def digitCounts : List (Char × Nat) := [('x', 2), ('u', 4), ('U', 8)]

/-- The control characters that have a letter. -/
def controls : List (Char × Nat) :=
  [('a', 0x7), ('f', 0xC), ('t', 0x9), ('n', 0xA), ('r', 0xD), ('v', 0xB)]

/-- The shorthands, and whether they stand for a complement. -/
def shorthands : List (Char × Bool) :=
  [('d', false), ('s', false), ('w', false), ('D', true), ('S', true), ('W', true)]

/-- A character that stands for itself behind a backslash. -/
def isEscapable (c : Char) : Bool :=
  c.toNat < 0x80 && !c.isAlphanum && c ≠ '<' && c ≠ '>'

/-- What a backslash introduces. -/
def readEscape? (blanks : Bool) : List Char → Option (Piece × List Char)
  | [] => none
  | c :: cs =>
    if isEscapable c then some (.literal ⟨c, false⟩, cs)
    else if ['A', 'z'].contains c then some (.anchor, cs)
    else if ['b', 'B', '<', '>'].contains c then some (.wordEdge, cs)
    else
      match digitCounts.lookup c, controls.lookup c, shorthands.lookup c with
      | some count, _, _ =>
        (readDigits? blanks count 0 (gap blanks cs)).map fun (d, rest) =>
          (.literal ⟨d, c = 'x'⟩, rest)
      | _, some code, _ => some (.literal ⟨Char.ofNat code, false⟩, cs)
      | _, _, some negated => some (.shorthand negated, cs)
      | none, none, none => none

/-! ## 3. Brackets -/

/-- A bracket that is still open: its members, last first, and what stands before the last doubled
sign in it. -/
structure OpenClass where
  negated : Bool
  left? : Option ClassSet
  members : List ClassSet

def OpenClass.add (o : OpenClass) (part : ClassSet) : OpenClass :=
  { o with members := part :: o.members }

def OpenClass.set (o : OpenClass) : ClassSet :=
  match o.left? with
  | none => .ofReversed o.members
  | some left => .combined left (.ofReversed o.members)

/-- The set behind a doubled sign. -/
def OpenClass.combine (o : OpenClass) : OpenClass := { o with left? := some o.set, members := [] }

/-- Hyphens at the start of a set, which stand for themselves, with fuel for the rest. -/
def readHyphens (blanks : Bool) :
    Nat → List ClassSet → List Char → List ClassSet × List Char
  | fuel + 1, found, '-' :: cs =>
    readHyphens blanks fuel (.literal ⟨'-', false⟩ :: found) (gap blanks cs)
  | _, found, cs => (found, cs)

/-- The start of a set, behind its opening bracket.  A closing bracket that comes first stands for
itself. -/
def openClass (blanks : Bool) (cs : List Char) : OpenClass × List Char :=
  let (negated, cs) := match gap blanks cs with
    | '^' :: cs => (true, gap blanks cs)
    | cs => (false, cs)
  let (hyphens, cs) := readHyphens blanks cs.length [] cs
  match hyphens, cs with
  | [], ']' :: cs => (⟨negated, none, [.literal ⟨']', false⟩]⟩, gap blanks cs)
  | _, _ => (⟨negated, none, hyphens⟩, cs)

def classNames : List String :=
  ["alnum", "alpha", "ascii", "blank", "cntrl", "digit", "graph", "lower", "print", "punct",
    "space", "upper", "word", "xdigit"]

/-- The rest of `[:name:]` behind its first bracket, and whether its name is negated. -/
def readNamed? : List Char → Option (Bool × List Char)
  | ':' :: cs =>
    let (negated, cs) := match cs with
      | '^' :: cs => (true, cs)
      | _ => (false, cs)
    match cs.dropWhile (· ≠ ':') with
    | ':' :: ']' :: rest =>
      if classNames.contains (String.ofList (cs.takeWhile (· ≠ ':'))) then some (negated, rest)
      else none
    | _ => none
  | _ => none

/-- One member of a set. -/
def readMember? (blanks : Bool) : List Char → Option (Piece × List Char)
  | [] => none
  | '\\' :: cs => readEscape? blanks cs
  | c :: cs => some (.literal ⟨c, false⟩, cs)

/-- What follows a hyphen.  Of a comment only the sign is left out. -/
def behindHyphen (blanks : Bool) (cs : List Char) : Option Char :=
  if blanks then
    match cs.dropWhile Text.isBlank with
    | '#' :: rest => (rest.dropWhile Text.isBlank).head?
    | rest => rest.head?
  else cs.head?

/-- One member of a set, or a range of them.  A hyphen before a closing bracket or a second hyphen
makes no range. -/
def readRange? (blanks : Bool) (cs : List Char) : Option (ClassSet × List Char) := do
  let (low, rest) ← readMember? blanks cs
  match gap blanks rest with
  | '-' :: behind =>
    if behindHyphen blanks behind = some ']' ∨ behindHyphen blanks behind = some '-' then
      low.toSet?.map (·, '-' :: behind)
    else
      let (high, rest) ← readMember? blanks (gap blanks behind)
      match low, high with
      | .literal l, .literal h => if l.char ≤ h.char then some (.range l h, rest) else none
      | _, _ => none
  | rest => low.toSet?.map (·, rest)

/-- The rest of a set, within the sets around it. -/
def readClass? (blanks : Bool) (fuel : Nat) (here : OpenClass) (outer : List OpenClass)
    (cs : List Char) : Option (Regex × List Char) :=
  match fuel with
  | 0 => none
  | left + 1 =>
    match gap blanks cs with
    | [] => none
    | '[' :: rest =>
      match readNamed? rest with
      | some (negated, rest) => readClass? blanks left (here.add (.named negated)) outer rest
      | none =>
        if depthLimit < outer.length then none
        else
          let (inner, rest) := openClass blanks rest
          readClass? blanks left inner (here :: outer) rest
    | ']' :: rest =>
      match outer with
      | [] => some (.bracketed here.negated here.set, rest)
      | next :: outer =>
        readClass? blanks left (next.add (.bracketed here.negated here.set)) outer rest
    | '&' :: '&' :: rest => readClass? blanks left here.combine outer rest
    | '-' :: '-' :: rest => readClass? blanks left here.combine outer rest
    | '~' :: '~' :: rest => readClass? blanks left here.combine outer rest
    | rest =>
      match readRange? blanks rest with
      | none => none
      | some (part, rest) => readClass? blanks left (here.add part) outer rest

/-! ## 4. Groups -/

/-- The flags of a group up to the sign behind them.  Each flag and the minus sign may stand once,
and a flag follows the minus sign. -/
def readFlags? (changes : List FlagChange) (negated dangling : Bool) :
    List Char → Option (List FlagChange × Char × List Char)
  | [] => none
  | c :: cs =>
    if c = ':' ∨ c = ')' then if dangling then none else some (changes.reverse, c, cs)
    else if c = '-' then if negated then none else readFlags? changes true true cs
    else if flagLetters.contains c && (changes.lookup c).isNone then
      readFlags? ((c, !negated) :: changes) negated false cs
    else none

/-- The name of a group, up to its closing bracket. -/
def readName? (cs : List Char) : Option (List Char × List Char) :=
  let name := cs.takeWhile (· ≠ '>')
  match name, cs.dropWhile (· ≠ '>') with
  | first :: others, _ :: rest =>
    if (first = '_' || Text.isAlphabetic first) &&
        others.all (fun c => ['_', '.', '[', ']'].contains c || Text.isAlphanumeric c) then
      some (name, rest)
    else none
  | _, _ => none

/-- What an opening parenthesis starts. -/
inductive Opening
  /-- A group with flags of its own. -/
  | group (changes : List FlagChange)
  /-- A group with a name. -/
  | named (name : List Char)
  /-- Flags for the rest of the group around it. -/
  | flags (changes : List FlagChange)

/-- The start of a group, behind its opening parenthesis. -/
def readOpening? : List Char → Option (Opening × List Char)
  | '?' :: 'P' :: '<' :: cs => (readName? cs).map fun (name, rest) => (.named name, rest)
  | '?' :: '<' :: cs => (readName? cs).map fun (name, rest) => (.named name, rest)
  | '?' :: cs =>
    match readFlags? [] false false cs with
    | none => none
    | some (changes, ':', rest) => some (.group changes, rest)
    | some (changes, _, rest) => if changes = [] then none else some (.flags changes, rest)
  | cs => some (.group [], cs)

/-- A group that is still open: its flags, and what had been read before it. -/
structure OpenGroup where
  changes : List FlagChange
  blanks : Bool
  branches : List Regex
  items : List Regex

/-! ## 5. All of it -/

/-- A text that has been read in part: whether blanks are left out, the names that are taken, the
finished branches and the items of the last one in the innermost group, last first, and the groups
that are still open. -/
structure Progress where
  blanks : Bool
  names : List (List Char)
  branches : List Regex
  items : List Regex
  outer : List OpenGroup

def Progress.initial : Progress := ⟨false, [], [], [], []⟩

/-- What the innermost group holds. -/
def Progress.inner (p : Progress) : Regex := .ofBranches (.ofReversed p.items :: p.branches)

def Progress.add (p : Progress) (item : Regex) : Progress := { p with items := item :: p.items }

def Progress.branch (p : Progress) : Progress :=
  { p with branches := .ofReversed p.items :: p.branches, items := [] }

/-- The last item repeated.  Flags cannot be, and there must be one. -/
def Progress.repeat? (p : Progress) : Option Progress :=
  match p.items with
  | [] => none
  | .flags _ :: _ => none
  | .repeated signs inner :: items => some { p with items := .repeated (signs + 1) inner :: items }
  | item :: items => some { p with items := .repeated 1 item :: items }

/-- A group opened, or flags set. -/
def Progress.open? (p : Progress) : Opening → Option Progress
  | .flags changes =>
    some { p.add (.flags changes) with blanks := (changes.lookup 'x').getD p.blanks }
  | .named name =>
    if p.names.contains name then none
    else some ⟨p.blanks, name :: p.names, [], [], ⟨[], p.blanks, p.branches, p.items⟩ :: p.outer⟩
  | .group changes =>
    some ⟨(changes.lookup 'x').getD p.blanks, p.names, [], [],
      ⟨changes, p.blanks, p.branches, p.items⟩ :: p.outer⟩

def Progress.close? (p : Progress) : Option Progress :=
  match p.outer with
  | [] => none
  | g :: outer =>
    some ⟨g.blanks, p.names, g.branches, .group g.changes p.inner :: g.items, outer⟩

/-- One piece more of a text that does not start with a blank. -/
def Progress.step? (p : Progress) : List Char → Option (Progress × List Char)
  | [] => none
  | c :: cs =>
    match c with
    | '(' =>
      match readOpening? (gap p.blanks cs) with
      | none => none
      | some (opening, rest) =>
        if depthLimit < p.outer.length then none else (p.open? opening).map (·, rest)
    | ')' => p.close?.map (·, cs)
    | '|' => some (p.branch, cs)
    | '[' =>
      let (here, rest) := openClass p.blanks cs
      (readClass? p.blanks cs.length here [] rest).map fun (item, rest) => (p.add item, rest)
    | '?' | '*' | '+' =>
      p.repeat?.map fun q =>
        match cs with
        | '?' :: rest => (q, rest)
        | _ => (q, cs)
    | '\x7b' => none
    | '.' => some (p.add .any, cs)
    | '^' | '$' => some (p.add .anchor, cs)
    | '\\' =>
      (readEscape? p.blanks cs).map fun (piece, rest) => (p.add piece.toRegex, rest)
    | _ => some (p.add (.literal ⟨c, false⟩), cs)

def Progress.read? (p : Progress) (fuel : Nat) (cs : List Char) : Option Regex :=
  match gap p.blanks cs with
  | [] => if p.outer.isEmpty then some p.inner else none
  | rest =>
    match fuel with
    | 0 => none
    | left + 1 =>
      match p.step? rest with
      | none => none
      | some (next, rest) => next.read? left rest

def read? (cs : List Char) : Option Regex := Progress.initial.read? cs.length cs

/-- Whether values can be matched with a text. -/
def checkText (cs : List Char) : Except Fault Unit :=
  match read? cs with
  | none => .error .unsound
  | some r => r.check

end Regex
end Gatehouse
