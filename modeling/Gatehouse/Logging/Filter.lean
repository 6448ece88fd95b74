/-
# Log filters

A filter is a list of directives with commas between them; empty ones are skipped.  A directive is
a level, a target, or `target[span]=level` with parts left out; a span may name a field between
braces and a value for it.  What a filter lets through is not modelled here: `Filter.check` says
which texts are filters, and why the others are not.

A directive is read without the blanks around it, but the octets at which its parts start and stop
are then looked up in the text with the blanks.  Behind blanks in front each part is therefore
found too early by their length, and a cut may go through a character; the reader breaks down on
that.
-/
import Gatehouse.Logging.Regex.Reader
import Gatehouse.Text.Slice

namespace Gatehouse
namespace Filter

/-- Why a text is no filter. -/
inductive Fault
  | directive
  | level
  /-- The value of a field cannot be matched with. -/
  | field (why : Regex.Fault)
deriving DecidableEq, Repr

def Fault.message : Fault → String
  | directive => "invalid filter directive"
  | level =>
    "error parsing level filter: expected one of \"off\", \"error\", \"warn\", \"info\", " ++
      "\"debug\", \"trace\", or a number 0-5"
  | field why => s!"invalid field filter: {why.message}"

/-- Why reading a filter stops early. -/
inductive Stop
  | fault (f : Fault)
  /-- The reader breaks down. -/
  | broken (b : Text.BrokenCharacter)
deriving DecidableEq, Repr

/-! ## 1. Levels -/

def levelNames : List String := ["off", "error", "warn", "info", "debug", "trace"]

/-- A number from 0 to 5, a plus sign in front or not. -/
def isLevelNumber (cs : List Char) : Bool :=
  let digits := match cs with
    | '+' :: rest => rest
    | _ => cs
  digits ≠ [] && digits.all Char.isDigit &&
    digits.foldl (fun n c => n * 10 + (c.toNat - 48)) 0 ≤ 5

/-- What may stand for a level: nothing, a name in any case, or a number. -/
def isLevel (cs : List Char) : Bool :=
  cs = [] || levelNames.contains (String.ofList (cs.map Char.toLower)) || isLevelNumber cs

/-! ## 2. Fields -/

/-- The names of the values that are no numbers of digits. -/
def valueNames : List String := ["inf", "infinity", "nan"]

def isExponent (cs : List Char) : Bool :=
  match cs with
  | [] => true
  | e :: rest =>
    let digits := match rest with
      | '+' :: digits => digits
      | '-' :: digits => digits
      | _ => rest
    (e = 'e' || e = 'E') && digits ≠ [] && digits.all Char.isDigit

/-- Digits with at most one point among them and an exponent behind them. -/
def isDecimal (cs : List Char) : Bool :=
  let whole := cs.takeWhile Char.isDigit
  let rest := cs.dropWhile Char.isDigit
  match rest with
  | '.' :: behind =>
    (whole ≠ [] || (behind.takeWhile Char.isDigit) ≠ []) &&
      isExponent (behind.dropWhile Char.isDigit)
  | _ => whole ≠ [] && isExponent rest

def isNumber (cs : List Char) : Bool :=
  let unsigned := match cs with
    | '+' :: rest => rest
    | '-' :: rest => rest
    | _ => cs
  isDecimal unsigned || valueNames.contains (String.ofList (unsigned.map Char.toLower))

/-- The value that a field is compared with: what stands between its first equals sign and the
second one. -/
def fieldValue? (cs : List Char) : Option (List Char) :=
  match cs.dropWhile (· ≠ '=') with
  | [] => none
  | _ :: rest => some (rest.takeWhile (· ≠ '='))

/-- Whether a field can be looked for.  It is not empty, and a value that is no number is an
expression. -/
def checkField (cs : List Char) : Except Fault Unit :=
  if cs = [] then .error .directive
  else
    match fieldValue? cs with
    | none => .ok ()
    | some value =>
      if isNumber value then .ok ()
      else
        match Regex.checkText value with
        | .ok () => .ok ()
        | .error why => .error (.field why)

/-! ## 3. Directives -/

/-- How far a directive has been read, with the octet at which the part starts that is being
read. -/
inductive Progress
  | start
  /-- In a level or a target; either is accepted as it stands. -/
  | word
  /-- Between brackets. -/
  | span (first : Nat)
  /-- Between braces. -/
  | field (first : Nat)
  /-- Behind the closing brace. -/
  | fields
  /-- Behind the closing bracket. -/
  | target
  /-- Behind the equals sign. -/
  | level (first : Nat)
deriving DecidableEq, Repr

/-- A character that a level or a target may start with. -/
def startsWord (c : Char) : Bool := ['-', ':', '_'].contains c || Text.isAlphanumeric c

def part (text : List Char) (start stop : Nat) : Except Stop (List Char) :=
  (Text.cut text start stop).mapError .broken

/-- One character more of a directive, which stands at an octet of it. -/
def Progress.push (text : List Char) (p : Progress) (place : Nat) (c : Char) :
    Except Stop Progress :=
  match p with
  | start =>
    if c = '[' then .ok (span (place + 1))
    else if startsWord c then .ok word
    else .error (.fault .directive)
  | word =>
    if c = '=' then do
      let _ ← part text 0 place
      .ok (level (place + 1))
    else if c = '[' then do
      let _ ← part text 0 place
      .ok (span (place + 1))
    else .ok word
  | span first =>
    if c = ']' then do
      let _ ← part text first place
      .ok target
    else if c.toNat = 0x7B then do
      let _ ← part text first place
      .ok (field (place + 1))
    else .ok (span first)
  | field first =>
    if c.toNat = 0x7D then do
      (checkField (← part text first place)).mapError .fault
      .ok fields
    else .ok (field first)
  | fields => if c = ']' then .ok target else .error (.fault .directive)
  | target => if c = '=' then .ok (level (place + 1)) else .error (.fault .directive)
  | level first => .ok (level first)

def Progress.close (text : List Char) : Progress → Except Stop Unit
  | word => .ok ()
  | target => .ok ()
  | level first => do
    let named ← (Text.dropOctets .start first 0 text).mapError .broken
    if isLevel named then .ok () else .error (.fault .level)
  | _ => .error (.fault .directive)

/-- Reads the characters of a directive from the one at `place` on. -/
def Progress.pushAll (text : List Char) (p : Progress) (place : Nat) :
    List Char → Except Stop Progress
  | [] => .ok p
  | c :: cs =>
    match p.push text place c with
    | .error stop => .error stop
    | .ok next => next.pushAll text (place + c.utf8Size) cs

/-- Whether a text is a directive. -/
def checkDirective (text : List Char) : Except Stop Unit := do
  (← Progress.start.pushAll text 0 (Text.trim text)).close text

/-! ## 4. Filters -/

/-- A character put in front of the parts of a text. -/
def putFront (c : Char) (parts : List (List Char)) : List (List Char) :=
  if c = ',' then [] :: parts
  else
    match parts with
    | [] => [[c]]
    | w :: ws => (c :: w) :: ws

def parts (cs : List Char) : List (List Char) := cs.foldr putFront [[]]

/-- Whether a text is a filter, or what stops the reader in its first unsound directive. -/
def check (s : String) : Except Stop Unit :=
  ((parts s.toList).filter (· ≠ [])).forM checkDirective

end Filter
end Gatehouse
