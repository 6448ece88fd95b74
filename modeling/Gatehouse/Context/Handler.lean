/-
# Handlers

A handler is what a route runs: a list of actions, carried out in order.  One action is special:
`proceed` runs the rest of the chain in the middle of a handler and then comes back to it, which
is what makes a handler a middleware.  `guarded` does the same and keeps a panic from going
further.

A handler has a label, which stands for where it was put in memory.  That is its identity: handlers
are named and recognised by it, those that the library makes itself like all others.  Whoever has a
handler made has no part in choosing it.
-/
import Gatehouse.Http.Message
import Gatehouse.Json

namespace Gatehouse

/-! ## 1. Actions -/

/-- What a panic carries: a text, or something that is none. -/
inductive Panic
  | text (s : String)
  | other
deriving DecidableEq, Repr

/-- A folder served over HTTP: where it is, which names stand for a folder's own page, and whether
names that start with a dot are served. -/
structure Mount where
  root : String
  indexNames : List String
  servesHidden : Bool
deriving DecidableEq, Repr

/-- The parameter that carries the file asked for below a mount. -/
def Mount.parameterName : String := "filepath"

/-- A change to the answer being built. -/
inductive Edit
  | status (code : Nat)
  /-- Sets a field; `name` is a name as fields have it. -/
  | header (name value : String)
  | data (code : Nat) (mediaType : String) (body : Bytes)
  | text (code : Nat) (body : String)
  | json (code : Nat) (value : Json)
  /-- A value that has no JSON form. -/
  | unwritable
  /-- Answers with the value of a parameter, or with nothing. -/
  | param (code : Nat) (name : String)
  | echo
  | file (location : String)
  | mount (m : Mount)

/-- Something to write into the log. -/
inductive Probe
  | value (v : Json)
  | state
  | body
  | requestHeaders
  | param (name : String)
  | diagnostic
  | requestId

/-- One step of a handler. -/
inductive Action
  /-- Runs the rest of the chain. -/
  | proceed
  /-- Runs the rest of the chain and answers for a panic in it. -/
  | guarded
  /-- Keeps the handlers that have not started from starting, and sets the status if asked. -/
  | abort (code? : Option Nat)
  | edit (e : Edit)
  | note (p : Probe)
  | panic (p : Panic)

/-! ## 2. Handlers -/

/-- A list of actions, under a label. -/
structure Handler where
  label : String
  script : List Action

namespace Handler

/-- The middleware that turns a panic further down the chain into an answer. -/
def recovery (label : String) : Handler := ⟨label, [.guarded]⟩

def file (label location : String) : Handler := ⟨label, [.edit (.file location)]⟩

def mount (label : String) (m : Mount) : Handler := ⟨label, [.edit (.mount m)]⟩

end Handler

/-! ## 3. Chains -/

/-- The handlers of a route, middleware first and endpoint last. -/
abbrev Chain := List Handler

/-- The position of a chain that has been aborted.  Chains that stay below it can never be where
an aborted one is. -/
def Chain.abortIndex : Nat := 63

end Gatehouse
