/-
# Route tables

A table holds routes in the order they were registered and answers which route a request meets:
the first of its method whose pattern fits its path.

Handlers may be named beside the table.  Names are for listings alone; a route is found without
looking at them.
-/
import Gatehouse.Context.Handler
import Gatehouse.Fault
import Gatehouse.Route.Pattern

namespace Gatehouse

/-! ## 1. Names of handlers -/

/-- Names by the labels of the handlers that have them. -/
abbrev HandlerNames := List (String × String)

namespace HandlerNames

def get? (names : HandlerNames) (h : Handler) : Option String := names.lookup h.label

/-- The name of a handler, or that it has none. -/
def display (names : HandlerNames) (h : Handler) : String := (names.get? h).getD "<anonymous>"

/-- Gives a handler a name in place of any it had. -/
def set (names : HandlerNames) (h : Handler) (name : String) : HandlerNames :=
  (h.label, name) :: names.filter (·.1 ≠ h.label)

end HandlerNames

/-! ## 2. Routes and tables -/

/-- A registered route. -/
structure Route where
  method : Method
  pattern : String
  chain : Chain

/-- A route that a request meets. -/
structure RouteMatch where
  pattern : String
  params : Params
  chain : Chain

/-- One line of a listing of routes. -/
structure RouteListing where
  method : Method
  pattern : String
  handler : String
  length : Nat
deriving DecidableEq, Repr

/-- Routes in the order they were registered, the names of handlers, and what the length of a
chain must stay below. -/
structure Table where
  routes : List Route
  names : HandlerNames
  limit : Nat

/-- Something done while composing routes: it may change the table, and it keeps what it has
changed when it fails. -/
abbrev Registration := ExceptT RouteFault (StateM Table)

namespace Table

def empty (limit : Nat) : Table := ⟨[], [], limit⟩

/-- The route registered for exactly this method and pattern. -/
def registered? (t : Table) (method : Method) (pattern : String) : Option Route :=
  t.routes.find? fun r => r.method = method && r.pattern = pattern

/-- The parameters with which a path fits a route. -/
def fit? (r : Route) (path : String) : Option Params :=
  Segment.fit? (Segment.ofPattern r.pattern) (Path.names path)

/-- The first route of a method that a path fits. -/
def lookup (t : Table) (method : Method) (path : String) : Option RouteMatch :=
  (t.routes.filter (·.method = method)).findSome? fun r =>
    (fit? r path).map fun params => ⟨r.pattern, params, r.chain⟩

/-- Why a route is not taken in: its path is not rooted, its chain is empty, or its method and
path are taken, in this order.  The length of the chain is not looked at here. -/
def refusal? (t : Table) (method : Method) (path : String) (chain : Chain) : Option RouteFault :=
  if !Path.isRooted path then some (.notAbsolute path)
  else if chain.isEmpty then some (.noHandlers method.token path)
  else if (t.registered? method path).isSome then some (.duplicate method.token path)
  else none

/-- Adds a route behind the others. -/
def add (method : Method) (path : String) (chain : Chain) : Registration Unit := do
  match (← get).refusal? method path chain with
  | some fault => throw fault
  | none => modify fun t => { t with routes := t.routes ++ [⟨method, path, chain⟩] }

def setName (t : Table) (h : Handler) (name : String) : Table :=
  { t with names := t.names.set h name }

/-- The routes with the names of their last handlers. -/
def listing (t : Table) : List RouteListing :=
  t.routes.map fun r =>
    ⟨r.method, r.pattern, (r.chain.getLast?.map t.names.display).getD "", r.chain.length⟩

def diagnostic (t : Table) : String :=
  Text.openRecord "RouteTable" [
    ("routes", toString t.routes.length),
    ("max_handlers", toString t.limit)]

end Table

def RouteMatch.diagnostic (m : RouteMatch) : String :=
  let params := m.params.map fun p => "(" ++ Text.quote p.1 ++ ", " ++ Text.quote p.2 ++ ")"
  Text.record "RouteMatch" [
    ("pattern", Text.quote m.pattern),
    ("params", "[" ++ ", ".intercalate params ++ "]"),
    ("handlers", toString m.chain.length)]

end Gatehouse
