/-
# Route groups

A group is a base path and the middleware that every route registered through it starts with.  A
subgroup inherits both, and nothing added to its parent later reaches it.

A `Declaration` is what can be registered through a group in one call.  Some register several
routes, one after the other; when one of them is refused, those before it stay.
-/
import Gatehouse.Path.Clean
import Gatehouse.Route.Table

namespace Gatehouse

/-- A base path and the middleware below it. -/
structure Group where
  base : String
  middleware : Chain

/-- What is registered through a group in one call. -/
inductive Declaration
  | route (method : Method) (relative : String) (handlers : Chain)
  /-- A route for a method given by its text. -/
  | named (method relative : String) (handlers : Chain)
  /-- A route for each of the standard methods. -/
  | every (relative : String) (handlers : Chain)
  /-- One file, for reading.  The label is that of the handler which is made for it. -/
  | file (label relative location : String)
  /-- A folder, for reading, by a handler with this label. -/
  | mount (label relative : String) (m : Mount)

/-- Two chains one behind the other, if they stay below the limit together. -/
def Chain.combine (existing additional : Chain) (limit : Nat) : Except RouteFault Chain :=
  let count := existing.length + additional.length
  if limit ≤ count then .error (.tooManyHandlers count limit) else .ok (existing ++ additional)

namespace Group

def root : Group := ⟨"/", []⟩

/-- Adds middleware behind the group's own.  The limit is not looked at before a route or a
subgroup is made. -/
def use (g : Group) (more : Chain) : Group := { g with middleware := g.middleware ++ more }

def sub (g : Group) (limit : Nat) (relative : String) (more : Chain) : Except RouteFault Group := do
  let middleware ← Chain.combine g.middleware more limit
  let base ← Path.under g.base relative
  return { base, middleware }

/-- Registers one route below the group. -/
def register (g : Group) (method : Method) (relative : String) (handlers : Chain) :
    Registration Unit := do
  let path ← ExceptT.mk (pure (Path.under g.base relative))
  let chain ← ExceptT.mk (pure (Chain.combine g.middleware handlers (← get).limit))
  Table.add method path chain

/-- Registers the same handlers for several methods, in order, up to the first refusal. -/
def registerEach (g : Group) (relative : String) (handlers : Chain) :
    List Method → Registration Unit
  | [] => pure ()
  | m :: ms => do
    g.register m relative handlers
    g.registerEach relative handlers ms

/-- The methods of a route that only reads. -/
def readingMethods : List Method := [Method.GET, Method.HEAD]

/-- A path with a colon or a star in it has, or may have, parameters. -/
def mentionsParameters (relative : String) : Bool :=
  relative.toList.any fun c => c = ':' || c = '*'

/-- The pattern of a folder mounted at `relative`. -/
def mountPattern (relative : String) : String := Path.join relative ("/*" ++ Mount.parameterName)

def declare (g : Group) : Declaration → Registration Unit
  | .route method relative handlers => g.register method relative handlers
  | .named text relative handlers =>
    match Method.ofName? text with
    | some method => g.register method relative handlers
    | none => throw (.invalidMethod text)
  | .every relative handlers => g.registerEach relative handlers Method.every
  | .file label relative location =>
    if mentionsParameters relative then throw (.fileOnParameters relative)
    else g.registerEach relative [Handler.file label location] readingMethods
  | .mount label relative m =>
    if mentionsParameters relative then throw (.folderOnParameters relative)
    -- The pattern is put together, and so cleaned, before the base of the group comes in front.
    else g.registerEach (mountPattern relative) [Handler.mount label m] readingMethods

/-- Names a handler, then registers what a declaration says.  The name stays when the declaration
is refused. -/
def declareNamed (g : Group) (h : Handler) (name : String) (d : Declaration) :
    Registration Unit := do
  modify fun t => t.setName h name
  g.declare d

def diagnostic (g : Group) : String :=
  Text.openRecord "RouterGroup" [
    ("base_path", Text.quote g.base),
    ("handlers", toString g.middleware.length)]

end Group
end Gatehouse
