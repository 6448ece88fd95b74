/-
# Contexts

A context is one request under way: the request, the route that it met, the chain to run with the
position reached in it, and the answer built so far.

A file's answer says when the file was last changed.  Where no date can be written for that moment
the answer is not written at all, and the handler panics.

`Context.finish` closes a context.  An answer to a `HEAD` request keeps its header fields and loses
its body.
-/
import Gatehouse.Context.Handler
import Gatehouse.Context.RequestId
import Gatehouse.Disk.Basic
import Gatehouse.Disk.Media
import Gatehouse.Time.Calendar

namespace Gatehouse

/-- One request under way. -/
structure Context where
  id : RequestId
  request : Request
  /-- The pattern of the route that the request met. -/
  pattern : String
  /-- Parameters in the order of the pattern. -/
  params : List (String × String)
  chain : Chain
  /-- The position of the next handler to start. -/
  index : Nat
  response : Response

namespace Context

/-! ## 1. Making one -/

/-- A request that has met no route yet. -/
def fresh (id : RequestId) (request : Request) : Context where
  id := id
  request := request
  pattern := ""
  params := []
  chain := []
  index := 0
  response := ⟨200, [], []⟩

/-- The request meets a route, at the start of its chain. -/
def meet (c : Context) (pattern : String) (params : List (String × String)) (chain : Chain) :
    Context :=
  { c with pattern, params, chain, index := 0 }

/-! ## 2. Reading it -/

/-- The value of the first parameter of that name. -/
def param? (c : Context) (name : String) : Option String := c.params.lookup name

/-- No handler that has not started will start. -/
def isAborted (c : Context) : Bool := Chain.abortIndex ≤ c.index

/-! ## 3. Aborting it -/

/-- Keeps the handlers that have not started from starting. -/
def abort (c : Context) : Context := { c with index := Chain.abortIndex }

/-! ## 4. Building the answer -/

def setStatus (c : Context) (code : Nat) : Context :=
  { c with response := { c.response with status := code } }

/-- Sets a header field.  A value with control characters is ignored, and an older value stays. -/
def setHeader (c : Context) (name value : String) : Context :=
  let octets := Bytes.ofText value
  if Headers.isValue octets then
    { c with response := { c.response with headers := c.response.headers.set name octets } }
  else c

/-- Answers with a body of some type.  Other header fields set before stay. -/
def writeData (c : Context) (code : Nat) (mediaType : String) (body : Bytes) : Context :=
  let typed := (c.setStatus code).setHeader "content-type" mediaType
  { typed with response := { typed.response with body } }

def writeText (c : Context) (code : Nat) (body : String) : Context :=
  c.writeData code "text/plain; charset=utf-8" (Bytes.ofText body)

def writeInternalError (c : Context) : Context := c.writeText 500 "500 internal server error"

def writeNotFound (c : Context) : Context := c.writeText 404 "404 page not found"

def writeJson (c : Context) (code : Nat) (value : Json) : Context :=
  c.writeData code "application/json; charset=utf-8" (Bytes.ofText value.render)

/-- Says when a file was last changed, where that is known. -/
def setModified (c : Context) : Option Int → Except Panic Context
  | none => .ok c
  | some t =>
    match Calendar.httpDate t with
    | .ok date => .ok (c.setHeader "last-modified" date)
    | .error why => .error (.text why.message)

/-- Answers with the file at a location.  What is not a regular file is not there; a file that
cannot be read is an internal error. -/
def writeFile (d : Disk) (c : Context) (location : String) : Except Panic Context :=
  match d.stat? location with
  | some s =>
    if s.kind = .regular then
      match d.read? location with
      | some content =>
        match c.setModified s.modified? with
        | .ok dated =>
          .ok ((dated.setHeader "content-length" (toString s.size)).writeData 200
            (Disk.mediaType location) content)
        | .error p => .error p
      | none => .ok c.writeInternalError
    else .ok c.writeNotFound
  | none => .ok c.writeNotFound

/-! ## 5. Closing it -/

/-- The answer as it is sent. -/
def finish (c : Context) : Response :=
  if c.request.method = Method.HEAD then { c.response with body := [] } else c.response

def diagnostic (c : Context) : String :=
  Text.openRecord "RequestContext" [
    ("request_id", "RequestId(" ++ c.id.text ++ ")"),
    ("method", c.request.method.token),
    ("path", Text.quote c.request.path),
    ("full_path", Text.quote c.pattern),
    ("status", toString c.response.status),
    ("handlers", toString c.chain.length),
    ("index", toString c.index)]

end Context
end Gatehouse
