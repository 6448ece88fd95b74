/-
# Requests and responses

What a service reads and writes, once the wire is out of the way: a request has a method, a path,
header fields and a body; a response has a status, header fields and a body.
-/
import Gatehouse.Http.Headers
import Gatehouse.Http.Target

namespace Gatehouse

/-- A request, read whole. -/
structure Request where
  method : Method
  path : String
  headers : Headers
  body : Bytes
deriving DecidableEq, Repr

structure Response where
  status : Nat
  headers : Headers
  body : Bytes
deriving DecidableEq, Repr

/-- The fields that names and values spell, if each is sound. -/
def Headers.ofFields? : List (String × Bytes) → Option Headers
  | [] => some []
  | (n, v) :: rest => do
    let name ← Headers.name? n
    guard (Headers.isValue v)
    return (name, v) :: (← ofFields? rest)

/-- The request that its written parts make, if every one is sound. -/
def Request.ofParts? (method target : String) (fields : List (String × Bytes)) (body : Bytes) :
    Option Request := do
  let method ← Method.ofToken? method
  let path ← Target.path? target
  let headers ← Headers.ofFields? fields
  return { method, path, headers, body }

end Gatehouse
