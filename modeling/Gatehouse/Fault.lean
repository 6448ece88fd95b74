/-
# Faults

What can go wrong, as causes.  A fault carries the data of its case and nothing else; the
sentence a person reads is `message`, and the fault directly underneath, when there is one, is
`cause?`.

Two families: `RouteFault` is met while routes are being composed, `ServiceFault` while a service
starts, runs or stops.  `RegistryFault` and `HookFault` belong to collaborators and travel inside
a `ServiceFault`.
-/
import Gatehouse.Text.Quoted

namespace Gatehouse

/-! ## 1. Composing routes -/

/-- Why a route, a group or a static mount was refused. -/
inductive RouteFault
  /-- The text is not one or more upper-case ASCII letters. -/
  | invalidMethod (text : String)
  /-- A chain of `count` handlers does not stay below `limit`. -/
  | tooManyHandlers (count limit : Nat)
  /-- A single file cannot be served on a path with parameters. -/
  | fileOnParameters (path : String)
  /-- A folder cannot be mounted on a path with parameters. -/
  | folderOnParameters (path : String)
  /-- A path without characters has no last character. -/
  | emptyPath
  | notAbsolute (path : String)
  | noHandlers (method path : String)
  | duplicate (method path : String)
deriving DecidableEq, Repr

def RouteFault.message : RouteFault → String
  | invalidMethod text => s!"http method {text} is not valid"
  | tooManyHandlers count limit =>
    s!"too many handlers: {count} handlers reach the limit of {limit}"
  | fileOnParameters path =>
    s!"URL parameters can not be used when serving a static file: {path}"
  | folderOnParameters path =>
    s!"URL parameters can not be used when serving a static folder: {path}"
  | emptyPath => "the length of the path can't be 0"
  | notAbsolute path => s!"path must begin with '/': {path}"
  | noHandlers method path => s!"there must be at least one handler for {method} {path}"
  | duplicate method path => s!"handlers are already registered for {method} {path}"

/-! ## 2. Collaborators -/

/-- A refusal of the operating system: its number, its kind and its sentence. -/
structure OsFault where
  code : Nat
  kind : String
  text : String
deriving DecidableEq, Repr

namespace OsFault

/-- The sentence followed by the number. -/
def message (f : OsFault) : String := s!"{f.text} (os error {f.code})"

def diagnostic (f : OsFault) : String :=
  Text.record "Os" [
    ("code", toString f.code),
    ("kind", f.kind),
    ("message", Text.quote f.text)]

/-- Another socket holds the address. -/
def addressInUse : OsFault := ⟨98, "AddrInUse", "Address already in use"⟩

/-- No interface of this machine has the address. -/
def addressNotAvailable : OsFault :=
  ⟨99, "AddrNotAvailable", "Cannot assign requested address"⟩

/-- No interface leads to the address. -/
def networkUnreachable : OsFault := ⟨101, "NetworkUnreachable", "Network is unreachable"⟩

end OsFault

/-- Why the service registry did not do as asked. -/
inductive RegistryFault
  | unavailable (reason : String)
  | rejected (reason : String)
deriving DecidableEq, Repr

def RegistryFault.message : RegistryFault → String
  | unavailable reason => s!"registry unavailable: {reason}"
  | rejected reason => s!"registration rejected: {reason}"

/-- How a lifecycle hook failed. -/
inductive HookFault
  /-- An on-run hook failed; `text` is the sentence of its own fault. -/
  | run (hook text : String)
  /-- A hook's own failure, with the sentence of what lies underneath when it gave one. -/
  | failed (text : String) (beneath : Option String)
deriving DecidableEq, Repr

namespace HookFault

def message : HookFault → String
  | run hook text => s!"on-run hook '{hook}' failed: {text}"
  | failed text _ => s!"lifecycle hook error: {text}"

/-- The sentence of the fault directly underneath. -/
def cause? : HookFault → Option String
  | run _ _ => none
  | failed _ beneath => beneath

end HookFault

/-! ## 3. Starting, running and stopping a service -/

/-- What ends a run, a shutdown or a close with a failure. -/
inductive ServiceFault
  | invalidAddress (address reason : String)
  /-- The listener could not be bound; `beneath` is the sentence of the system's refusal. -/
  | bind (address beneath : String)
  /-- Any other refusal of the system, by its sentence. -/
  | system (text : String)
  | registry (fault : RegistryFault)
  /-- A signal that ends the process was received. -/
  | signal (name : String)
  | shutdownTimeout
  | alreadyRunning
  | notRunning
  | hook (fault : HookFault)
  | transport (reason : String)
deriving DecidableEq, Repr

namespace ServiceFault

/-- The sentence for a failed run, shutdown or close.  A hook's fault speaks for itself. -/
def message : ServiceFault → String
  | invalidAddress address reason => s!"invalid listen address '{address}': {reason}"
  | bind address beneath => s!"failed to bind to {address}: {beneath}"
  | system text => s!"I/O error: {text}"
  | registry fault => s!"registry error: {fault.message}"
  | signal name => s!"received signal {name}"
  | shutdownTimeout => "graceful shutdown did not finish before the deadline"
  | alreadyRunning => "engine is already running"
  | notRunning => "engine is not running"
  | hook fault => fault.message
  | transport reason => s!"transport error: {reason}"

/-- The sentence of the fault directly underneath.  A hook's fault is passed on whole, so its
own cause is what lies underneath. -/
def cause? : ServiceFault → Option String
  | bind _ beneath => some beneath
  | system text => some text
  | registry fault => some fault.message
  | hook fault => fault.cause?
  | _ => none

/-- Running out of time is the one fault a shutdown forgives. -/
def isTimeout : ServiceFault → Bool
  | shutdownTimeout => true
  | _ => false

end ServiceFault
end Gatehouse
