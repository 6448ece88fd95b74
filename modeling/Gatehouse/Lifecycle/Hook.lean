/-
# Hooks

A hook is something that a service runs when it starts or when it stops.  On-run hooks run one
after the other and the first failure ends the start; on-shutdown hooks all run at once, and what
fails is collected.
-/
import Gatehouse.Fault
import Gatehouse.Context.Handler
import Gatehouse.Lifecycle.Timeline

namespace Gatehouse

/-! ## 1. Hooks -/

/-- How a hook ends. -/
inductive HookEnd
  | passed
  | failed (f : HookFault)
  | panicked (p : Panic)
deriving DecidableEq, Repr

/-- What a hook does. -/
inductive HookBody
  /-- Waits, then ends. -/
  | call (latency : Latency) (ending : HookEnd)
  /-- Leaves the registration of the instance to a task of its own and passes at once. -/
  | announce
deriving DecidableEq, Repr

/-- Something that a service runs when it starts or when it stops. -/
structure Hook where
  name : String
  body : HookBody
deriving DecidableEq, Repr

namespace Hook

/-- How long a hook waits. -/
def latency (h : Hook) : Latency :=
  match h.body with
  | .call latency _ => latency
  | .announce => some ⟨0⟩

/-- How a hook ends once it has waited. -/
def ending (h : Hook) : HookEnd :=
  match h.body with
  | .call _ ending => ending
  | .announce => .passed

/-- The hook that has the instance registered. -/
def registry : Hook := ⟨"registry", .announce⟩

end Hook

/-- The hooks of a service, each kind in the order of registration. -/
structure Hooks where
  onRun : List Hook
  onShutdown : List Hook
deriving DecidableEq, Repr

namespace Hooks

def empty : Hooks := ⟨[], []⟩

def addRun (hs : Hooks) (h : Hook) : Hooks := { hs with onRun := hs.onRun ++ [h] }

def addShutdown (hs : Hooks) (h : Hook) : Hooks := { hs with onShutdown := hs.onShutdown ++ [h] }

def diagnostic (hs : Hooks) : String :=
  Text.record "Hooks" [
    ("run_hooks", toString hs.onRun.length),
    ("shutdown_hooks", toString hs.onShutdown.length)]

end Hooks

/-! ## 2. Notes -/

/-- What is seen of a hook from outside. -/
inductive HookNote
  | started (h : Hook)
  /-- It has waited, and ends as it does. -/
  | ended (h : Hook)
deriving DecidableEq, Repr

end Gatehouse
