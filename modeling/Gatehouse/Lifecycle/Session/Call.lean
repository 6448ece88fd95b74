/-
# Calls under way

An engine is run, shut down and closed by calls that take time.  Each call goes through stages of
its own; what one call does is seen by the others through the engine's status and the transport
alone.

A `RunCall` runs the on-run hooks, looks whether the engine is still to run, and serves.  A
`StopCall` has the instance deregistered, drains the transport and waits for the on-shutdown hooks,
in this order.  A `Registration` waits, registers the instance, and can be cancelled meanwhile.
-/
import Gatehouse.Lifecycle.HookRun
import Gatehouse.Lifecycle.HookTasks
import Gatehouse.Lifecycle.Registry
import Gatehouse.Lifecycle.Transport

namespace Gatehouse

/-! ## 1. Running -/

/-- How far a run has come. -/
inductive RunStage
  | hooks (r : HookRun)
  /-- The hooks have passed and the engine was still to run; serving comes next. -/
  | cleared
  | serving (s : Serving)
  | ended (e : CallEnd)
deriving DecidableEq, Repr

/-- A call to run an engine. -/
structure RunCall where
  stage : RunStage
  /-- The call does nothing before it is started. -/
  started : Bool
  /-- How it ends is still to be reported.  A panic never is. -/
  owesReport : Bool
deriving DecidableEq, Repr

namespace RunCall

/-- How a run has ended, if it has. -/
def result? (c : RunCall) : Option CallEnd :=
  match c.stage with
  | .ended e => some e
  | _ => none

def dues (c : RunCall) : List Instant :=
  match c.stage with
  | .hooks r => r.dues
  | .serving s => s.due.toList
  | _ => []

/-- The steps that a run has left, at most, those of the registrations it leads to included. -/
def work (c : RunCall) : Nat :=
  match c.stage with
  | .hooks r => 4 * r.work + 5
  | .cleared => 4
  | .serving _ => 3
  | .ended _ => 1

end RunCall

/-! ## 2. Stopping -/

/-- How far a shutdown has come. -/
inductive StopStage
  /-- The hooks have been handed to their tasks. -/
  | begun
  | deregistering (due : Due) (finish : Finish)
  /-- Draining comes next. -/
  | deregistered (finish : Finish)
  | draining (drain : Drain) (deregistered : Finish)
  /-- Waits for the hooks until the deadline. -/
  | joining (deregistered drained : Finish)
  | returned (finish : Finish)
  /-- The drain has panicked, and the shutdown with it. -/
  | panicked (p : Panic)
  /-- Nobody waits for it any more, and it does nothing more. -/
  | abandoned
deriving DecidableEq, Repr

/-- A call to shut an engine down. -/
structure StopCall where
  deadline : Instant
  stage : StopStage
deriving DecidableEq, Repr

namespace StopCall

/-- What a drain counts for in a shutdown: running out of time is forgiven. -/
def forgive : Finish → Finish
  | .failed f => if f.isTimeout then .well else .failed f
  | .well => .well

/-- The stage behind a drain. -/
def behindDrain (deregistered : Finish) : CallEnd → StopStage
  | .finished f => .joining deregistered (forgive f)
  | .panicked p => .panicked p

/-- What a shutdown has returned, if it has. -/
def result? (c : StopCall) : Option Finish :=
  match c.stage with
  | .returned f => some f
  | _ => none

/-- How a shutdown has ended, if it has. -/
def ending? (c : StopCall) : Option CallEnd :=
  match c.stage with
  | .returned f => some (.finished f)
  | .panicked p => some (.panicked p)
  | _ => none

def dues (c : StopCall) : List Instant :=
  match c.stage with
  | .deregistering due _ => due.toList
  | .draining d _ => d.due.toList
  | .joining _ _ => [Instant.tick c.deadline]
  | _ => []

def work (c : StopCall) : Nat :=
  match c.stage with
  | .begun => 5
  | .deregistering _ _ => 4
  | .deregistered _ => 3
  | .draining _ _ => 2
  | .joining _ _ => 1
  | _ => 0

end StopCall

/-! ## 3. Closing and draining -/

/-- A call to close an engine, with how it ended once it has. -/
structure CloseCall where
  ending? : Option CallEnd
deriving DecidableEq, Repr

/-- A call to drain a transport without its engine. -/
structure DrainCall where
  drain : Drain
  ending? : Option CallEnd
deriving DecidableEq, Repr

/-! ## 4. Registering -/

/-- How far a registration has come. -/
inductive RegistrationStage
  | spawned
  | delaying (due : Due)
  | registering (due : Due)
  | ended
deriving DecidableEq, Repr

/-- A registration after one turn: its stage, whether the registry was called in it, and whether
the registry has answered. -/
structure RegistrationTurn where
  stage : RegistrationStage
  called : Bool
  answered : Bool
deriving DecidableEq, Repr

namespace RegistrationStage

/-- A registration whose answer comes at a moment. -/
def awaiting (now : Instant) (called : Bool) (due : Due) : RegistrationTurn :=
  if due.reached now then ⟨ended, called, true⟩ else ⟨registering due, called, false⟩

/-- A registration that calls the registry at a moment. -/
def delayed (now : Instant) (reply : RegistryReply) (due : Due) : RegistrationTurn :=
  if due.reached now then awaiting now true (reply.latency.due now)
  else ⟨delaying due, false, false⟩

/-- A registration goes on as far as it can. -/
def advance (now : Instant) (delay : Duration) (reply : RegistryReply) :
    RegistrationStage → RegistrationTurn
  | spawned => delayed now reply (Latency.due (some delay) now)
  | delaying due => delayed now reply due
  | registering due => awaiting now false due
  | ended => ⟨ended, false, false⟩

/-- There is something to do. -/
def isReady (now : Instant) (cancelled : Bool) : RegistrationStage → Bool
  | spawned => true
  | delaying due => cancelled || due.reached now
  | registering due => cancelled || due.reached now
  | ended => false

/-- One turn of a registration.  It looks at the registry and at whether it is cancelled, in either
order; the first that gives an end ends it. -/
def turn (now : Instant) (delay : Duration) (reply : RegistryReply) (cancelled registryFirst : Bool)
    (s : RegistrationStage) : RegistrationTurn :=
  if cancelled && !registryFirst then ⟨ended, false, false⟩
  else
    let t := s.advance now delay reply
    if cancelled then { t with stage := ended } else t

def dues : RegistrationStage → List Instant
  | delaying due => due.toList
  | registering due => due.toList
  | _ => []

def work : RegistrationStage → Nat
  | spawned => 3
  | delaying _ => 2
  | registering _ => 1
  | ended => 0

end RegistrationStage
end Gatehouse
