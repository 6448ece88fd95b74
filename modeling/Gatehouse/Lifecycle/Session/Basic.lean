/-
# Sessions

A session is an engine with everything that goes on around it: the calls under way, the tasks of
its hooks, the registrations, and the reports collected.  Its journal holds what has been asked of
collaborators, in order.

A session changes by calls, which are made from outside and only begin something, and by moves
(`Session.step?`), which are what the calls and tasks do afterwards.
-/
import Gatehouse.Lifecycle.Engine
import Gatehouse.Lifecycle.Session.Call

namespace Gatehouse

/-- Something asked of a collaborator. -/
inductive Event
  | hook (n : HookNote)
  | registered (info? : Option Info)
  | deregistered (info : Info)
  | served
  | drained (deadline : Instant)
  | closed
deriving DecidableEq, Repr

/-- An engine with everything that goes on around it. -/
structure Session where
  engine : Engine
  registry : Registry
  transport : Transport
  runs : List RunCall
  stops : List StopCall
  closes : List CloseCall
  drains : List DrainCall
  /-- The tasks of the on-shutdown hooks. -/
  hookTasks : HookTasks
  registrations : List RegistrationStage
  /-- Registrations that are not through are to be given up. -/
  cancelled : Bool
  collector : Collector
  journal : List Event

namespace Session

/-- An engine around which nothing goes on. -/
def new (engine : Engine) (registry : Registry) (transport : Transport) : Session where
  engine := engine
  registry := registry
  transport := transport
  runs := []
  stops := []
  closes := []
  drains := []
  hookTasks := HookTasks.idle
  registrations := []
  cancelled := false
  collector := Collector.new
  journal := []

/-- Takes down what has been asked of a collaborator. -/
def record (s : Session) (e : Event) : Session := { s with journal := s.journal ++ [e] }

def withStatus (s : Session) (status : Status) : Session :=
  { s with engine := { s.engine with status } }

/-- The names of the hooks that have waited and ended, those of the library left out. -/
def endedHooks (s : Session) : List String :=
  s.journal.filterMap fun e =>
    match e with
    | .hook (.ended ⟨name, .call _ _⟩) => some name
    | _ => none

def count (s : Session) (p : Event → Bool) : Nat := s.journal.countP p

/-! ## Calls -/

/-- A call to run.  An engine that has left its first status refuses; otherwise it is running from
now on, although nothing happens before the call is started.  Hooks added later are not run. -/
def callRun (s : Session) : Session :=
  let add (s : Session) (stage : RunStage) : Session :=
    { s with runs := s.runs ++ [⟨stage, false, false⟩] }
  match s.engine.status with
  | .init => add (s.withStatus .running) (.hooks (.ready s.engine.hooks.onRun))
  | _ => add s (.ended (.finished (.failed .alreadyRunning)))

/-- Starts a call to run as a task of its own; how it ends may be reported. -/
def start (s : Session) (i : Nat) (reports : Bool) : Session :=
  { s with runs := s.runs.modify i fun c => { c with started := true, owesReport := reports } }

/-- A call to shut down.  An engine that is not running refuses; otherwise its on-shutdown hooks are
handed to their tasks. -/
def callStop (s : Session) (deadline : Instant) : Session :=
  match s.engine.status with
  | .running =>
    { s.withStatus .shutdown with
      stops := s.stops ++ [⟨deadline, .begun⟩]
      hookTasks := HookTasks.spawn s.engine.hooks.onShutdown }
  | _ => { s with stops := s.stops ++ [⟨deadline, .returned (.failed .notRunning)⟩] }

def abandonStop (s : Session) (i : Nat) : Session :=
  { s with stops := s.stops.modify i fun c =>
    match c.stage with
    | .returned _ => c
    | .panicked _ => c
    | _ => { c with stage := .abandoned } }

/-- A call to close.  The status comes first, then the transport. -/
def callClose (s : Session) : Session :=
  { s.withStatus .closed with closes := s.closes ++ [⟨none⟩] }

/-- A call to drain the transport without the engine. -/
def callDrain (s : Session) (now deadline : Instant) : Session :=
  let (drain, transport) := s.transport.drain now deadline
  { s.record (.drained deadline) with transport, drains := s.drains ++ [⟨drain, none⟩] }

end Session
end Gatehouse
