/-
# What goes on in a session

`Session.step?` carries out one move of one call or task.  Any move that is possible may come next;
`Session.machine` chooses one way among them: the calls that somebody waits for first, then the
runs, the hooks and the registrations, each in the order in which they were begun.
-/
import Gatehouse.Lifecycle.Session.Basic

namespace Gatehouse

/-- Who moves.  A registration looks first at the registry or first at whether it is cancelled. -/
inductive Move
  | run (i : Nat)
  | stop (i : Nat)
  | close (i : Nat)
  | drain (i : Nat)
  | hook (i : Nat)
  | registration (i : Nat) (registryFirst : Bool)
deriving DecidableEq, Repr

namespace Session

/-! ## 1. Runs -/

def setRun (s : Session) (i : Nat) (c : RunCall) : Session := { s with runs := s.runs.set i c }

/-- Takes down what is seen of a hook.  A hook that announces leaves a registration behind. -/
def note (s : Session) (n : HookNote) : Session :=
  let noted := s.record (.hook n)
  match n with
  | .started h =>
    if h.body = .announce then { noted with registrations := noted.registrations ++ [.spawned] }
    else noted
  | .ended _ => noted

/-- The stage behind the on-run hooks.  Only an engine that is still running goes on. -/
def behindHooks (s : Session) : HookEnd → RunStage
  | .passed => if s.engine.status = .running then .cleared else .ended (.finished .well)
  | .failed f => .ended (.finished (.failed (.hook f)))
  | .panicked p => .ended (.panicked p)

/-- Where a run that serves has come. -/
def afterServing (s : Session) (now : Instant) (v : Serving) : Option CallEnd :=
  match v.stopped?, s.transport.isStopped with
  | some e, true => some e
  | _, _ => if v.due.reached now then some v.ending else none

def stepRun? (now : Instant) (s : Session) (i : Nat) : Option Session :=
  match s.runs[i]? with
  | none => none
  | some c =>
    if !c.started then none
    else
      match c.stage with
      | .hooks (.ended e) => some (s.setRun i { c with stage := s.behindHooks e })
      | .hooks r =>
        (r.step? now).map fun p =>
          let moved := s.setRun i { c with stage := .hooks p.1 }
          match p.2 with
          | some n => moved.note n
          | none => moved
      | .cleared =>
        let (v, transport) := s.transport.serve now
        some { (s.record .served).setRun i { c with stage := .serving v } with transport }
      | .serving v =>
        (s.afterServing now v).map fun e => s.setRun i { c with stage := .ended e }
      -- The report is made by the task that drives the run, and a panic ends that task too.
      | .ended (.finished f) =>
        if c.owesReport then
          (s.collector.report? f).map fun collector =>
            { s.setRun i { c with owesReport := false } with collector }
        else none
      | .ended (.panicked _) => none

/-! ## 2. Shutdowns -/

def setStop (s : Session) (i : Nat) (c : StopCall) : Session := { s with stops := s.stops.set i c }

def stepStop? (now : Instant) (s : Session) (i : Nat) : Option Session :=
  match s.stops[i]? with
  | none => none
  | some c =>
    let goTo (s : Session) (stage : StopStage) : Option Session :=
      some (s.setStop i { c with stage })
    match c.stage with
    | .begun =>
      match s.engine.options.info? with
      | some info =>
        let reply := s.registry.deregister
        goTo (s.record (.deregistered info))
          (.deregistering (reply.latency.due now) reply.finish)
      | none => goTo s (.deregistered .well)
    -- The deadline does not bound the wait for the registry.
    | .deregistering due f => if due.reached now then goTo s (.deregistered f) else none
    | .deregistered f =>
      let (d, transport) := s.transport.drain now c.deadline
      goTo { s.record (.drained c.deadline) with transport } (.draining d f)
    | .draining d f =>
      if d.due.reached now then goTo s (StopCall.behindDrain f d.ending) else none
    | .joining f d =>
      -- Hooks that are late are left to themselves.
      if s.hookTasks.allEnded || Instant.tick c.deadline ≤ now then goTo s (.returned (f.and d))
      else none
    | _ => none

/-! ## 3. Closes and drains -/

def stepClose? (s : Session) (i : Nat) : Option Session :=
  match s.closes[i]? with
  | some ⟨none⟩ =>
    let (e, transport) := s.transport.close
    some { s.record .closed with transport, closes := s.closes.set i ⟨some e⟩ }
  | _ => none

def stepDrain? (now : Instant) (s : Session) (i : Nat) : Option Session :=
  match s.drains[i]? with
  | some ⟨d, none⟩ =>
    if d.due.reached now then some { s with drains := s.drains.set i ⟨d, some d.ending⟩ }
    else none
  | _ => none

/-! ## 4. Hooks and registrations -/

def stepHook? (now : Instant) (s : Session) (i : Nat) : Option Session :=
  (s.hookTasks.stepAt? now i).map fun p => ({ s with hookTasks := p.1 } : Session).note p.2

/-- A registration has a turn.  A refusal of the registry is reported. -/
def stepRegistration? (now : Instant) (s : Session) (i : Nat) (registryFirst : Bool) :
    Option Session :=
  match s.registrations[i]? with
  | none => none
  | some r =>
    if !r.isReady now s.cancelled then none
    else
      let reply := s.registry.register
      let t := r.turn now s.engine.options.registerDelay reply s.cancelled registryFirst
      let moved := { s with registrations := s.registrations.set i t.stage }
      let called := if t.called then moved.record (.registered s.engine.options.info?) else moved
      match t.answered, reply.finish with
      | true, .failed f =>
        let collector := (called.collector.report? (.failed f)).getD called.collector
        some { called with collector }
      | _, _ => some called

/-! ## 5. Moves -/

/-- Carries out one move, if it is possible. -/
def step? (now : Instant) (s : Session) : Move → Option Session
  | .run i => s.stepRun? now i
  | .stop i => s.stepStop? now i
  | .close i => s.stepClose? i
  | .drain i => s.stepDrain? now i
  | .hook i => s.stepHook? now i
  | .registration i registryFirst => s.stepRegistration? now i registryFirst

/-- The moves of calls that somebody waits for. -/
def frontMoves (s : Session) : List Move :=
  (List.range s.stops.length).map .stop ++ (List.range s.closes.length).map .close ++
    (List.range s.drains.length).map .drain

/-- All other moves.  A registration looks at the registry first. -/
def backMoves (s : Session) : List Move :=
  (List.range s.runs.length).map .run ++ (List.range s.hookTasks.tasks.length).map .hook ++
    (List.range s.registrations.length).map (.registration · true)

def dues (s : Session) : List Instant :=
  s.runs.flatMap RunCall.dues ++ s.stops.flatMap StopCall.dues ++
    (s.drains.filter (·.ending?.isNone)).flatMap (·.drain.due.toList) ++ s.hookTasks.dues ++
    s.registrations.flatMap RegistrationStage.dues

/-- The steps of several calls together. -/
def total (steps : List Nat) : Nat := steps.foldr (· + ·) 0

def work (s : Session) : Nat :=
  total (s.runs.map RunCall.work) + total (s.stops.map StopCall.work) + s.closes.length +
    s.drains.length + s.hookTasks.work + total (s.registrations.map RegistrationStage.work)

def machine : Machine Session where
  front? now s := s.frontMoves.findSome? (s.step? now)
  back? now s := s.backMoves.findSome? (s.step? now)
  dues := dues
  work := work

end Session
end Gatehouse
