/-
# Spinning a server

A server spins: it runs its engine as a task in the background, waits for what ends it, and then
leaves in one of two ways.  A good outcome leads to a shutdown that may take as long as the options
say; a bad one closes the engine at once.  Either way the registration is cancelled first, if it
is not through, and what the shutdown or the close comes to makes no difference to how the server
has left.  Only a panic in one of them does: it is the server's own.

`Spin.step?` carries out one move; `Spin.machine` chooses one way among the moves.
-/
import Gatehouse.Lifecycle.Session.Move
import Gatehouse.Lifecycle.Waiter

namespace Gatehouse

/-- How a server has left. -/
inductive Exit
  | graceful
  | forced (cause : ServiceFault)
deriving DecidableEq, Repr

/-- How far a server has come. -/
inductive SpinStage
  | waiting
  /-- The waiter has an outcome. -/
  | resolved (f : Finish)
  /-- Registrations have been cancelled. -/
  | leaving (f : Finish)
  | closing (call : Nat) (cause : ServiceFault)
  | stopping (call : Nat)
  | exited (e : Exit)
  /-- The clock cannot hold the deadline of the shutdown. -/
  | crashed
  /-- The call that was to lead to this exit has panicked, and the server with it. -/
  | panicked (e : Exit) (p : Panic)
deriving DecidableEq, Repr

/-- A server that spins, the signals it has got, and those it is going to get. -/
structure Spin where
  session : Session
  waiter : Waiter
  /-- When the span of the waiter has passed. -/
  due : Due
  stage : SpinStage
  signals : List ProcessSignal
  upcoming : List (Instant × ProcessSignal)

/-- Who moves while a server spins.  Of several outcomes the waiter takes any one. -/
inductive SpinMove
  | inner (m : Move)
  | main (choice : Nat)
  | signal
deriving DecidableEq, Repr

namespace Spin

/-! ## 1. Beginning -/

/-- A session whose engine announces the instance behind its other on-run hooks, and is run as a
task that reports how it ends. -/
def launch (s : Session) : Session :=
  let announced := { s with engine := s.engine.addRunHook Hook.registry }
  let called := announced.callRun
  called.start (called.runs.length - 1) true

/-- A server begins to spin. -/
def begin (s : Session) (waiter : Waiter) (now : Instant)
    (upcoming : List (Instant × ProcessSignal)) : Spin where
  session := launch s
  waiter := waiter
  due := waiter.latency.due now
  stage := .waiting
  signals := []
  upcoming := upcoming

/-! ## 2. Moves -/

/-- The outcomes that the waiter can take now. -/
def offers (now : Instant) (x : Spin) : List Finish :=
  x.waiter.offers x.signals x.session.collector.queue (x.session.journal.contains .served)
    (x.due.reached now)

/-- The server leaves.  Nobody reads reports any more. -/
def leave (x : Spin) (e : Exit) : Spin :=
  { x with
    stage := .exited e
    session := { x.session with collector := x.session.collector.close } }

/-- How the call for the end has ended, if there is one and it has. -/
def callEnd? (x : Spin) : Option CallEnd :=
  match x.stage with
  | .closing call _ => x.session.closes[call]?.bind CloseCall.ending?
  | .stopping call => x.session.stops[call]?.bind StopCall.ending?
  | _ => none

/-- The server goes on behind a call for the end.  A panic of the call leaves no way to leave. -/
def behindCall (x : Spin) (e : Exit) : CallEnd → Spin
  | .finished _ => x.leave e
  | .panicked p => { x with stage := .panicked e p }

def stepMain? (now : Instant) (x : Spin) (choice : Nat) : Option Spin :=
  match x.stage with
  | .waiting => ((x.offers now)[choice]?).map fun f => { x with stage := .resolved f }
  | .resolved f =>
    some { x with stage := .leaving f, session := { x.session with cancelled := true } }
  | .leaving (.failed cause) =>
    some { x with
      stage := .closing x.session.closes.length cause
      session := x.session.callClose }
  -- The deadline is a moment of the clock, and the sum may lie behind the last one.
  | .leaving .well =>
    match Instant.after? now x.session.engine.options.exitWait with
    | some deadline =>
      some { x with
        stage := .stopping x.session.stops.length
        session := x.session.callStop deadline }
    | none => some { x with stage := .crashed }
  | .closing _ cause => x.callEnd?.map (x.behindCall (.forced cause))
  | .stopping _ => x.callEnd?.map (x.behindCall .graceful)
  | .exited _ => none
  | .crashed => none
  | .panicked _ _ => none

/-- How the server has left, if it has. -/
def exit? (x : Spin) : Option Exit :=
  match x.stage with
  | .exited e => some e
  | _ => none

/-- The server has left, or will never leave. -/
def isOver (x : Spin) : Bool :=
  match x.stage with
  | .exited _ => true
  | .crashed => true
  | .panicked _ _ => true
  | _ => false

/-- The next signal comes.  None comes once the server has left. -/
def stepSignal? (now : Instant) (x : Spin) : Option Spin :=
  match x.upcoming with
  | (t, s) :: rest =>
    if t ≤ now && !x.isOver then some { x with signals := x.signals ++ [s], upcoming := rest }
    else none
  | [] => none

def step? (now : Instant) (x : Spin) : SpinMove → Option Spin
  | .inner m => (x.session.step? now m).map fun session => { x with session }
  | .main choice => x.stepMain? now choice
  | .signal => x.stepSignal? now

/-! ## 3. One way among them -/

def dues (x : Spin) : List Instant :=
  let own := if x.isOver then [] else x.due.toList ++ x.upcoming.map (·.1)
  own ++ x.session.dues

/-- The steps that are left, at most: those of the session, of the server, of a shutdown or a close
yet to be called, and the signals. -/
def work (x : Spin) : Nat :=
  x.session.work + 2 * x.session.engine.hooks.onShutdown.length + x.upcoming.length + 12

def machine : Machine Spin where
  front? now x :=
    (SpinMove.main 0 :: x.session.frontMoves.map .inner ++ [SpinMove.signal]).findSome?
      (x.step? now)
  back? now x := (x.session.backMoves.map SpinMove.inner).findSome? (x.step? now)
  dues := dues
  work := work

/-- The session when nobody waits for the server any more. -/
def abandon (x : Spin) : Session :=
  (List.range x.session.stops.length).foldl Session.abandonStop x.session

end Spin
end Gatehouse
