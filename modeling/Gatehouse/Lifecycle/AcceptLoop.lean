/-
# Accepting connections

A listener's loop takes connections from its backlog, each with a task and a token of its own, until
it sees that it has been told to stop or to close.  When taking one fails, as it does where file
descriptors run out, the loop rests, and sees nothing of what it is told meanwhile.  A connection
that sees the listener stopping finishes the request under way; one that sees it closing is dropped.

A drain tells the listener to stop and waits until a deadline for the tracker to be idle.  The loop
is told and not waited for: `AcceptLoop.step?` carries out one step of any task, and which of two
things the loop sees first is left open.
-/
import Gatehouse.Lifecycle.Collector
import Gatehouse.Lifecycle.Timeline
import Gatehouse.Lifecycle.Tracker.Basic

namespace Gatehouse

/-- How far a listener's loop has come. -/
inductive LoopStage
  /-- It waits for a connection, and to be told to end. -/
  | listening
  /-- Taking a connection has failed, and it rests. -/
  | resting (rested : Instant)
  | ended
deriving DecidableEq, Repr

/-- How far a connection has come. -/
inductive ConnectionStage
  | serving
  /-- It finishes the request under way and takes no other. -/
  | draining
  | gone
deriving DecidableEq, Repr

/-- How far a drain has come. -/
inductive DrainStage
  | absent
  | waiting (deadline : Instant) (idle : IdleWait)
  | returned (f : Finish)
deriving DecidableEq, Repr

/-- A listener's loop with its connections and a drain. -/
structure AcceptLoop where
  /-- It has been told to take no new connections. -/
  stopping : Bool
  /-- It has been told to drop everything. -/
  closing : Bool
  stage : LoopStage
  /-- Connections that wait to be accepted. -/
  backlog : Nat
  connections : List ConnectionStage
  tracker : Tracker
  drain : DrainStage
deriving DecidableEq, Repr

/-- One step of some task. -/
inductive AcceptMove
  | arrive
  /-- A connection that waits is given up by its client. -/
  | withdraw
  | accept
  /-- Taking a connection fails. -/
  | fail
  /-- The loop has rested. -/
  | resume
  /-- The loop sees that it is to end. -/
  | leave
  /-- A connection sees that the listener is stopping. -/
  | notice (i : Nat)
  /-- A connection ends by itself. -/
  | finish (i : Nat)
  /-- A connection sees that the listener is closing. -/
  | drop (i : Nat)
  | beginDrain (deadline : Instant)
  /-- The drain looks at the tracker, and at the clock if connections are left. -/
  | pollDrain
  | close
deriving DecidableEq, Repr

namespace AcceptLoop

def new : AcceptLoop := ⟨false, false, .listening, 0, [], Tracker.new, .absent⟩

/-- How long the loop rests. -/
def backOff : Duration := .ofMillis 50

def stop (l : AcceptLoop) : AcceptLoop := { l with stopping := true }

def close (l : AcceptLoop) : AcceptLoop := { l with closing := true }

def running (l : AcceptLoop) : Bool := l.stage ≠ .ended

/-- It has been told to end, in either way. -/
def isTold (l : AcceptLoop) : Bool := l.stopping || l.closing

/-- A connection comes to an end and gives up its token. -/
def lose (l : AcceptLoop) (i : Nat) : AcceptLoop :=
  { l with connections := l.connections.set i .gone, tracker := l.tracker.release }

def pollDrain? (now : Instant) (l : AcceptLoop) : Option AcceptLoop :=
  match l.drain with
  | .waiting deadline idle =>
    -- The count is looked at before the clock: a drain that is late may still end well.
    match idle.poll l.tracker with
    | .returned => some { l with drain := .returned .well }
    | polled =>
      if Instant.tick deadline ≤ now then
        some { l with drain := .returned (.failed .shutdownTimeout) }
      else some { l with drain := .waiting deadline polled }
  | _ => none

def step? (now : Instant) (l : AcceptLoop) : AcceptMove → Option AcceptLoop
  | .arrive => if l.running then some { l with backlog := l.backlog + 1 } else none
  | .withdraw => if 0 < l.backlog then some { l with backlog := l.backlog - 1 } else none
  | .accept =>
    -- Whether the loop has been told to end does not matter here: of what is ready it takes any.
    if l.stage = .listening && 0 < l.backlog then
      some { l with
        backlog := l.backlog - 1
        connections := l.connections ++ [.serving]
        tracker := l.tracker.acquire }
    else none
  | .fail =>
    if l.stage = .listening then some { l with stage := .resting (Instant.timer now backOff) }
    else none
  | .resume =>
    match l.stage with
    | .resting rested => if rested ≤ now then some { l with stage := .listening } else none
    | _ => none
  | .leave =>
    -- The socket goes with the loop, and with it whatever still waits there.
    if l.stage = .listening && l.isTold then some { l with stage := .ended, backlog := 0 } else none
  | .notice i =>
    if l.stopping && l.connections[i]? = some .serving then
      some { l with connections := l.connections.set i .draining }
    else none
  | .finish i =>
    match l.connections[i]? with
    | some .serving => some (l.lose i)
    | some .draining => some (l.lose i)
    | _ => none
  | .drop i =>
    match l.closing, l.connections[i]? with
    | true, some .serving => some (l.lose i)
    | true, some .draining => some (l.lose i)
    | _, _ => none
  | .beginDrain deadline =>
    if l.drain = .absent then some { l.stop with drain := .waiting deadline .fresh } else none
  | .pollDrain => l.pollDrain? now
  | .close => some l.close

end AcceptLoop
end Gatehouse
