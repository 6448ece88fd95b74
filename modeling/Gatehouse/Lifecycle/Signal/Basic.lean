/-
# Shutdown signals

A signal is triggered once and observed by any number of tasks.  It is shared by its clones: a flag
that says that it has been triggered, and a channel on which the one that triggered it sends a
single message.  An observer subscribes to the channel when it is made; when it is polled first it
looks at the flag, and after that it waits for a message.  If it is told that nobody can send any
more, it looks at the flag once again.

Triggering takes two steps, the flag and the message, a poll takes up to three, and other tasks may
come in between: `Signaling.step?` carries out one step of any task.
-/

namespace Gatehouse

/-! ## 1. Signals -/

/-- What the clones of a signal share. -/
structure ShutdownSignal where
  triggered : Bool
  /-- Messages sent so far. -/
  sent : Nat
  clones : Nat
deriving DecidableEq, Repr

namespace ShutdownSignal

/-- A signal that has not been triggered, with one clone. -/
def new : ShutdownSignal := ⟨false, 0, 1⟩

/-- Sets the flag. -/
def raise (s : ShutdownSignal) : ShutdownSignal := { s with triggered := true }

/-- Sends the message.  Without observers it is lost; who subscribes later does not get it either
way. -/
def send (s : ShutdownSignal) : ShutdownSignal := { s with sent := s.sent + 1 }

/-- Triggers a signal in one go.  Only the first time has an effect. -/
def trigger (s : ShutdownSignal) : ShutdownSignal := if s.triggered then s else s.raise.send

def clone (s : ShutdownSignal) : ShutdownSignal := { s with clones := s.clones + 1 }

/-- One clone less.  Without clones nobody can send. -/
def drop (s : ShutdownSignal) : ShutdownSignal := { s with clones := s.clones - 1 }

end ShutdownSignal

/-! ## 2. Observers -/

/-- How far an observer has come. -/
inductive ObserverStage
  | fresh
  /-- It has seen that the flag is down and waits for a message. -/
  | listening
  /-- It has been told that nobody can send any more, and is to look at the flag again. -/
  | closed
  | ready
  /-- Nobody can send any more, and the flag is down: it waits forever. -/
  | deaf
deriving DecidableEq, Repr

/-- Someone who waits for a signal. -/
structure Observer where
  /-- The messages that had been sent when it subscribed. -/
  since : Nat
  stage : ObserverStage
deriving DecidableEq, Repr

namespace Observer

def subscribe (s : ShutdownSignal) : Observer := ⟨s.sent, .fresh⟩

/-- The first look, at the flag. -/
def look (s : ShutdownSignal) (o : Observer) : Observer :=
  match o.stage with
  | .fresh => { o with stage := if s.triggered then .ready else .listening }
  | _ => o

/-- A look at the channel.  A message sent since the subscription is received even when nobody can
send any more. -/
def receive (s : ShutdownSignal) (o : Observer) : Observer :=
  match o.stage with
  | .listening =>
    if o.since < s.sent then { o with stage := .ready }
    else if s.clones = 0 then { o with stage := .closed }
    else o
  | _ => o

/-- The second look at the flag, once nobody can send any more. -/
def lookAgain (s : ShutdownSignal) (o : Observer) : Observer :=
  match o.stage with
  | .closed => { o with stage := if s.triggered then .ready else .deaf }
  | _ => o

def poll (s : ShutdownSignal) (o : Observer) : Observer := ((o.look s).receive s).lookAgain s

/-- The observer has seen that the signal was triggered. -/
def isReady (o : Observer) : Bool := o.stage = .ready

end Observer

/-! ## 3. Steps of any task -/

/-- How far a call to trigger has come. -/
inductive TriggerStage
  | begun
  /-- It has set the flag and is to send the message. -/
  | won
  /-- It has returned, and is the one that has set the flag and sent the message. -/
  | sent
  /-- It has returned, as it found the flag set. -/
  | late
deriving DecidableEq, Repr

namespace TriggerStage

def isUnderWay : TriggerStage → Bool
  | begun | won => true
  | sent | late => false

/-- The call has set the flag. -/
def hasRaised : TriggerStage → Bool
  | won | sent => true
  | begun | late => false

end TriggerStage

/-- A signal with the calls to trigger it and its observers.  An observer that is given up is one
that is polled no more. -/
structure Signaling where
  signal : ShutdownSignal
  triggers : List TriggerStage
  observers : List Observer
deriving DecidableEq, Repr

/-- One step of some task. -/
inductive SignalMove
  | clone
  /-- A clone that is not being triggered goes away. -/
  | drop
  | beginTrigger
  | trigger (i : Nat)
  | subscribe
  | look (i : Nat)
  | receive (i : Nat)
  | lookAgain (i : Nat)
deriving DecidableEq, Repr

namespace Signaling

def new : Signaling := ⟨ShutdownSignal.new, [], []⟩

def active (s : Signaling) : Nat := s.triggers.countP TriggerStage.isUnderWay

/-- There can be a clone that is not being triggered.  The calls under way may all share one. -/
def hasSpare (s : Signaling) : Bool := min s.active 1 < s.signal.clones

/-- A call to trigger goes on: the flag, then the message. -/
def stepTrigger? (s : Signaling) (i : Nat) : Option Signaling :=
  match s.triggers[i]? with
  | some .begun =>
    some { s with
      signal := s.signal.raise
      triggers := s.triggers.set i (if s.signal.triggered then .late else .won) }
  | some .won =>
    some { s with signal := s.signal.send, triggers := s.triggers.set i .sent }
  | _ => none

/-- An observer at a stage goes on. -/
def stepObserver? (s : Signaling) (i : Nat) (stage : ObserverStage)
    (f : ShutdownSignal → Observer → Observer) : Option Signaling :=
  s.observers[i]?.bind fun o =>
    if o.stage = stage then some { s with observers := s.observers.set i (f s.signal o) } else none

def step? (s : Signaling) : SignalMove → Option Signaling
  | .clone => if 0 < s.signal.clones then some { s with signal := s.signal.clone } else none
  | .drop => if s.hasSpare then some { s with signal := s.signal.drop } else none
  | .beginTrigger =>
    if 0 < s.signal.clones then some { s with triggers := s.triggers ++ [.begun] } else none
  | .trigger i => s.stepTrigger? i
  | .subscribe =>
    if 0 < s.signal.clones then
      some { s with observers := s.observers ++ [Observer.subscribe s.signal] }
    else none
  | .look i => s.stepObserver? i .fresh Observer.look
  | .receive i => s.stepObserver? i .listening Observer.receive
  | .lookAgain i => s.stepObserver? i .closed Observer.lookAgain

/-- Carries out steps one after the other, if each of them is possible. -/
def run? (s : Signaling) (ms : List SignalMove) : Option Signaling := ms.foldlM step? s

end Signaling
end Gatehouse
