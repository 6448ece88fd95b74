/-
# Connection trackers

A tracker counts live connections, so that a shutdown can wait for them.  Every connection holds a
token; giving one up lowers the count, and the one that brings it to zero wakes everybody who
waits.

Who waits asks first to be woken and looks at the count after that, so that a count which reaches
zero in between is not missed; and looks again whenever it has been woken.  Giving up a token takes
two steps, the count and the waking, and other tasks may come in between: `Tracking.step?` carries
out one step of any task.
-/

namespace Gatehouse

/-! ## 1. Trackers -/

/-- A count of live connections, shared by all who hold the tracker. -/
structure Tracker where
  /-- Live connections.  Each holds a handle on the count, and there are never so many handles that
  the count would overflow. -/
  active : Nat
  /-- How often everybody has been woken. -/
  wakings : Nat
deriving DecidableEq, Repr

namespace Tracker

def new : Tracker := ⟨0, 0⟩

def acquire (t : Tracker) : Tracker := { t with active := t.active + 1 }

def lower (t : Tracker) : Tracker := { t with active := t.active - 1 }

def wake (t : Tracker) : Tracker := { t with wakings := t.wakings + 1 }

/-- Gives up a token in one go. -/
def release (t : Tracker) : Tracker := if t.active = 1 then t.lower.wake else t.lower

end Tracker

/-! ## 2. Waiting -/

/-- How far someone has come who waits for a tracker to be idle. -/
inductive IdleWait
  | fresh
  /-- It will be woken by any waking behind the first `since`, and is to look at the count. -/
  | armed (since : Nat)
  | parked (since : Nat)
  | returned
deriving DecidableEq, Repr

namespace IdleWait

/-- Asks to be woken. -/
def arm (t : Tracker) : IdleWait → IdleWait
  | fresh => armed t.wakings
  | w => w

/-- Looks at the count. -/
def look (t : Tracker) : IdleWait → IdleWait
  | armed since => if t.active = 0 then returned else parked since
  | w => w

/-- Starts again if it has been woken. -/
def wake (t : Tracker) : IdleWait → IdleWait
  | parked since => if since < t.wakings then fresh else parked since
  | w => w

/-- Polls: one that has been woken looks again, and then it returns or is parked. -/
def poll (t : Tracker) (w : IdleWait) : IdleWait := ((w.wake t).arm t).look t

end IdleWait

/-! ## 3. Steps of any task -/

/-- How far a token has come. -/
inductive TokenStage
  /-- It has not lowered the count. -/
  | live
  /-- It has brought the count to zero and is to wake everybody. -/
  | waking
  | gone
deriving DecidableEq, Repr

/-- A tracker with its tokens and those who wait. -/
structure Tracking where
  tracker : Tracker
  tokens : List TokenStage
  waits : List IdleWait
deriving DecidableEq, Repr

/-- One step of some task. -/
inductive TrackMove
  | acquire
  | release (i : Nat)
  | beginWait
  | arm (i : Nat)
  | look (i : Nat)
  | wake (i : Nat)
deriving DecidableEq, Repr

namespace Tracking

def new : Tracking := ⟨Tracker.new, [], []⟩

/-- A token is given up: the count, then the waking if it is needed. -/
def stepRelease? (s : Tracking) (i : Nat) : Option Tracking :=
  match s.tokens[i]? with
  | some .live =>
    some { s with
      tracker := s.tracker.lower
      tokens := s.tokens.set i (if s.tracker.active = 1 then .waking else .gone) }
  | some .waking => some { s with tracker := s.tracker.wake, tokens := s.tokens.set i .gone }
  | _ => none

/-- Someone who waits goes on, if that changes anything. -/
def stepWait? (s : Tracking) (i : Nat) (f : Tracker → IdleWait → IdleWait) : Option Tracking :=
  s.waits[i]?.bind fun w =>
    let moved := f s.tracker w
    if moved = w then none else some { s with waits := s.waits.set i moved }

def step? (s : Tracking) : TrackMove → Option Tracking
  | .acquire => some { s with tracker := s.tracker.acquire, tokens := s.tokens ++ [.live] }
  | .release i => s.stepRelease? i
  | .beginWait => some { s with waits := s.waits ++ [.fresh] }
  | .arm i => s.stepWait? i IdleWait.arm
  | .look i => s.stepWait? i IdleWait.look
  | .wake i => s.stepWait? i IdleWait.wake

/-- Carries out steps one after the other, if each of them is possible. -/
def run? (s : Tracking) (ms : List TrackMove) : Option Tracking := ms.foldlM step? s

end Tracking
end Gatehouse
