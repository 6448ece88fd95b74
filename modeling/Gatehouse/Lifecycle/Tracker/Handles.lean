/-
# Named handles on trackers

Several trackers at once, with their tokens and with those who wait for them, all under names.
Trackers held under different names may be one.  Whatever is put under a name in use takes the
place of what was there, which is given up after that.
-/
import Gatehouse.Lifecycle.Signal.Handles
import Gatehouse.Lifecycle.Tracker.Basic

namespace Gatehouse

/-- Trackers by number, the names that hold them, their tokens, and those who wait. -/
structure TrackerHandles where
  trackers : List Tracker
  names : List (String × Nat)
  tokens : List (String × Nat)
  waits : List (String × Nat × IdleWait)
deriving Repr

namespace TrackerHandles

def empty : TrackerHandles := ⟨[], [], [], []⟩

def update (h : TrackerHandles) (n : Nat) (f : Tracker → Tracker) : TrackerHandles :=
  { h with trackers := h.trackers.modify n f }

/-- The live connections of the tracker that a name holds. -/
def active? (h : TrackerHandles) (name : String) : Option Nat :=
  (h.names.lookup name).bind fun n => (h.trackers[n]?).map Tracker.active

def hold (h : TrackerHandles) (name : String) (n : Nat) : TrackerHandles :=
  { h with names := (name, n) :: h.names.filter (·.1 ≠ name) }

def make (h : TrackerHandles) (name : String) : TrackerHandles :=
  ({ h with trackers := h.trackers ++ [Tracker.new] }).hold name h.trackers.length

/-- Holds the tracker of one name under another one too. -/
def clone? (h : TrackerHandles) (source name : String) : Option TrackerHandles :=
  (h.names.lookup source).map (h.hold name)

def release? (h : TrackerHandles) (name : String) : Option TrackerHandles :=
  (h.tokens.lookup name).map fun n =>
    { h.update n Tracker.release with tokens := h.tokens.filter (·.1 ≠ name) }

def acquire? (h : TrackerHandles) (source name : String) : Option TrackerHandles :=
  (h.names.lookup source).map fun n =>
    let taken := h.update n Tracker.acquire
    let given := (taken.release? name).getD taken
    { given with tokens := (name, n) :: given.tokens }

/-- Waits, under a name, for a tracker to be idle; nothing is done before it is polled. -/
def wait? (h : TrackerHandles) (source name : String) : Option TrackerHandles :=
  (h.names.lookup source).map fun n =>
    { h with waits := (name, n, .fresh) :: h.waits.filter (·.1 ≠ name) }

/-- Polls one who waits; one that has returned is given up. -/
def poll (h : TrackerHandles) (name : String) : Polled × TrackerHandles :=
  match h.waits.lookup name with
  | none => (.missing, h)
  | some (n, w) =>
    let others := h.waits.filter (·.1 ≠ name)
    let polled := match h.trackers[n]? with
      | some t => w.poll t
      | none => w
    if polled = .returned then (.ready, { h with waits := others })
    else (.pending, { h with waits := (name, n, polled) :: others })

end TrackerHandles
end Gatehouse
