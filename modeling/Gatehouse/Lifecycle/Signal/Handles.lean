/-
# Named handles on signals

Several signals at once, held and observed under names.  Clones held under different names share
one signal.  Whatever is put under a name in use takes the place of what was there, which is given
up after that.
-/
import Gatehouse.Lifecycle.Signal.Basic

namespace Gatehouse

/-- Signals by number, the clones held on them, and their observers. -/
structure SignalHandles where
  signals : List ShutdownSignal
  clones : List (String × Nat)
  observers : List (String × Nat × Observer)
deriving Repr

/-- What polling an observer shows. -/
inductive Polled
  | ready
  | pending
  /-- There is nothing of that name. -/
  | missing
deriving DecidableEq, Repr

namespace SignalHandles

def empty : SignalHandles := ⟨[], [], []⟩

/-- The number and the state of the signal that a name holds. -/
def signal? (h : SignalHandles) (name : String) : Option (Nat × ShutdownSignal) :=
  (h.clones.lookup name).bind fun n => (h.signals[n]?).map (n, ·)

def update (h : SignalHandles) (n : Nat) (f : ShutdownSignal → ShutdownSignal) : SignalHandles :=
  { h with signals := h.signals.modify n f }

/-- Gives up the clone that a name holds, if it holds one. -/
def drop (h : SignalHandles) (name : String) : SignalHandles :=
  match h.clones.lookup name with
  | some n => { h.update n ShutdownSignal.drop with clones := h.clones.filter (·.1 ≠ name) }
  | none => h

def hold (h : SignalHandles) (name : String) (n : Nat) : SignalHandles :=
  let given := h.drop name
  { given with clones := (name, n) :: given.clones }

def make (h : SignalHandles) (name : String) : SignalHandles :=
  ({ h with signals := h.signals ++ [ShutdownSignal.new] }).hold name h.signals.length

/-- One clone more of a signal, under a name of its own. -/
def clone? (h : SignalHandles) (source name : String) : Option SignalHandles :=
  (h.clones.lookup source).map fun n => (h.update n ShutdownSignal.clone).hold name n

def trigger? (h : SignalHandles) (name : String) : Option SignalHandles :=
  (h.clones.lookup name).map fun n => h.update n ShutdownSignal.trigger

def watch? (h : SignalHandles) (source name : String) : Option SignalHandles :=
  (h.signal? source).map fun p =>
    { h with observers :=
        (name, p.1, Observer.subscribe p.2) :: h.observers.filter (·.1 ≠ name) }

/-- Polls an observer; one that is ready is given up. -/
def poll (h : SignalHandles) (name : String) : Polled × SignalHandles :=
  match h.observers.lookup name with
  | none => (.missing, h)
  | some (n, o) =>
    let others := h.observers.filter (·.1 ≠ name)
    let polled := match h.signals[n]? with
      | some s => o.poll s
      | none => o
    if polled.isReady then (.ready, { h with observers := others })
    else (.pending, { h with observers := (name, n, polled) :: others })

end SignalHandles
end Gatehouse
