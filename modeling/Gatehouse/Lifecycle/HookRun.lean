/-
# On-run hooks

On-run hooks run in order, each after the one before it has passed.  The first that fails ends the
run with a fault that names it; a panic ends the run as it is.
-/
import Gatehouse.Lifecycle.Hook

namespace Gatehouse

/-- How far a run over hooks has come. -/
inductive HookRun
  /-- These are still to be started. -/
  | ready (left : List Hook)
  /-- One has been started and ends at a moment; these come after it. -/
  | waiting (h : Hook) (due : Due) (left : List Hook)
  | ended (e : HookEnd)
deriving DecidableEq, Repr

namespace HookRun

/-- What a run makes of the end of a hook. -/
def after (h : Hook) (left : List Hook) : HookRun :=
  match h.ending with
  | .passed => .ready left
  | .failed f => .ended (.failed (.run h.name f.message))
  | .panicked p => .ended (.panicked p)

/-- What happens next, and what is seen of it. -/
def step? (now : Instant) : HookRun → Option (HookRun × Option HookNote)
  | ready [] => some (.ended .passed, none)
  | ready (h :: left) => some (.waiting h (h.latency.due now) left, some (.started h))
  | waiting h due left => if due.reached now then some (after h left, some (.ended h)) else none
  | ended _ => none

def dues : HookRun → List Instant
  | waiting _ due _ => due.toList
  | _ => []

def work : HookRun → Nat
  | ready left => 2 * left.length + 1
  | waiting _ _ left => 2 * left.length + 2
  | ended _ => 0

def hasEnded : HookRun → Bool
  | ended _ => true
  | _ => false

/-- A run by itself, with the notes taken so far. -/
structure Solo where
  run : HookRun
  notes : List HookNote

def solo : Machine Solo where
  front? now s := (s.run.step? now).map fun p => ⟨p.1, s.notes ++ p.2.toList⟩
  back? _ _ := none
  dues s := s.run.dues
  work s := s.run.work

end HookRun
end Gatehouse
