/-
# Waiting for the end

What ends a service from outside: a signal to the process, or the report of a background task.
An interrupt and a hang-up end it gracefully, a termination by force, and a report as it says.

A `Waiter` decides which of these a server listens to.
-/
import Gatehouse.Lifecycle.Collector
import Gatehouse.Lifecycle.Timeline

namespace Gatehouse

/-- A signal to the process. -/
inductive ProcessSignal
  | interrupt
  | terminate
  | hangup
deriving DecidableEq, Repr

/-- What a signal asks for: a graceful end, or an end by force. -/
def ProcessSignal.outcome : ProcessSignal → Finish
  | terminate => .failed (.signal "terminated")
  | _ => .well

/-- Something that can end a service. -/
inductive Trigger
  | signal (s : ProcessSignal)
  | report (f : Finish)
deriving DecidableEq, Repr

/-- Whether the end is graceful, or else why it is forced. -/
def Trigger.outcome : Trigger → Finish
  | signal s => s.outcome
  | report f => f

/-! ## 1. The standard waiter by itself -/

namespace Collector

/-- The standard waiter over triggers that come one after the other, each after a span: the outcome
of the first that counts, when it comes, and the collector after it.  What was reported before
comes first; a report counts only while someone can report. -/
def firstOutcome? (c : Collector) (triggers : List (Duration × Trigger)) :
    Option (Finish × Duration × Collector) :=
  match c.take? with
  | some (f, rest) => some (f, ⟨0⟩, rest)
  | none => go ⟨0⟩ triggers
where
  /-- The first trigger that counts, `passed` after the start. -/
  go (passed : Duration) : List (Duration × Trigger) → Option (Finish × Duration × Collector)
    | [] => none
    | (d, t) :: rest =>
      let moment : Duration := ⟨passed.nanos + d.nanos⟩
      match t with
      | .signal s => some (s.outcome, moment, c)
      | .report f =>
        if c.reporters = 0 then go moment rest
        else some (f, moment, { c with sent := c.sent ++ [f], taken := c.taken + 1 })

end Collector

/-! ## 2. The waiters of a server -/

/-- What a server listens to. -/
inductive Waiter
  /-- Signals and reports, whichever comes first. -/
  | standard
  /-- Reports only, the first `skip` of them passed over. -/
  | reports (skip : Nat)
  /-- A span of time, and an outcome of its own. -/
  | timed (latency : Latency) (outcome : Finish)
  /-- That serving has begun, and an outcome of its own. -/
  | begun (outcome : Finish)
deriving DecidableEq, Repr

namespace Waiter

/-- The outcomes that are to be had now, given the signals and the reports since the start, whether
serving has begun, and whether the waiter's own span has passed.  Of the signals that are there and
the first report, any one may be taken. -/
def offers (w : Waiter) (signals : List ProcessSignal) (sent : List Finish) (begun passed : Bool) :
    List Finish :=
  match w with
  | standard => signals.map ProcessSignal.outcome ++ sent.head?.toList
  | reports skip => sent[skip]?.toList
  | timed _ outcome => if passed then [outcome] else []
  | .begun outcome => if begun then [outcome] else []

def latency : Waiter → Latency
  | timed latency _ => latency
  | _ => none

end Waiter
end Gatehouse
