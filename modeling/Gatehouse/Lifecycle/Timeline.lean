/-
# Timelines

Things that wait, on a clock that moves only when everything waits.  A `Machine` says what a state
does next without time passing, and which moments it waits for.  What a state does falls into two
parts: what the caller does, and everything else.  The caller goes on as far as it can; then all
else goes on as far as it can; and when nothing is left to do, the clock moves to the nearest
moment that something waits for.

`Machine.run` goes on like this until the caller has what it looks for, or up to a limit if there is
one.
-/
import Gatehouse.Time.Duration

namespace Gatehouse

/-! ## 1. Waiting -/

/-- How long something takes; `none` if it never ends. -/
abbrev Latency := Option Duration

/-- The moment that is waited for; `none` if it never comes. -/
abbrev Due := Option Instant

/-- The moment at which something that starts `now` ends. -/
def Latency.due (l : Latency) (now : Instant) : Due := l.map (Instant.timer now)

/-- The moment waited for has come. -/
def Due.reached (due : Due) (now : Instant) : Bool :=
  match due with
  | some t => t ≤ now
  | none => false

/-! ## 2. Machines -/

/-- A state that changes by itself. -/
structure Machine (σ : Type) where
  /-- What the caller does next while the clock stands still, if anything. -/
  front? : Instant → σ → Option σ
  /-- What anything else does next while the clock stands still. -/
  back? : Instant → σ → Option σ
  /-- The moments that are waited for. -/
  dues : σ → List Instant
  /-- No fewer steps than the state has left. -/
  work : σ → Nat

/-- A state at a moment. -/
structure Clocked (σ : Type) where
  now : Instant
  state : σ

namespace Machine

variable {σ : Type}

/-- The nearest moment behind `now` that is waited for. -/
def next? (m : Machine σ) (c : Clocked σ) : Option Instant :=
  ((m.dues c.state).filter (c.now < ·)).min?

/-- Everything but the caller goes on as far as it can. -/
def settleFor (m : Machine σ) (now : Instant) : Nat → σ → σ
  | 0, s => s
  | fuel + 1, s =>
    match m.back? now s with
    | some s => m.settleFor now fuel s
    | none => s

/-- The clock goes on up to `limit`, if there is one. -/
def idle (limit : Due) (c : Clocked σ) : Clocked σ :=
  { c with now := max c.now (limit.getD c.now) }

/-- Goes on until the caller has what it looks for.  If the clock would pass `limit`, it stops
there. -/
def runFor (m : Machine σ) (found : σ → Bool) (limit : Due) :
    Nat → Clocked σ → Clocked σ
  | 0, c => c
  | fuel + 1, c =>
    match m.front? c.now c.state with
    | some s => m.runFor found limit fuel { c with state := s }
    | none =>
      if found c.state then c
      else
        match m.back? c.now c.state with
        | some s => m.runFor found limit fuel { c with state := m.settleFor c.now (m.work s) s }
        | none =>
          match m.next? c with
          | some t =>
            if limit.all (t ≤ ·) then m.runFor found limit fuel { c with now := t }
            else idle limit c
          | none => idle limit c

/-- Goes on until the caller has what it looks for, or up to `limit`; without a limit, until nothing
is waited for.  A move of the clock makes
something ready that has work left, so that twice the work bounds the rounds. -/
def run (m : Machine σ) (found : σ → Bool) (limit : Due) (c : Clocked σ) : Clocked σ :=
  m.runFor found limit (2 * m.work c.state + 2) c

def settle (m : Machine σ) (c : Clocked σ) : Clocked σ := m.run (fun _ => false) (some c.now) c

end Machine
end Gatehouse
