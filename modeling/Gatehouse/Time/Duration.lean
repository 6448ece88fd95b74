/-
# Spans of time and moments

A `Duration` is a whole number of nanoseconds.  Its text names the largest unit that leaves a
whole part, with every decimal that is not a trailing zero: `5s`, `1.5s`, `999.999999ms`, `0ns`.

An `Instant` counts nanoseconds on a clock that never runs back.  The clock holds its seconds in
a signed 64-bit word, so a moment can lie too far ahead to be held: `Instant.after?` says when.
Timers are served at whole milliseconds, the first at or after the moment asked for
(`Instant.tick`), and no timer runs for longer than thirty years (`Instant.timer`).
-/

namespace Gatehouse

/-! ## 1. Spans -/

/-- A span of time in nanoseconds. -/
structure Duration where
  nanos : Nat
deriving DecidableEq, Repr

namespace Duration

def ofNanos (n : Nat) : Duration := ⟨n⟩
def ofMillis (n : Nat) : Duration := ⟨n * 1000000⟩
def ofSeconds (n : Nat) : Duration := ⟨n * 1000000000⟩

/-- The longest span that options may hold: the largest 64-bit count of seconds, and one
nanosecond less than a second on top. -/
def longest : Duration := ⟨(Nat.pow 2 64 - 1) * 1000000000 + 999999999⟩

/-- The longest span that a timer runs for: thirty years of 365 days. -/
def longestTimer : Duration := ofSeconds (30 * 365 * 86400)

/-- A number padded with zeros on the left to `width` digits. -/
def padded (width n : Nat) : String :=
  let digits := toString n
  String.ofList (List.replicate (width - digits.length) '0') ++ digits

/-- The decimals of `rest` out of `10 ^ places`, a point in front, trailing zeros dropped; nothing
for a whole number. -/
def decimals (places rest : Nat) : String :=
  if rest = 0 then ""
  else
    let digits := (padded places rest).toList
    "." ++ String.ofList (digits.reverse.dropWhile (· = '0')).reverse

/-- A span counted in a unit of `10 ^ places` nanoseconds. -/
def inUnit (places : Nat) (unit : String) (d : Duration) : String :=
  toString (d.nanos / Nat.pow 10 places) ++ decimals places (d.nanos % Nat.pow 10 places) ++ unit

/-- A span in the largest unit that leaves a whole part. -/
def text (d : Duration) : String :=
  if 1000000000 ≤ d.nanos then d.inUnit 9 "s"
  else if 1000000 ≤ d.nanos then d.inUnit 6 "ms"
  else if 1000 ≤ d.nanos then d.inUnit 3 "µs"
  else d.inUnit 0 "ns"

end Duration

/-! ## 2. Moments -/

/-- A moment, in nanoseconds since the clock's start. -/
abbrev Instant := Nat

namespace Instant

/-- The first second that the clock cannot hold. -/
def secondsBound : Nat := Nat.pow 2 63

/-- The moment `d` after `t`, if the clock can hold it. -/
def after? (t : Instant) (d : Duration) : Option Instant :=
  if (t + d.nanos) / 1000000000 < secondsBound then some (t + d.nanos) else none

/-- The moment at which a timer set for `t` goes off: the next whole millisecond. -/
def tick (t : Instant) : Instant := (t + 999999) / 1000000 * 1000000

/-- A timer goes off no earlier than asked. -/
theorem le_tick (t : Nat) : t ≤ tick t := by
  show t ≤ (t + 999999) / 1000000 * 1000000
  omega

theorem tick_mono {t u : Nat} (h : t ≤ u) : tick t ≤ tick u := by
  show (t + 999999) / 1000000 * 1000000 ≤ (u + 999999) / 1000000 * 1000000
  omega

/-- The moment at which a timer goes off that is started `now` for a span. -/
def timer (now : Instant) (d : Duration) : Instant :=
  tick (now + min d.nanos Duration.longestTimer.nanos)

/-- A timer goes off no earlier than it is started. -/
theorem le_timer (now : Nat) (d : Duration) : now ≤ timer now d :=
  Nat.le_trans (Nat.le_add_right _ _) (le_tick _)

theorem timer_mono {t u : Nat} (h : t ≤ u) (d : Duration) : timer t d ≤ timer u d :=
  tick_mono (Nat.add_le_add_right h _)

end Instant
end Gatehouse
