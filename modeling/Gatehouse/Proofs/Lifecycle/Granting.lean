/-
# The time that a shutdown is granted

A server with a good outcome calls for a shutdown, and grants it the time that its options leave.
Options may leave more time than the clock can hold, since spans count their seconds in an unsigned
word and moments in a signed one.  Then there is no deadline to call with: the server crashes, and
its engine is never told to end.

* `Instant.after?_eq_some_iff`, `Instant.after?_eq_none_iff`: which moments the clock can hold;
* `Spin.Spins.over_stays`: a server that has left, crashed or panicked does nothing more;
* `Spin.grants_iff_held`: **a shutdown is called for, with its whole time, exactly where the clock
  can hold the deadline**, and where it cannot the server crashes;
* `Spin.not_always_grants`: options that no shutdown is called for with.
-/
import Gatehouse.Proofs.Lifecycle.Leaving

namespace Gatehouse

/-! ## 1. Moments that the clock can hold -/

namespace Instant

variable {t u : Nat} {span : Duration}

/-- The first moment that the clock cannot hold. -/
def bound : Nat := secondsBound * 1000000000

theorem after?_eq_some_iff :
    after? t span = some u ↔ u = t + span.nanos ∧ t + span.nanos < bound := by
  have hheld_iff : (t + span.nanos) / 1000000000 < secondsBound ↔ t + span.nanos < bound :=
    Nat.div_lt_iff_lt_mul (by omega)
  unfold after?
  split
  · rename_i hheld
    simp [hheld_iff.mp hheld, eq_comm]
  · rename_i hlate
    simp [mt hheld_iff.mpr hlate]

theorem after?_eq_none_iff : after? t span = none ↔ bound ≤ t + span.nanos := by
  rw [Option.eq_none_iff_forall_not_mem]
  constructor
  · intro hnone
    exact Nat.not_lt.mp fun hheld => hnone _ (after?_eq_some_iff.mpr ⟨rfl, hheld⟩)
  · intro hlate u hu
    exact Nat.not_lt.mpr hlate (after?_eq_some_iff.mp hu).2

end Instant

namespace Spin

open Deed (stopSide)
open Session (NotCalled StoppedOnce)

variable {now : Instant} {x x' : Spin} {c c' : Clocked Spin} {ds ds' : List Deed} {e : Engine}
  {r : Registry} {t : Transport} {waiter : Waiter} {start : Instant}
  {upcoming : List (Instant × ProcessSignal)}

/-! ## 2. A crash -/

/-- No turn brings a server back. -/
theorem Turn.over_stays {a? : Option Act} (h : x.Turn now a? x') (hover : x.isOver = true) :
    x'.stage = x.stage := by
  cases h with
  | inner hstep => rfl
  | signalled hcomes => rfl
  | resolved hother | cancelled hother | closing hother | stopping hother | crashed hother
    | closed hother | closePanicked hother | stopped hother | stopPanicked hother =>
    rw [isOver, hother] at hover
    cases hover

/-- **A server that has left, crashed or panicked does nothing more.** -/
theorem Spins.over_stays (h : Spins c ds c') (hover : c.state.isOver = true) :
    c'.state.stage = c.state.stage := by
  refine h.invariant (I := fun c' => c'.state.stage = c.state.stage) rfl ?_
    fun _ _ _ hsame _ => hsame
  intro now x a? x' hsame hturn
  have hover' : x.isOver = true := by
    rw [isOver, hsame]
    exact hover
  exact (hturn.over_stays hover').trans hsame

/-! ## 3. The call for a shutdown -/

/-- The server goes on here, in one way only: it calls for a shutdown that has all this time, and
for nothing else. -/
structure Grants (c : Clocked Spin) (span : Duration) : Prop where
  step : ∃ x, (∀ choice, c.state.step? c.now (.main choice) = some x) ∧
    x.stage = .stopping 0 ∧ x.session.stops = [⟨c.now + span.nanos, .begun⟩] ∧
    Spins c [.stopTaken 0 (c.now + span.nanos) c.state.session.engine.hooks.onShutdown]
      ⟨c.now, x⟩
  /-- The clock can hold the deadline, and it has not passed. -/
  deadline : Instant.after? c.now span = some (c.now + span.nanos) ∧ c.now ≤ c.now + span.nanos

/-- The server goes on here, in one way only: it crashes.  Whatever its collaborators and its tasks
do then, it never leaves and its engine is never told to end. -/
def Crashes (ds : List Deed) (c : Clocked Spin) : Prop :=
  ∃ x, (∀ choice, c.state.step? c.now (.main choice) = some x) ∧
    ∀ ds' c', Spins ⟨c.now, x⟩ ds' c' →
      c'.state.stage = .crashed ∧ stopSide (ds ++ ds') = [] ∧
        c'.state.session.stops = [] ∧ c'.state.session.closes = []

/-- A server that crashes does not call for a shutdown instead. -/
theorem Crashes.not_grants {span : Duration} (h : Crashes ds c) : ¬ Grants c span := by
  rintro ⟨⟨x, hcalls, hstage, -, -⟩, -⟩
  obtain ⟨x', hcrashes, hlater⟩ := h
  obtain rfl : x = x' := Option.some.inj ((hcalls 0).symm.trans (hcrashes 0))
  rw [(hlater [] _ .here).1] at hstage
  cases hstage

/-- An engine that runs takes the first call for a shutdown. -/
theorem grants_of_held {span : Duration} (hcalled : NotCalled ds c.state.session)
    (hleaving : c.state.stage = .leaving .well)
    (hspan : c.state.session.engine.options.exitWait = span)
    (hheld : c.now + span.nanos < Instant.bound) : Grants c span := by
  have hdeadline : Instant.after? c.now span = some (c.now + span.nanos) :=
    Instant.after?_eq_some_iff.mpr ⟨rfl, hheld⟩
  refine ⟨?_, hdeadline, Nat.le_add_right _ _⟩
  have hstep : ∀ choice, c.state.step? c.now (.main choice) = some { c.state with
      stage := .stopping c.state.session.stops.length
      session := c.state.session.callStop (c.now + span.nanos) } := by
    intro choice
    simp only [step?, stepMain?, hleaving, hspan, hdeadline]
  have hstopped : StoppedOnce
      (ds ++ [c.state.session.deed c.now (.callStop (c.now + span.nanos))])
      (c.state.session.callStop (c.now + span.nanos)) ⟨c.now + span.nanos, .begun⟩ :=
    stoppedOnce_callStop hcalled _
  refine ⟨_, hstep, by rw [hcalled.stops]; rfl, hstopped.stops, ?_⟩
  have hdeed : c.state.session.deed c.now (.callStop (c.now + span.nanos)) =
      .stopTaken 0 (c.now + span.nanos) c.state.session.engine.hooks.onShutdown := by
    simp [Session.deed, hcalled.running, hcalled.stops]
  have hspins := (Spins.here (c := c)).move (hstep 0)
  simpa only [act?, hleaving, hspan, hdeadline, Option.map_some, Option.toList_some,
    List.nil_append, hdeed] using hspins

section

variable (hinit : e.status = .init)
  (h : Spins ⟨start, begin (Session.new e r t) waiter start upcoming⟩ ds c)
include hinit h

/-- Without a deadline there is nothing to call with, and nothing is called with later. -/
theorem Spins.crashes (hleaving : c.state.stage = .leaving .well)
    (hlate : Instant.after? c.now c.state.session.engine.options.exitWait = none) :
    Crashes ds c := by
  have hstep : ∀ choice, c.state.step? c.now (.main choice) =
      some { c.state with stage := .crashed } := by
    intro choice
    simp only [step?, stepMain?, hleaving, hlate]
  refine ⟨_, hstep, fun ds' c' hlater => ?_⟩
  have hcrash := h.move (hstep 0)
  simp only [act?, hleaving, hlate, Option.map_none, Option.toList_none, List.append_nil] at hcrash
  have hstage : c'.state.stage = .crashed := hlater.over_stays rfl
  have hcalled : NotCalled (ds ++ ds') c'.state.session :=
    ((hcrash.trans hlater).trail hinit).of_not_hasCalled (by rw [hstage]; rfl)
  exact ⟨hstage, hcalled.done, hcalled.stops, hcalled.closes⟩

/-- **A shutdown is called for, with its whole time, exactly where the clock can hold the
deadline**; where it cannot, the server crashes.  Whatever its transport, its registry and its hooks
do, and whenever its waiter has come to a good outcome: the moment of the call and the span that the
options leave decide which it is. -/
theorem grants_iff_held (hleaving : c.state.stage = .leaving .well) :
    (Grants c e.options.exitWait ↔ c.now + e.options.exitWait.nanos < Instant.bound) ∧
      (Crashes ds c ↔ Instant.bound ≤ c.now + e.options.exitWait.nanos) := by
  have hoptions : c.state.session.engine.options = e.options := h.options_begin
  have hgrants : c.now + e.options.exitWait.nanos < Instant.bound →
      Grants c e.options.exitWait := by
    intro hheld
    have hcalled : NotCalled ds c.state.session :=
      (h.trail hinit).of_not_hasCalled (by rw [hleaving]; rfl)
    exact grants_of_held hcalled hleaving (congrArg Options.exitWait hoptions) hheld
  have hcrashes : Instant.bound ≤ c.now + e.options.exitWait.nanos → Crashes ds c := by
    intro hlate
    refine h.crashes hinit hleaving ?_
    rw [hoptions]
    exact Instant.after?_eq_none_iff.mpr hlate
  refine ⟨⟨fun hcalls => ?_, hgrants⟩, fun hlost => ?_, hcrashes⟩
  · exact Nat.not_le.mp fun hlate => (hcrashes hlate).not_grants hcalls
  · exact Nat.not_lt.mp fun hheld => hlost.not_grants (hgrants hheld)

end

/-- A session with an engine that has these options and no hooks. -/
def idle (o : Options) : Session :=
  Session.new (Engine.new o) Registry.agreeable (.scripted .smooth false)

/-- A server whose waiter has a good outcome at once comes to the call for a shutdown. -/
theorem idle_leaving (o : Options) : ∃ ds c,
    Spins ⟨0, begin (idle o) (.timed (some ⟨0⟩) .well) 0 []⟩ ds c ∧
      c.state.stage = .leaving .well ∧ c.now = 0 :=
  ⟨_, _, (Spins.here.move (m := .main 0) rfl).move (m := .main 0) rfl, rfl, rfl⟩

/-- With the standard options a shutdown has five seconds. -/
theorem grants_iff_held_standard : ∃ ds c,
    (Engine.new Options.standard).status = .init ∧
      Spins ⟨0, begin (idle Options.standard) (.timed (some ⟨0⟩) .well) 0 []⟩ ds c ∧
      c.state.stage = .leaving .well ∧ Grants c (.ofSeconds 5) := by
  obtain ⟨ds, c, hspins, hleaving, hnow⟩ := idle_leaving Options.standard
  have hheld : c.now + Options.standard.exitWait.nanos < Instant.bound := by
    rw [hnow]
    decide
  exact ⟨ds, c, rfl, hspins, hleaving, (grants_iff_held rfl hspins hleaving).1.mpr hheld⟩

/-- **With the longest span that options may hold, a server never calls for a shutdown**, at
whatever moment it is to do so. -/
theorem Spins.crashes_longest (hinit : e.status = .init)
    (h : Spins ⟨start, begin (Session.new e r t) waiter start upcoming⟩ ds c)
    (hlongest : e.options.exitWait = .longest) (hleaving : c.state.stage = .leaving .well) :
    Crashes ds c := by
  refine h.crashes hinit hleaving (Instant.after?_eq_none_iff.mpr ?_)
  have hbound : Instant.bound ≤ Duration.longest.nanos := by decide
  rw [h.options_begin, hlongest]
  exact Nat.le_trans hbound (Nat.le_add_left _ _)

/-- **Options can be built that no shutdown is called for with.** -/
theorem not_always_grants :
    ¬ ∀ (settings : List Setting) (r : Registry) (t : Transport) (waiter : Waiter)
        (start : Instant) (upcoming : List (Instant × ProcessSignal)) (ds : List Deed)
        (c : Clocked Spin),
      (∀ span, .exitWait span ∈ settings → span.nanos ≤ Duration.longest.nanos) →
      Spins ⟨start, begin (Session.new (Engine.new (Options.build settings)) r t) waiter start
        upcoming⟩ ds c →
      c.state.stage = .leaving .well → Grants c (Options.build settings).exitWait := by
  intro halways
  obtain ⟨ds, c, hspins, hleaving, -⟩ := idle_leaving (Options.build [.exitWait .longest])
  have hgrants := halways [.exitWait .longest] _ _ _ _ _ ds c (by simp) hspins hleaving
  exact (hspins.crashes_longest rfl rfl hleaving).not_grants hgrants

end Spin
end Gatehouse
