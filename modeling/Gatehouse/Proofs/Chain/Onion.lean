/-
# Runs follow their courses

`Exchange.run` moves one shared position through the chain: every handler that starts moves it on,
and the loop that started it goes on from wherever it finds the position afterwards.  This file
proves that what comes of it is the course of the chain.

Two things about a run are compared with the course:

* its events, in order (`runEvents`).  They are read off the run itself: each is put down in the
  state in which the run comes to it;
* its outcome.  It is what the events make of the exchange, one after the other (`replay`).

`runFor_follows` is the statement for a run from any position, and `run_eq_onion` the one for a
whole chain.  A position behind the chain, which is where an abort puts it when the chain is
shorter than `Chain.abortIndex`, is where a run has nothing left to do.
-/
import Gatehouse.Proofs.Chain.Course
import Gatehouse.Proofs.Context.Answer

namespace Gatehouse

/-! ## 1. What an event makes of an exchange -/

/-- The exchange after an event.  Coming to an action has the effect that the action has when
nothing is left behind its handler. -/
def Chain.Event.effect (d : Disk) (x : Exchange) : Event → Exchange
  | started i => x.update fun c => { c with index := i + 1 }
  | reached _ a => (Exchange.perform d (fun y => ⟨y, .returned⟩) x a).exchange
  | rescued _ => x.update fun c => c.writeInternalError.abort

namespace Exchange

open Chain (Event Course)
open Chain.Course
open Context (writeInternalError_rewrites)

/-- The exchange after events, one after the other. -/
def replay (d : Disk) (events : List Event) (x : Exchange) : Exchange :=
  events.foldl (Event.effect d) x

@[simp] theorem replay_nil (d : Disk) (x : Exchange) : replay d [] x = x := rfl

@[simp] theorem replay_cons (d : Disk) (e : Event) (es : List Event) (x : Exchange) :
    replay d (e :: es) x = replay d es (e.effect d x) := rfl

@[simp] theorem replay_append (d : Disk) (es fs : List Event) (x : Exchange) :
    replay d (es ++ fs) x = replay d fs (replay d es x) :=
  List.foldl_append

/-- Coming to a change to the answer leaves what the change leaves. -/
theorem context_effect_edit (d : Disk) (i : Nat) (e : Edit) (x : Exchange) :
    ((Event.reached i (.edit e)).effect d x).context = x.context.left (e.apply d x.context) := by
  simp only [Event.effect, perform]
  cases e.apply d x.context <;> rfl

/-- **An event moves the position and writes on the answer**, and changes nothing else of a
context. -/
theorem moves_effect (d : Disk) (e : Event) (x : Exchange) :
    x.context.Moves (e.effect d x).context := by
  cases e with
  | started i => exact ⟨_, _, rfl⟩
  | rescued i =>
    obtain ⟨response, hwritten⟩ := writeInternalError_rewrites x.context
    exact ⟨_, response, congrArg Context.abort hwritten⟩
  | reached i a =>
    cases a with
    | edit change =>
      rw [context_effect_edit]
      exact (change.left_rewrites d x.context).moves
    | abort code? => cases code? <;> exact ⟨_, _, rfl⟩
    | _ => exact ⟨_, _, rfl⟩

theorem moves_replay (d : Disk) (events : List Event) (x : Exchange) :
    x.context.Moves (replay d events x).context := by
  induction events generalizing x with
  | nil => exact .refl _
  | cons e events ih => exact (moves_effect d e x).trans (ih _)

/-! ## 2. The events of a run -/

/-- The events inside one action of the handler at `i`. -/
def performEvents (rest : Exchange → Outcome) (restEvents : Exchange → List Event) (i : Nat)
    (x : Exchange) : Action → List Event
  | .proceed => restEvents x
  | .guarded =>
    match (rest x).ending with
    | .panicked _ => restEvents x ++ [.rescued i]
    | _ => restEvents x
  | _ => []

/-- The events of a script of the handler at `i`. -/
def performAllEvents (d : Disk) (rest : Exchange → Outcome) (restEvents : Exchange → List Event)
    (i : Nat) : List Action → Exchange → List Event
  | [], _ => []
  | a :: as, x =>
    let o := perform d rest x a
    .reached i a :: performEvents rest restEvents i x a ++
      match o.ending with
      | .returned => performAllEvents d rest restEvents i as o.exchange
      | _ => []

/-- The events of a run from the position reached. -/
def runForEvents (d : Disk) : Nat → Exchange → List Event
  | 0, _ => []
  | fuel + 1, x =>
    match x.context.chain[x.context.index]? with
    | none => []
    | some h =>
      let started := x.update fun c => { c with index := c.index + 1 }
      let o := performAll d (runFor d fuel) h.script started
      .started x.context.index ::
          performAllEvents d (runFor d fuel) (runForEvents d fuel) x.context.index h.script
            started ++
        match o.ending with
        | .returned => runForEvents d fuel o.exchange
        | _ => []

def runEvents (d : Disk) (x : Exchange) : List Event :=
  runForEvents d (fuelFor x.context.chain) x

/-! ## 3. Following a course -/

/-- From `x`, a run follows a course: it has its events, its ending and what they make of `x`,
and once it has returned no handler of the chain is left. -/
structure Follows (d : Disk) (x : Exchange) (c : Course) (o : Outcome) (events : List Event) :
    Prop where
  events_eq : events = c.events
  outcome_eq : o = ⟨replay d c.events x, c.ending⟩
  past : c.ending = .returned → x.context.chain.length ≤ o.exchange.context.index

/-- A run from a position behind the chain does nothing. -/
theorem runFor_past (d : Disk) {fuel : Nat} {x : Exchange} (hfuel : 0 < fuel)
    (h : x.context.chain.length ≤ x.context.index) :
    Follows d x still (runFor d fuel x) (runForEvents d fuel x) := by
  obtain ⟨n, rfl⟩ := Nat.exists_eq_add_of_lt hfuel
  have hnone : x.context.chain[x.context.index]? = none := List.getElem?_eq_none h
  have hrun : runFor d (0 + n + 1) x = ⟨x, .returned⟩ := by rw [runFor, hnone]
  refine ⟨?_, ?_, ?_⟩
  · rw [runForEvents, hnone]; rfl
  · rw [hrun]; rfl
  · intro _
    rw [hrun]; exact h

/-- The rest of a script, and after it whatever handlers still wait. -/
def finishing (d : Disk) (rest : Exchange → Outcome) (as : List Action) (x : Exchange) : Outcome :=
  let o := performAll d rest as x
  match o.ending with
  | .returned => rest o.exchange
  | _ => o

/-- The events of the rest of a script, and after it of whatever handlers still wait. -/
def finishingEvents (d : Disk) (rest : Exchange → Outcome) (restEvents : Exchange → List Event)
    (i : Nat) (as : List Action) (x : Exchange) : List Event :=
  let o := performAll d rest as x
  performAllEvents d rest restEvents i as x ++
    match o.ending with
    | .returned => restEvents o.exchange
    | _ => []

theorem finishing_cons_of_returned {d : Disk} {rest : Exchange → Outcome}
    (restEvents : Exchange → List Event) (i : Nat) {a : Action} {x y : Exchange}
    (h : perform d rest x a = ⟨y, .returned⟩) (as : List Action) :
    finishing d rest (a :: as) x = finishing d rest as y ∧
      finishingEvents d rest restEvents i (a :: as) x =
        .reached i a :: (performEvents rest restEvents i x a ++
          finishingEvents d rest restEvents i as y) := by
  constructor
  · simp only [finishing, performAll, h]
  · simp only [finishingEvents, performAll, performAllEvents, h, List.cons_append,
      List.append_assoc]

theorem finishing_cons_of_not_returned {d : Disk} {rest : Exchange → Outcome}
    (restEvents : Exchange → List Event) (i : Nat) {a : Action} {x : Exchange}
    (h : (perform d rest x a).ending ≠ .returned) (as : List Action) :
    finishing d rest (a :: as) x = perform d rest x a ∧
      finishingEvents d rest restEvents i (a :: as) x =
        .reached i a :: performEvents rest restEvents i x a := by
  have hall : performAll d rest (a :: as) x = perform d rest x a := by
    simp only [performAll]
  constructor
  · simp only [finishing, hall]
  · simp only [finishingEvents, hall, performAllEvents, List.append_nil]

section Layer

variable {d : Disk} {rest : Exchange → Outcome} {restEvents : Exchange → List Event} {i : Nat}
  {behind : Course}

/-- One action and the rest of the script.  `inner` is what the action sets off. -/
theorem Follows.cons (inner : Course) {a : Action} {as : List Action} {x y : Exchange} {c : Course}
    (hperform : perform d rest x a = ⟨y, inner.ending⟩)
    (hy : y = replay d inner.events ((Event.reached i a).effect d x))
    (hevents : performEvents rest restEvents i x a = inner.events)
    (h : inner.ending = .returned →
      Follows d y c (finishing d rest as y) (finishingEvents d rest restEvents i as y)) :
    Follows d x (after (.reached i a) (inner.andThen c)) (finishing d rest (a :: as) x)
      (finishingEvents d rest restEvents i (a :: as) x) := by
  have hmoves : x.context.Moves y.context :=
    hy ▸ (moves_effect d (.reached i a) x).trans (moves_replay d inner.events _)
  by_cases hret : inner.ending = .returned
  · rw [hret] at hperform
    obtain ⟨hfin, hfinEvents⟩ := finishing_cons_of_returned restEvents i hperform as
    have hc := h hret
    rw [andThen_of_returned hret, hfin, hfinEvents, hevents]
    refine ⟨?_, ?_, ?_⟩
    · rw [after_events, hc.events_eq]
    · rw [hc.outcome_eq, after_events, after_ending, replay_cons, replay_append, ← hy]
    · intro he
      rw [← hmoves.chain]
      exact hc.past he
  · have hnot : (perform d rest x a).ending ≠ .returned := by rw [hperform]; exact hret
    obtain ⟨hfin, hfinEvents⟩ := finishing_cons_of_not_returned restEvents i hnot as
    rw [andThen_of_not_returned hret, hfin, hfinEvents, hevents, hperform]
    refine ⟨rfl, ?_, ?_⟩
    · rw [after_events, after_ending, replay_cons, ← hy]
    · intro he
      exact absurd he hret

/-- A handler that answers for a panic behind it aborts, and leaves every other ending alone. -/
theorem Follows.rescue {x : Exchange} (hshort : x.context.chain.length ≤ Chain.abortIndex)
    (h : Follows d x behind (rest x) (restEvents x)) :
    Follows d x (behind.rescue i) (recover (rest x))
      (performEvents rest restEvents i x .guarded) := by
  have hending : (rest x).ending = behind.ending := by rw [h.outcome_eq]
  -- with nothing to answer for, course, outcome and events all stay as they are
  have hquiet : (∀ p, behind.ending ≠ .panicked p) → Follows d x (behind.rescue i)
      (recover (rest x)) (performEvents rest restEvents i x .guarded) := by
    intro hne
    have hrescue : behind.rescue i = behind := by
      unfold Course.rescue
      split
      · exact absurd ‹_› (hne _)
      · rfl
    have hrecover : recover (rest x) = rest x := by
      unfold recover
      split
      · exact absurd (hending.symm.trans ‹_›) (hne _)
      · rfl
    have hevents : performEvents rest restEvents i x .guarded = restEvents x := by
      simp only [performEvents]
      split
      · exact absurd (hending.symm.trans ‹_›) (hne _)
      · rfl
    rw [hrescue, hrecover, hevents]
    exact h
  cases he : behind.ending with
  | panicked p =>
    have hrescue : behind.rescue i = ⟨behind.events ++ [.rescued i], .returned⟩ := by
      simp only [Course.rescue, he]
    have hrecover : recover (rest x) =
        ⟨(replay d behind.events x).update fun c => c.writeInternalError.abort, .returned⟩ := by
      simp only [recover, h.outcome_eq, he]
    rw [hrescue, hrecover]
    refine ⟨?_, ?_, fun _ => hshort⟩
    · simp only [performEvents, hending, he, h.events_eq]
    · rw [replay_append]; rfl
  | returned => exact hquiet (by simp [he])
  | unfinished => exact hquiet (by simp [he])

/-- An action that runs what `inner` is the course of, and then the rest of the script. -/
theorem Follows.cons_of_inner {a : Action} {as : List Action} {x : Exchange} {inner c : Course}
    (hinner : Follows d x inner (perform d rest x a) (performEvents rest restEvents i x a))
    (heffect : (Event.reached i a).effect d x = x)
    (h : ∀ y : Exchange, x.context.Moves y.context →
      x.context.chain.length ≤ y.context.index →
      Follows d y c (finishing d rest as y) (finishingEvents d rest restEvents i as y)) :
    Follows d x (after (.reached i a) (inner.andThen c)) (finishing d rest (a :: as) x)
      (finishingEvents d rest restEvents i (a :: as) x) := by
  have hpast := hinner.past
  rw [hinner.outcome_eq] at hpast
  refine Follows.cons inner hinner.outcome_eq ?_ hinner.events_eq fun hret => ?_
  · rw [heffect]
  · exact h _ (moves_replay d inner.events x) (hpast hret)

/-- A change to the answer, and then the rest of the script unless it ends in a panic. -/
theorem Follows.cons_of_edit {e : Edit} {as : List Action} {x : Exchange} {c : Course}
    {waiting : Bool}
    (h : ∀ y : Exchange, x.context.Rewrites y.context →
      Follows d y c (finishing d rest as y) (finishingEvents d rest restEvents i as y)) :
    Follows d x (after (.reached i (.edit e))
        ((inside (Edit.panic? d x.context.params) i behind waiting (.edit e)).andThen c))
      (finishing d rest (.edit e :: as) x)
      (finishingEvents d rest restEvents i (.edit e :: as) x) := by
  have hpanics : (Action.edit e).panic? (Edit.panic? d x.context.params) =
      e.panic? d x.context.params := rfl
  cases hwritten : e.apply d x.context with
  | ok c' =>
    have hcalm : e.panic? d x.context.params = none := by
      refine Option.eq_none_iff_forall_ne_some.mpr fun p hpanic => ?_
      rw [Edit.apply_eq_error_iff.mpr hpanic] at hwritten
      cases hwritten
    rw [inside_still (hpanics.trans hcalm) (.inr ⟨by simp, by simp⟩)]
    have hperform : perform d rest x (.edit e) = ⟨{ x with context := c' }, .returned⟩ := by
      simp only [perform, hwritten]
    refine Follows.cons still hperform ?_ rfl fun _ => h _ (Edit.apply_rewrites hwritten)
    simp only [still, replay_nil, Event.effect, perform, hwritten]
  | error p =>
    have hpanic : e.panic? d x.context.params = some p := Edit.apply_eq_error_iff.mp hwritten
    rw [inside_of_panic (hpanics.trans hpanic)]
    have hperform : perform d rest x (.edit e) = ⟨x, .panicked p⟩ := by
      simp only [perform, hwritten]
    refine Follows.cons ⟨[], .panicked p⟩ hperform ?_ rfl fun hret => absurd hret (by simp)
    simp only [replay_nil, Event.effect, perform, hwritten]

/-- **A script follows its layer.**  While the handlers behind wait, the position is theirs; once
they do not, it is behind the chain, and proceeding does nothing. -/
theorem finishing_follows {start : Context} (hshort : start.chain.length ≤ Chain.abortIndex)
    (hbehind : ∀ y, start.Moves y.context → y.context.index = i + 1 →
      Follows d y behind (rest y) (restEvents y))
    (hpast : ∀ y, start.Moves y.context → start.chain.length ≤ y.context.index →
      Follows d y still (rest y) (restEvents y)) :
    ∀ (as : List Action) (waiting : Bool) (x : Exchange), start.Moves x.context →
      (waiting = true → x.context.index = i + 1) →
      (waiting = false → start.chain.length ≤ x.context.index) →
      Follows d x (layer (Edit.panic? d start.params) i behind waiting as) (finishing d rest as x)
        (finishingEvents d rest restEvents i as x)
  | [], true, x, hx, hwait, _ => by
    simpa [finishing, finishingEvents, performAll, performAllEvents, layer]
      using hbehind x hx (hwait rfl)
  | [], false, x, hx, _, hdone => by
    simpa [finishing, finishingEvents, performAll, performAllEvents, layer]
      using hpast x hx (hdone rfl)
  | a :: as, waiting, x, hx, hwait, hdone => by
    have ih := finishing_follows hshort hbehind hpast as
    -- behind the chain for good, whether by a run of the rest or by an abort
    have hover : ∀ y : Exchange, x.context.Moves y.context →
        x.context.chain.length ≤ y.context.index →
        Follows d y (layer (Edit.panic? d start.params) i behind false as) (finishing d rest as y)
          (finishingEvents d rest restEvents i as y) :=
      fun y hy hidx => ih false y (hx.trans hy) (by simp) fun _ => hx.chain ▸ hidx
    have hshort' : x.context.chain.length ≤ Chain.abortIndex := hx.chain ▸ hshort
    cases a with
    | proceed =>
      cases waiting with
      | true => exact (hbehind x hx (hwait rfl)).cons_of_inner rfl hover
      | false => exact (hpast x hx (hdone rfl)).cons_of_inner rfl hover
    | guarded =>
      cases waiting with
      | true => exact ((hbehind x hx (hwait rfl)).rescue hshort').cons_of_inner rfl hover
      | false => exact ((hpast x hx (hdone rfl)).rescue hshort').cons_of_inner rfl hover
    | abort code? =>
      cases code? with
      | none => exact Follows.cons still rfl rfl rfl fun _ => hover _ ⟨_, _, rfl⟩ hshort'
      | some code => exact Follows.cons still rfl rfl rfl fun _ => hover _ ⟨_, _, rfl⟩ hshort'
    | edit e =>
      rw [← hx.params]
      refine Follows.cons_of_edit fun y hy => ?_
      rw [hx.params]
      exact ih waiting y (hx.trans hy.moves) (fun hw => hy.index.trans (hwait hw))
        fun hw => hy.index.symm ▸ hdone hw
    | note p => exact Follows.cons still rfl rfl rfl fun _ => ih waiting _ hx hwait hdone
    | panic p =>
      exact Follows.cons ⟨[], .panicked p⟩ rfl rfl rfl fun hret => absurd hret (by simp)

end Layer

/-! ## 4. Whole runs -/

/-- **A run follows the course of the handlers that are left**, from any position, as long as it
has more fuel than there are handlers left. -/
theorem runFor_follows (d : Disk) :
    ∀ (hs : Chain) (fuel : Nat) (x : Exchange), x.context.chain.drop x.context.index = hs →
      x.context.chain.length ≤ Chain.abortIndex → hs.length < fuel →
      Follows d x (Chain.courseFrom (Edit.panic? d x.context.params) x.context.index hs)
        (runFor d fuel x) (runForEvents d fuel x)
  | [], fuel, x, hdrop, _, hfuel =>
    runFor_past d (Nat.zero_lt_of_lt hfuel) (List.drop_eq_nil_iff.mp hdrop)
  | h :: hs, 0, _, _, _, hfuel => absurd hfuel (Nat.not_lt_zero _)
  | h :: hs, fuel + 1, x, hdrop, hshort, hfuel => by
    have hfuel' : hs.length < fuel := Nat.lt_of_succ_lt_succ hfuel
    have hget : x.context.chain[x.context.index]? = some h := by
      rw [← List.head?_drop, hdrop, List.head?_cons]
    have hdrop' : x.context.chain.drop (x.context.index + 1) = hs := by
      rw [← List.tail_drop, hdrop, List.tail_cons]
    -- the rest of the chain as the script finds it: the handlers behind, or nobody once the
    -- position lies behind the chain
    have hbehind : ∀ y : Exchange, x.context.Moves y.context →
        y.context.index = x.context.index + 1 →
        Follows d y
          (Chain.courseFrom (Edit.panic? d x.context.params) (x.context.index + 1) hs)
          (runFor d fuel y) (runForEvents d fuel y) := by
      intro y hy hidx
      have hfollows := runFor_follows d hs fuel y (by rw [hy.chain, hidx, hdrop'])
        (hy.chain ▸ hshort) hfuel'
      rwa [hy.params, hidx] at hfollows
    have hpast : ∀ y : Exchange, x.context.Moves y.context →
        x.context.chain.length ≤ y.context.index →
        Follows d y still (runFor d fuel y) (runForEvents d fuel y) :=
      fun y hy hidx => runFor_past d (Nat.zero_lt_of_lt hfuel') (hy.chain ▸ hidx)
    have hstarted := finishing_follows hshort hbehind hpast h.script true
      (x.update fun c => { c with index := c.index + 1 }) ⟨_, _, rfl⟩ (fun _ => rfl) (by simp)
    have hrun : runFor d (fuel + 1) x = finishing d (runFor d fuel) h.script
        (x.update fun c => { c with index := c.index + 1 }) := by
      rw [runFor, hget]; rfl
    have hevents : runForEvents d (fuel + 1) x = .started x.context.index ::
        finishingEvents d (runFor d fuel) (runForEvents d fuel) x.context.index h.script
          (x.update fun c => { c with index := c.index + 1 }) := by
      rw [runForEvents, hget]; rfl
    rw [hrun, hevents, Chain.courseFrom]
    refine ⟨?_, hstarted.outcome_eq, hstarted.past⟩
    rw [after_events, hstarted.events_eq]

def course (d : Disk) (x : Exchange) : Course :=
  x.context.chain.course (Edit.panic? d x.context.params)

/-- No action of the handlers of an exchange panics by itself. -/
def Calm (d : Disk) (x : Exchange) : Prop :=
  x.context.chain.Calm (Edit.panic? d x.context.params)

/-- A run from the beginning of a chain follows its course, panics included. -/
theorem run_follows (d : Disk) {x : Exchange} (hstart : x.context.index = 0)
    (hshort : x.context.chain.length < Chain.abortIndex) :
    Follows d x (x.course d) (x.run d) (x.runEvents d) := by
  have hfuel : x.context.chain.length < fuelFor x.context.chain := by
    rw [fuelFor, Chain.abortIndex]
    omega
  have h := runFor_follows d x.context.chain (fuelFor x.context.chain) x
    (by rw [hstart, List.drop_zero]) (Nat.le_of_lt hshort) hfuel
  rw [hstart] at h
  exact h

/-- **Running a chain from its beginning is the onion of its handlers.**  The events of the run
are those of the course, its outcome is what they make of the exchange, and it ends as the course
ends, never for want of fuel.  When no action panics it returns, and its events are orderly. -/
theorem run_eq_onion (d : Disk) (x : Exchange) (hstart : x.context.index = 0)
    (hshort : x.context.chain.length < Chain.abortIndex) :
    x.runEvents d = (x.course d).events ∧
      x.run d = ⟨replay d (x.course d).events x, (x.course d).ending⟩ ∧
      (x.run d).ending ≠ .unfinished ∧
      (x.Calm d →
        (x.run d).ending = .returned ∧ x.context.chain.Orderly (x.runEvents d)) := by
  have h := run_follows d hstart hshort
  refine ⟨h.events_eq, h.outcome_eq, ?_, fun hcalm => ⟨?_, ?_⟩⟩
  · rw [h.outcome_eq]
    exact Chain.courseFrom_finished _ 0 _
  · rw [h.outcome_eq]
    exact Chain.courseFrom_returned hcalm
  · rw [h.events_eq]
    exact Chain.course_orderly hcalm

/-- Three handlers: the first proceeds twice, the second aborts before it proceeds. -/
def abortedBetween : Chain :=
  [⟨"watch", [.proceed, .note .state, .proceed]⟩,
    ⟨"deny", [.abort (some 401), .proceed, .note .body]⟩,
    ⟨"show", [.note .requestId]⟩]

def atStart (hs : Chain) : Exchange :=
  ⟨(Context.fresh ⟨0, 0, 0⟩ ⟨Method.GET, "/", [], []⟩).meet "/" [] hs, []⟩

/-- The second handler's abort keeps the third from starting; both others come to their ends. -/
theorem run_abortedBetween :
    (atStart abortedBetween).context.index = 0 ∧
      (atStart abortedBetween).context.chain.length < Chain.abortIndex ∧
      (atStart abortedBetween).Calm Disk.bare ∧
      Event.starts ((atStart abortedBetween).runEvents Disk.bare) = [0, 1] ∧
      ((atStart abortedBetween).run Disk.bare).ending = .returned ∧
      Event.actionsAt 1 ((atStart abortedBetween).runEvents Disk.bare) =
        [.abort (some 401), .proceed, .note .body] := by
  have hcalm : (atStart abortedBetween).Calm Disk.bare := by
    intro h hh a ha
    simp only [atStart, Context.meet, abortedBetween, List.mem_cons, List.not_mem_nil,
      or_false] at hh
    rcases hh with rfl | rfl | rfl <;> revert a <;> simp [Action.panic?]
  obtain ⟨hevents, -, -, hreturned⟩ :=
    run_eq_onion Disk.bare (atStart abortedBetween) rfl (by decide)
  refine ⟨rfl, by decide, hcalm, ?_, (hreturned hcalm).1, ?_⟩
  · rw [hevents]; rfl
  · rw [hevents]; rfl

end Exchange
end Gatehouse
