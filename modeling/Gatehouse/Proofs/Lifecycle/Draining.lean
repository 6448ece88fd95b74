/-
# Drains

A drain tells a listener's loop to stop, and waits until no connection is live.  The loop goes its
own way: until it looks at what it has been told, it may take one more connection from its backlog,
and then another.  It looks at nothing while it rests behind a failed accept.

* `AcceptLoop.turn_of_step?`: **all that a listener can do**;
* `AcceptLoop.Runs.sound`: **the tracker counts the live connections**, whatever happens in whatever
  order;
* `AcceptLoop.drain_final_iff`: **a drain that ends well leaves no connection live, and is the end
  of accepting exactly if the loop has ended by then**.  What is live afterwards has been accepted
  afterwards, and the loop can end whenever it does not rest;
* `AcceptLoop.not_drain_final`: the drain alone is not the end of accepting.
-/
import Gatehouse.Lifecycle.AcceptLoop
import Gatehouse.Proofs.Lifecycle.Interleaving
import Mathlib.Data.List.Induction

namespace Gatehouse

/-! ## 1. What a listener can do -/

/-- A connection comes to its end. -/
def AcceptMove.ends : AcceptMove → Bool
  | finish _ | drop _ => true
  | _ => false

namespace AcceptLoop

def live (l : AcceptLoop) : Nat := l.connections.countP (· ≠ .gone)

/-- What a listener can do, each case with the listener behind it. -/
inductive Turn (now : Instant) (l : AcceptLoop) : AcceptMove → AcceptLoop → Prop
  | arrived (hrunning : l.running = true) : Turn now l .arrive { l with backlog := l.backlog + 1 }
  | withdrawn (hwaits : 0 < l.backlog) : Turn now l .withdraw { l with backlog := l.backlog - 1 }
  | accepted (hlistening : l.stage = .listening) (hwaits : 0 < l.backlog) :
      Turn now l .accept { l with
        backlog := l.backlog - 1
        connections := l.connections ++ [.serving]
        tracker := l.tracker.acquire }
  | failed (hlistening : l.stage = .listening) :
      Turn now l .fail { l with stage := .resting (Instant.timer now backOff) }
  | resumed {rested : Instant} (hresting : l.stage = .resting rested) (hrested : rested ≤ now) :
      Turn now l .resume { l with stage := .listening }
  | left (hlistening : l.stage = .listening) (htold : l.isTold = true) :
      Turn now l .leave { l with stage := .ended, backlog := 0 }
  | noticed {i : Nat} (hserving : l.connections[i]? = some .serving) :
      Turn now l (.notice i) { l with connections := l.connections.set i .draining }
  | lost {i : Nat} {m : AcceptMove} {stage : ConnectionStage} (hends : m.ends = true)
      (hstage : l.connections[i]? = some stage) (hlive : stage ≠ .gone) : Turn now l m (l.lose i)
  | begun (deadline : Instant) (habsent : l.drain = .absent) :
      Turn now l (.beginDrain deadline) { l.stop with drain := .waiting deadline .fresh }
  | drained {deadline : Instant} {idle : IdleWait} (hdrain : l.drain = .waiting deadline idle)
      (hidle : idle.poll l.tracker = .returned) :
      Turn now l .pollDrain { l with drain := .returned .well }
  | expired {deadline : Instant} {idle : IdleWait} (hdrain : l.drain = .waiting deadline idle)
      (hlate : Instant.tick deadline ≤ now) :
      Turn now l .pollDrain { l with drain := .returned (.failed .shutdownTimeout) }
  | waited {deadline : Instant} {idle polled : IdleWait} (hdrain : l.drain = .waiting deadline idle)
      (hbusy : polled ≠ .returned) :
      Turn now l .pollDrain { l with drain := .waiting deadline polled }
  | closed : Turn now l .close l.close

variable {now : Instant} {l l' : AcceptLoop} {m : AcceptMove}

theorem turn_of_pollDrain? (h : l.pollDrain? now = some l') : l.Turn now .pollDrain l' := by
  unfold pollDrain? at h
  split at h
  · rename_i deadline idle hdrain
    split at h
    · rename_i hidle
      cases h
      exact .drained hdrain hidle
    · rename_i hbusy
      split at h
      · rename_i hlate
        cases h
        exact .expired hdrain hlate
      · cases h
        exact .waited hdrain hbusy
  · cases h

/-- **All that a listener can do.** -/
theorem turn_of_step? (h : l.step? now m = some l') : l.Turn now m l' := by
  cases m with
  | arrive =>
    obtain ⟨hrunning, heq⟩ := Option.ite_none_right_eq_some.mp h
    cases heq
    exact .arrived hrunning
  | withdraw =>
    obtain ⟨hwaits, heq⟩ := Option.ite_none_right_eq_some.mp h
    cases heq
    exact .withdrawn hwaits
  | accept =>
    obtain ⟨hcan, heq⟩ := Option.ite_none_right_eq_some.mp h
    cases heq
    obtain ⟨hlistening, hwaits⟩ := Bool.and_eq_true_iff.mp hcan
    exact .accepted (of_decide_eq_true hlistening) (of_decide_eq_true hwaits)
  | fail =>
    obtain ⟨hlistening, heq⟩ := Option.ite_none_right_eq_some.mp h
    cases heq
    exact .failed hlistening
  | resume =>
    simp only [step?] at h
    split at h
    · rename_i rested hresting
      obtain ⟨hrested, heq⟩ := Option.ite_none_right_eq_some.mp h
      cases heq
      exact .resumed hresting hrested
    · cases h
  | leave =>
    obtain ⟨hcan, heq⟩ := Option.ite_none_right_eq_some.mp h
    cases heq
    obtain ⟨hlistening, htold⟩ := Bool.and_eq_true_iff.mp hcan
    exact .left (of_decide_eq_true hlistening) htold
  | notice i =>
    obtain ⟨hcan, heq⟩ := Option.ite_none_right_eq_some.mp h
    cases heq
    obtain ⟨-, hserving⟩ := Bool.and_eq_true_iff.mp hcan
    exact .noticed (of_decide_eq_true hserving)
  | finish i =>
    simp only [step?] at h
    split at h <;> cases h
    · exact .lost rfl (by assumption) (by simp)
    · exact .lost rfl (by assumption) (by simp)
  | drop i =>
    simp only [step?] at h
    split at h <;> cases h
    · exact .lost rfl (by assumption) (by simp)
    · exact .lost rfl (by assumption) (by simp)
  | beginDrain deadline =>
    obtain ⟨habsent, heq⟩ := Option.ite_none_right_eq_some.mp h
    cases heq
    exact .begun deadline habsent
  | pollDrain => exact turn_of_pollDrain? h
  | close =>
    cases h
    exact .closed

/-! ## 2. Counting connections -/

/-- Putting a connection elsewhere changes the count of the live ones by what it was and what it
is. -/
theorem countP_set_live {connections : List ConnectionStage} {i : Nat} {stage : ConnectionStage}
    (hstage : connections[i]? = some stage) (hlive : stage ≠ .gone) (stage' : ConnectionStage) :
    (connections.set i stage').countP (· ≠ .gone) + 1 =
      connections.countP (· ≠ .gone) + if stage' ≠ .gone then 1 else 0 := by
  have hcount := Interleaving.countP_set_add (p := (· ≠ .gone)) hstage stage'
  simpa [hlive] using hcount

/-- **What is live changes by accepting and ending alone.** -/
theorem Turn.live_eq (h : l.Turn now m l') :
    l'.live + (if m.ends then 1 else 0) = l.live + if m = .accept then 1 else 0 := by
  cases h with
  | accepted hlistening hwaits => simp [live, AcceptMove.ends]
  | noticed hserving =>
    have hcount := countP_set_live hserving (by simp) .draining
    simp only [AcceptMove.ends, live] at hcount ⊢
    simpa using hcount
  | lost hends hstage hlive =>
    have hcount := countP_set_live hstage hlive .gone
    have hother : m ≠ .accept := by
      rintro rfl
      cases hends
    simpa [hends, hother, live, lose] using hcount
  | _ => rfl

theorem active_release {t : Tracker} (h : 0 < t.active) : t.release.active + 1 = t.active := by
  unfold Tracker.release
  split
  · simp only [Tracker.wake, Tracker.lower]
    omega
  · simp only [Tracker.lower]
    omega

/-- Someone who waits returns only from a look at a count of zero. -/
theorem active_eq_zero_of_poll {w : IdleWait} {t : Tracker} (hbusy : w ≠ .returned)
    (h : w.poll t = .returned) : t.active = 0 := by
  refine Classical.byContradiction fun hactive => ?_
  cases w with
  | fresh => simp [IdleWait.poll, IdleWait.wake, IdleWait.arm, IdleWait.look, hactive] at h
  | armed since => simp [IdleWait.poll, IdleWait.wake, IdleWait.arm, IdleWait.look, hactive] at h
  | parked since =>
    simp only [IdleWait.poll, IdleWait.wake] at h
    split at h <;> simp [IdleWait.arm, IdleWait.look, hactive] at h
  | returned => exact hbusy rfl

/-- What holds of a listener at any moment. -/
structure Sound (l : AcceptLoop) : Prop where
  /-- Every live connection holds a token, and nobody else does. -/
  active : l.tracker.active = l.live
  /-- A drain has told the listener to stop. -/
  told : l.drain ≠ .absent → l.stopping = true
  /-- A drain that waits has not seen that nothing is live. -/
  busy : ∀ deadline idle, l.drain = .waiting deadline idle → idle ≠ .returned

theorem sound_new : Sound new where
  active := rfl
  told h := absurd rfl h
  busy _ _ h := by cases h

/-- **Every step keeps a listener sound.** -/
theorem Sound.turn (hsound : l.Sound) (h : l.Turn now m l') : l'.Sound := by
  have hlive := h.live_eq
  cases h with
  | accepted hlistening hwaits =>
    refine ⟨?_, hsound.told, hsound.busy⟩
    simp only [AcceptMove.ends, if_true] at hlive
    simp only [Tracker.acquire, hsound.active]
    exact hlive.symm
  | noticed hserving =>
    exact ⟨hsound.active.trans hlive.symm, hsound.told, hsound.busy⟩
  | lost hends hstage hgone =>
    refine ⟨?_, hsound.told, hsound.busy⟩
    have hother : m ≠ .accept := by
      rintro rfl
      cases hends
    simp only [hends, hother, if_true, if_false] at hlive
    have hpos : 0 < l.tracker.active := by
      rw [hsound.active]
      omega
    have hrelease := active_release hpos
    rw [hsound.active] at hrelease
    show l.tracker.release.active = _
    omega
  | begun deadline habsent =>
    refine ⟨hsound.active, fun _ => rfl, fun _ _ hdrain => ?_⟩
    cases hdrain
    simp
  | drained hdrain hidle =>
    exact ⟨hsound.active, fun _ => hsound.told (by simp [hdrain]), fun _ _ h => by cases h⟩
  | expired hdrain hlate =>
    exact ⟨hsound.active, fun _ => hsound.told (by simp [hdrain]), fun _ _ h => by cases h⟩
  | waited hdrain hbusy =>
    refine ⟨hsound.active, fun _ => hsound.told (by simp [hdrain]), fun _ _ h => ?_⟩
    cases h
    exact hbusy
  | _ => exact ⟨hsound.active, hsound.told, hsound.busy⟩

/-! ## 3. Executions -/

/-- A listener comes from one moment to another by these moves, in order, with the clock going on as
it likes in between. -/
inductive Runs (c : Clocked AcceptLoop) : List AcceptMove → Clocked AcceptLoop → Prop
  | here : Runs c [] c
  | move {ms : List AcceptMove} {c₁ : Clocked AcceptLoop} {m : AcceptMove} {l : AcceptLoop}
      (before : Runs c ms c₁) (hstep : c₁.state.step? c₁.now m = some l) :
      Runs c (ms ++ [m]) ⟨c₁.now, l⟩
  | wait {ms : List AcceptMove} {c₁ : Clocked AcceptLoop} {t : Instant} (before : Runs c ms c₁)
      (hlater : c₁.now ≤ t) : Runs c ms ⟨t, c₁.state⟩

variable {c c' : Clocked AcceptLoop} {ms : List AcceptMove}

theorem running_eq_false_iff : l.running = false ↔ l.stage = .ended := by
  simp [running]

namespace Runs

theorem trans {c'' : Clocked AcceptLoop} {ms' : List AcceptMove} (h : Runs c ms c')
    (h' : Runs c' ms' c'') : Runs c (ms ++ ms') c'' := by
  induction h' with
  | here => simpa using h
  | move before hstep ih => simpa using ih.move hstep
  | wait before hlater ih => exact ih.wait hlater

/-- **What every step keeps, every execution keeps.** -/
theorem invariant {I : List AcceptMove → AcceptLoop → Prop} (hstart : I [] c.state)
    (hstep : ∀ now ms l m l', I ms l → l.Turn now m l' → I (ms ++ [m]) l') (h : Runs c ms c') :
    I ms c'.state := by
  induction h with
  | here => exact hstart
  | move before hmove ih => exact hstep _ _ _ _ _ ih (turn_of_step? hmove)
  | wait before hlater ih => exact ih

/-- **The tracker counts the live connections** at every moment. -/
theorem sound (hstart : c.state.Sound) (h : Runs c ms c') : c'.state.Sound :=
  h.invariant (I := fun _ l => l.Sound) hstart fun _ _ _ _ _ hsound hturn => hsound.turn hturn

/-- What is live was live before or has been accepted since. -/
theorem live_eq (h : Runs c ms c') :
    c'.state.live + ms.countP AcceptMove.ends = c.state.live + ms.count .accept := by
  refine h.invariant
    (I := fun ms l => l.live + ms.countP AcceptMove.ends = c.state.live + ms.count .accept) rfl ?_
  intro now ms l m l' heq hturn
  have hlive := hturn.live_eq
  rw [List.countP_append, List.count_append, List.countP_singleton, List.count_singleton]
  simp only [beq_iff_eq]
  omega

/-- **A loop that has ended accepts nothing any more.** -/
theorem accept_not_mem (hended : c.state.running = false) (h : Runs c ms c') :
    .accept ∉ ms := by
  have hkept : c'.state.stage = .ended ∧ .accept ∉ ms := by
    refine h.invariant (I := fun ms l => l.stage = .ended ∧ .accept ∉ ms)
      ⟨running_eq_false_iff.mp hended, List.not_mem_nil⟩ ?_
    rintro now ms l m l' ⟨hstage, hms⟩ hturn
    cases hturn with
    | accepted hlistening _ => exact absurd (hlistening.symm.trans hstage) (by simp)
    | failed hlistening => exact absurd (hlistening.symm.trans hstage) (by simp)
    | resumed hresting _ => exact absurd (hresting.symm.trans hstage) (by simp)
    | left hlistening _ => exact absurd (hlistening.symm.trans hstage) (by simp)
    | lost hends _ _ =>
      refine ⟨hstage, ?_⟩
      have hother : m ≠ .accept := by
        rintro rfl
        cases hends
      simpa [hms] using hother.symm
    | _ => exact ⟨hstage, by simpa using hms⟩
  exact hkept.2

theorem stopping_eq (hstopping : c.state.stopping = true) (h : Runs c ms c') :
    c'.state.stopping = true := by
  refine h.invariant (I := fun _ l => l.stopping = true) hstopping ?_
  intro now ms l m l' hstop hturn
  cases hturn <;> first | exact hstop | rfl

/-- **A loop never rests for longer than its back-off**, counted from any moment at which it
rests. -/
theorem resting_le (hstart : c.state.stage = .listening) (h : Runs c ms c') {rested : Instant}
    (hresting : c'.state.stage = .resting rested) : rested ≤ Instant.timer c'.now backOff := by
  induction h with
  | here => cases hstart.symm.trans hresting
  | wait before hlater ih => exact Nat.le_trans (ih hresting) (Instant.timer_mono hlater backOff)
  | move before hmove ih =>
    cases turn_of_step? hmove with
    | failed hlistening =>
      cases hresting
      exact Nat.le_refl _
    | resumed _ _ => cases hresting
    | left _ _ => cases hresting
    | _ => exact ih hresting

end Runs

/-- Carries out moves one after the other at one moment, as far as each of them is possible. -/
def steps? (now : Instant) (l : AcceptLoop) (ms : List AcceptMove) : Option AcceptLoop :=
  ms.foldlM (AcceptLoop.step? now) l

theorem runs_of_steps? {l l' : AcceptLoop} (h : l.steps? now ms = some l') :
    Runs ⟨now, l⟩ ms ⟨now, l'⟩ := by
  induction ms using List.reverseRecOn generalizing l' with
  | nil =>
    cases h
    exact .here
  | append_singleton ms m ih =>
    rw [steps?, List.foldlM_append] at h
    obtain ⟨l₁, hfirst, hlast⟩ := Option.bind_eq_some_iff.mp h
    rw [List.foldlM_cons] at hlast
    obtain ⟨l₂, hstep, hnil⟩ := Option.bind_eq_some_iff.mp hlast
    cases hnil
    exact (ih hfirst).move hstep

/-! ## 4. Drains that end well -/

/-- A loop that runs is going to listen: at once, or when it has rested. -/
theorem runs_listening {l : AcceptLoop} (hrunning : l.running = true) (now : Instant) :
    ∃ ms t, Runs ⟨now, l⟩ ms ⟨t, { l with stage := .listening }⟩ := by
  cases hstage : l.stage with
  | listening =>
    have heq : { l with stage := .listening } = l := by rw [← hstage]
    exact ⟨[], now, heq ▸ .here⟩
  | resting rested =>
    have hwaited : Runs ⟨now, l⟩ [] ⟨max now rested, l⟩ := Runs.here.wait (Nat.le_max_left _ _)
    have hcan : l.step? (max now rested) .resume = some { l with stage := .listening } := by
      simp only [step?, hstage, if_pos (Nat.le_max_right now rested)]
    exact ⟨_, _, hwaited.move hcan⟩
  | ended => exact absurd (running_eq_false_iff.mpr hstage) (by simp [hrunning])

/-- A loop that runs can still accept. -/
theorem runs_accept {l : AcceptLoop} (hrunning : l.running = true) (now : Instant) :
    ∃ ms c', Runs ⟨now, l⟩ ms c' ∧ .accept ∈ ms := by
  obtain ⟨ms, t, hruns⟩ := runs_listening hrunning now
  have harrive : ({ l with stage := .listening } : AcceptLoop).step? t .arrive =
      some { l with stage := .listening, backlog := l.backlog + 1 } := by
    simp [step?, running]
  have haccept : ({ l with stage := .listening, backlog := l.backlog + 1 } : AcceptLoop).step? t
      .accept = some { l with
        stage := .listening
        connections := l.connections ++ [.serving]
        tracker := l.tracker.acquire } := by
    simp [step?]
  exact ⟨_, _, (hruns.move harrive).move haccept, by simp⟩

/-- A loop that has been told to end can do so exactly while it listens. -/
theorem leave_iff (htold : l.isTold = true) :
    l.step? now .leave = some { l with stage := .ended, backlog := 0 } ↔ l.stage = .listening := by
  simp [step?, htold]

/-- A loop that rests, and has been told to end, can do so at any moment from when it has rested. -/
theorem runs_ended {rested t : Instant} (htold : l.isTold = true)
    (hresting : l.stage = .resting rested) (hlater : now ≤ t) (hrested : rested ≤ t) :
    Runs ⟨now, l⟩ [.resume, .leave] ⟨t, { l with stage := .ended, backlog := 0 }⟩ := by
  have hresume : l.step? t .resume = some { l with stage := .listening } := by
    simp [step?, hresting, hrested]
  have hleave : ({ l with stage := .listening } : AcceptLoop).step? t .leave =
      some { l with stage := .ended, backlog := 0 } :=
    (leave_iff (l := { l with stage := .listening }) htold).mpr rfl
  exact ((Runs.here.wait hlater).move hresume).move hleave

/-- **A drain that ends well** does so when no connection is live, and has told the loop to stop.
From then on the tracker counts what has been accepted since and has not ended; the loop can end
whenever it does not rest, which it does for no longer than its back-off, and accepts nothing once
it has ended.  So the drain is the end of accepting exactly if the loop has ended by then. -/
theorem drain_final_iff {start : Instant} {l : AcceptLoop} (h : Runs ⟨start, new⟩ ms c)
    (hpoll : c.state.step? c.now .pollDrain = some l) (hwell : l.drain = .returned .well) :
    l.live = 0 ∧ l.tracker.active = 0 ∧ l.stopping = true ∧
      (∀ ms' c', Runs ⟨c.now, l⟩ ms' c' →
        c'.state.tracker.active = c'.state.live ∧
          c'.state.live + ms'.countP AcceptMove.ends = ms'.count .accept ∧
          (c'.state.step? c'.now .leave = some { c'.state with stage := .ended, backlog := 0 } ↔
            c'.state.stage = .listening) ∧
          (∀ rested, c'.state.stage = .resting rested → rested ≤ Instant.timer c'.now backOff ∧
            ∀ t, c'.now ≤ t → rested ≤ t → Runs c' [.resume, .leave]
              ⟨t, { c'.state with stage := .ended, backlog := 0 }⟩) ∧
          (c'.state.running = false → ∀ ms'' c'', Runs c' ms'' c'' → .accept ∉ ms'')) ∧
      ((∀ ms' c', Runs ⟨c.now, l⟩ ms' c' → .accept ∉ ms' ∧ c'.state.tracker.active = 0) ↔
        l.running = false) := by
  have hbefore := h.sound sound_new
  have hturn := turn_of_step? hpoll
  have hsound := hbefore.turn hturn
  -- of the turns that a poll can be, only the one that has looked at a count of zero ends it well
  have hactive : l.tracker.active = 0 := by
    cases hturn with
    | lost hends _ _ => cases hends
    | drained hdrain hidle => exact active_eq_zero_of_poll (hbefore.busy _ _ hdrain) hidle
    | expired hdrain hlate => cases hwell
    | waited hdrain hbusy => cases hwell
  have hlive : l.live = 0 := hsound.active.symm.trans hactive
  have hstopping : l.stopping = true := hsound.told (by simp [hwell])
  -- from a count of zero on, all that is live has been accepted since
  have hsince : ∀ ms' c', Runs ⟨c.now, l⟩ ms' c' →
      c'.state.tracker.active = c'.state.live ∧
        c'.state.live + ms'.countP AcceptMove.ends = ms'.count .accept := by
    intro ms' c' hruns
    have heq := hruns.live_eq
    rw [hlive, Nat.zero_add] at heq
    exact ⟨(hruns.sound hsound).active, heq⟩
  refine ⟨hlive, hactive, hstopping, fun ms' c' hruns => ?_, ?_⟩
  · obtain ⟨hcounts, heq⟩ := hsince ms' c' hruns
    have htold : c'.state.isTold = true := by
      simp [isTold, hruns.stopping_eq hstopping]
    have hwhole : Runs ⟨start, new⟩ (ms ++ [.pollDrain] ++ ms') c' := (h.move hpoll).trans hruns
    refine ⟨hcounts, heq, leave_iff htold, fun rested hresting => ⟨hwhole.resting_le rfl hresting,
      fun t hlater hrested => runs_ended htold hresting hlater hrested⟩,
      fun hended ms'' c'' => Runs.accept_not_mem hended⟩
  · constructor
    · intro hfinal
      cases hrunning : l.running with
      | false => rfl
      | true =>
        obtain ⟨ms', c', hruns, haccept⟩ := runs_accept hrunning c.now
        exact absurd haccept (hfinal _ _ hruns).1
    · intro hended ms' c' hruns
      have hnone : .accept ∉ ms' := hruns.accept_not_mem hended
      obtain ⟨hcounts, heq⟩ := hsince ms' c' hruns
      rw [List.count_eq_zero_of_not_mem hnone] at heq
      exact ⟨hnone, by omega⟩

/-- A connection is live when the drain begins, and the loop ends with one more in the backlog,
which is lost. -/
def patient : List AcceptMove :=
  [.arrive, .accept, .beginDrain 5000000000, .pollDrain, .arrive, .leave, .notice 0, .finish 0]

/-- The listener that they lead to, from a new one. -/
def patientEnd : AcceptLoop :=
  ⟨true, false, .ended, 0, [.gone], ⟨0, 1⟩, .waiting 5000000000 (.parked 0)⟩

/-- Behind a drain that ends when the loop has, nothing is ever accepted. -/
theorem drain_final_iff_patient :
    Runs ⟨0, new⟩ patient ⟨0, patientEnd⟩ ∧
      patientEnd.step? 0 .pollDrain = some { patientEnd with drain := .returned .well } ∧
      ∀ ms' c', Runs ⟨0, { patientEnd with drain := .returned .well }⟩ ms' c' →
        .accept ∉ ms' ∧ c'.state.tracker.active = 0 := by
  have hruns : Runs ⟨0, new⟩ patient ⟨0, patientEnd⟩ := runs_of_steps? (by decide)
  have hpoll : patientEnd.step? 0 .pollDrain =
      some { patientEnd with drain := .returned .well } := by decide
  obtain ⟨-, -, -, -, hfinal⟩ := drain_final_iff hruns hpoll rfl
  exact ⟨hruns, hpoll, hfinal.mpr rfl⟩

/-- **A drain that ends well is not the end of accepting.**  Nothing is live when this one begins,
so that it ends at its first look; the loop has not looked yet at what it has been told, and takes
the next connection that comes. -/
theorem not_drain_final :
    ¬ ∀ (start : Instant) (ms : List AcceptMove) (c : Clocked AcceptLoop) (l : AcceptLoop),
      Runs ⟨start, new⟩ ms c → c.state.step? c.now .pollDrain = some l →
        l.drain = .returned .well →
          l.tracker.active = 0 ∧ ∀ ms' c', Runs ⟨c.now, l⟩ ms' c' →
            .accept ∉ ms' ∧ c'.state.tracker.active = 0 := by
  intro hclaim
  have hbegun : Runs ⟨0, new⟩ [.beginDrain 5000000000]
      ⟨0, { new.stop with drain := .waiting 5000000000 .fresh }⟩ := Runs.here.move rfl
  have hfinal := (hclaim 0 _ _ { new.stop with drain := .returned .well } hbegun rfl rfl).2
  have haccepted : Runs ⟨0, { new.stop with drain := .returned .well }⟩ [.arrive, .accept]
      ⟨0, ⟨true, false, .listening, 0, [.serving], ⟨1, 0⟩, .returned .well⟩⟩ :=
    runs_of_steps? (by decide)
  exact absurd (hfinal _ _ haccepted).2 (by decide)

end AcceptLoop
end Gatehouse
