/-
# Signals and those who observe them

Whether a signal has been triggered is told in two places: by a flag, and by a message in a channel.
They are written one after the other, an observer looks at them one after the other, and anybody may
come in between, or subscribe, or give up a clone.

* `Signaling.turn_of_step?`: **all that can happen around a signal**;
* `Signaling.sound_of_run?`: whatever the order of the steps, **at most one call sets the flag, and
  it alone sends**; who listens has subscribed before anything was sent;
* `Signaling.told_exactly`: **no observer misses the signal, and none makes it up**;
* `Signaling.run?_trigger`, `Signaling.alone_poll`: what is done in one go is what its steps do when
  nobody comes in between.
-/
import Gatehouse.Lifecycle.Signal.Basic
import Gatehouse.Proofs.Lifecycle.Interleaving

namespace Gatehouse

/-! ## 1. What an observer can do -/

namespace Observer

/-- What one step of an observer makes of it. -/
inductive Goes (s : ShutdownSignal) (o : Observer) : Observer → Prop
  | saw (hstage : o.stage = .fresh ∨ o.stage = .closed) (hup : s.triggered = true) :
      Goes s o { o with stage := .ready }
  | listened (hstage : o.stage = .fresh) (hdown : s.triggered = false) :
      Goes s o { o with stage := .listening }
  | received (hstage : o.stage = .listening) (hsent : o.since < s.sent) :
      Goes s o { o with stage := .ready }
  | parked (hstage : o.stage = .listening) (hnone : s.sent ≤ o.since) (hopen : 0 < s.clones) :
      Goes s o o
  | cutOff (hstage : o.stage = .listening) (hnone : s.sent ≤ o.since) (hclosed : s.clones = 0) :
      Goes s o { o with stage := .closed }
  | deafened (hstage : o.stage = .closed) (hdown : s.triggered = false) :
      Goes s o { o with stage := .deaf }

variable {s s' : ShutdownSignal} {o o' : Observer}

theorem goes_look (hstage : o.stage = .fresh) : o.Goes s (o.look s) := by
  simp only [look, hstage]
  split
  · rename_i hup
    exact .saw (.inl hstage) hup
  · rename_i hdown
    exact .listened hstage (Bool.eq_false_iff.mpr hdown)

theorem goes_receive (hstage : o.stage = .listening) : o.Goes s (o.receive s) := by
  simp only [receive, hstage]
  split
  · rename_i hsent
    exact .received hstage hsent
  · rename_i hsent
    split
    · rename_i hclosed
      exact .cutOff hstage (Nat.le_of_not_lt hsent) hclosed
    · rename_i hopen
      exact .parked hstage (Nat.le_of_not_lt hsent) (Nat.pos_of_ne_zero hopen)

theorem goes_lookAgain (hstage : o.stage = .closed) : o.Goes s (o.lookAgain s) := by
  simp only [lookAgain, hstage]
  split
  · rename_i hup
    exact .saw (.inr hstage) hup
  · rename_i hdown
    exact .deafened hstage (Bool.eq_false_iff.mpr hdown)

theorem look_of_ne (h : o.stage ≠ .fresh) : o.look s = o := by
  unfold look
  split
  · contradiction
  · rfl

theorem receive_of_ne (h : o.stage ≠ .listening) : o.receive s = o := by
  unfold receive
  split
  · contradiction
  · rfl

theorem lookAgain_of_ne (h : o.stage ≠ .closed) : o.lookAgain s = o := by
  unfold lookAgain
  split
  · contradiction
  · rfl

/-! ## 2. What an observer knows -/

/-- What holds of an observer at any moment. -/
structure Sound (s : ShutdownSignal) (o : Observer) : Prop where
  since_le : o.since ≤ s.sent
  /-- Who waits for a message has subscribed before the first one. -/
  listening : o.stage = .listening → o.since = 0
  ready : o.stage = .ready → s.triggered = true
  /-- Who is told that nobody can send any more is told so of a signal that nobody has triggered. -/
  cutOff : o.stage = .closed ∨ o.stage = .deaf → s.clones = 0 ∧ s.triggered = false

theorem sound_subscribe (s : ShutdownSignal) : (subscribe s).Sound s where
  since_le := Nat.le_refl _
  listening := nofun
  ready := nofun
  cutOff h := h.elim nofun nofun

/-- What an observer knows stays true while others go on. -/
theorem Sound.mono (h : o.Sound s) (hsent : s.sent ≤ s'.sent)
    (hup : s.triggered = true → s'.triggered = true)
    (hclosed : s.clones = 0 → s.triggered = false → s'.clones = 0 ∧ s'.triggered = false) :
    o.Sound s' where
  since_le := Nat.le_trans h.since_le hsent
  listening := h.listening
  ready hready := hup (h.ready hready)
  cutOff hstage := hclosed (h.cutOff hstage).1 (h.cutOff hstage).2

/-- **Every step of its own keeps an observer sound**, if nothing is sent while the flag is down,
and something has been sent by the time when a signal that is up has no clones. -/
theorem Sound.goes (h : o.Sound s) (hgoes : o.Goes s o') (hdown : s.triggered = false → s.sent = 0)
    (hclosed : s.clones = 0 → s.triggered = true → 0 < s.sent) : o'.Sound s := by
  cases hgoes with
  | saw hstage hup => exact ⟨h.since_le, nofun, fun _ => hup, fun hcut => hcut.elim nofun nofun⟩
  | listened hstage hlow =>
    refine ⟨h.since_le, fun _ => ?_, nofun, fun hcut => hcut.elim nofun nofun⟩
    have hle := h.since_le
    rw [hdown hlow] at hle
    exact Nat.le_zero.mp hle
  | received hstage hsent =>
    -- nothing is sent while the flag is down, so that it is up
    refine ⟨h.since_le, nofun, fun _ => ?_, fun hcut => hcut.elim nofun nofun⟩
    cases hup : s.triggered with
    | true => rfl
    | false =>
      rw [hdown hup] at hsent
      exact absurd hsent (Nat.not_lt_zero _)
  | parked hstage hnone hopen => exact h
  | cutOff hstage hnone hshut =>
    -- a signal that is up would have sent by now, and who listens would have the message
    refine ⟨h.since_le, nofun, nofun, fun _ => ⟨hshut, ?_⟩⟩
    cases hup : s.triggered with
    | false => rfl
    | true =>
      have hsent := hclosed hshut hup
      rw [h.listening hstage] at hnone
      omega
  | deafened hstage hlow =>
    exact ⟨h.since_le, nofun, nofun, fun _ => ⟨(h.cutOff (.inl hstage)).1, hlow⟩⟩

/-- **Once the message has been sent, the next step of an observer makes it ready.** -/
theorem Sound.isReady_of_goes (h : o.Sound s) (hup : s.triggered = true) (hsent : 0 < s.sent)
    (hgoes : o.Goes s o') : o'.isReady = true := by
  cases hgoes with
  | saw hstage _ => rfl
  | listened hstage hdown => exact absurd hup (by simp [hdown])
  | received hstage _ => rfl
  | parked hstage hnone hopen =>
    rw [h.listening hstage] at hnone
    omega
  | cutOff hstage hnone hclosed =>
    rw [h.listening hstage] at hnone
    omega
  | deafened hstage hdown => exact absurd hup (by simp [hdown])

/-- **Once the message has been sent, a poll in one go makes an observer ready.** -/
theorem Sound.isReady_poll (h : o.Sound s) (hup : s.triggered = true) (hsent : 0 < s.sent) :
    (o.poll s).isReady = true := by
  cases hstage : o.stage with
  | fresh => simp [poll, look, receive, lookAgain, isReady, hstage, hup]
  | listening =>
    have hsince : o.since = 0 := h.listening hstage
    simp [poll, look, receive, lookAgain, isReady, hstage, hsince, hsent]
  | ready => simp [poll, look, receive, lookAgain, isReady, hstage]
  | closed => exact absurd hup (by simp [(h.cutOff (.inl hstage)).2])
  | deaf => exact absurd hup (by simp [(h.cutOff (.inr hstage)).2])

end Observer

/-! ## 3. What can happen around a signal -/

def SignalMove.observer? : SignalMove → Option Nat
  | look j | receive j | lookAgain j => some j
  | _ => none

namespace Signaling

/-- What can happen around a signal, each case with what is there behind it. -/
inductive Turn (s : Signaling) : SignalMove → Signaling → Prop
  | cloned (hclones : 0 < s.signal.clones) : Turn s .clone { s with signal := s.signal.clone }
  | dropped (hspare : min s.active 1 < s.signal.clones) :
      Turn s .drop { s with signal := s.signal.drop }
  | begun (hclones : 0 < s.signal.clones) :
      Turn s .beginTrigger { s with triggers := s.triggers ++ [.begun] }
  | won {i : Nat} (hcall : s.triggers[i]? = some .begun) (hdown : s.signal.triggered = false) :
      Turn s (.trigger i) { s with signal := s.signal.raise, triggers := s.triggers.set i .won }
  | late {i : Nat} (hcall : s.triggers[i]? = some .begun) (hup : s.signal.triggered = true) :
      Turn s (.trigger i) { s with triggers := s.triggers.set i .late }
  | sent {i : Nat} (hcall : s.triggers[i]? = some .won) :
      Turn s (.trigger i) { s with signal := s.signal.send, triggers := s.triggers.set i .sent }
  | subscribed (hclones : 0 < s.signal.clones) :
      Turn s .subscribe { s with observers := s.observers ++ [Observer.subscribe s.signal] }
  | polled {m : SignalMove} {j : Nat} {o o' : Observer} (hmove : m.observer? = some j)
      (hobserver : s.observers[j]? = some o) (hgoes : o.Goes s.signal o') :
      Turn s m { s with observers := s.observers.set j o' }

variable {s s' : Signaling} {m : SignalMove}

theorem raise_of_triggered {signal : ShutdownSignal} (hup : signal.triggered = true) :
    signal.raise = signal := by
  cases signal
  cases hup
  rfl

theorem turn_of_stepTrigger? {i : Nat} (h : s.stepTrigger? i = some s') :
    s.Turn (.trigger i) s' := by
  unfold stepTrigger? at h
  split at h
  · rename_i hcall
    cases h
    cases hup : s.signal.triggered with
    | true =>
      rw [raise_of_triggered hup]
      exact .late hcall hup
    | false => exact .won hcall hup
  · rename_i hcall
    cases h
    exact .sent hcall
  · cases h

theorem turn_of_stepObserver? {j : Nat} {stage : ObserverStage}
    {f : ShutdownSignal → Observer → Observer} (h : s.stepObserver? j stage f = some s')
    (hmove : m.observer? = some j)
    (hgoes : ∀ o : Observer, o.stage = stage → o.Goes s.signal (f s.signal o)) : s.Turn m s' := by
  obtain ⟨o, hobserver, hgo⟩ := Option.bind_eq_some_iff.mp h
  obtain ⟨hstage, heq⟩ := Option.ite_none_right_eq_some.mp hgo
  cases heq
  exact .polled hmove hobserver (hgoes o hstage)

/-- **All that can happen around a signal.** -/
theorem turn_of_step? (h : s.step? m = some s') : s.Turn m s' := by
  cases m with
  | clone =>
    obtain ⟨hclones, heq⟩ := Option.ite_none_right_eq_some.mp h
    cases heq
    exact .cloned hclones
  | drop =>
    obtain ⟨hspare, heq⟩ := Option.ite_none_right_eq_some.mp h
    cases heq
    exact .dropped (of_decide_eq_true hspare)
  | beginTrigger =>
    obtain ⟨hclones, heq⟩ := Option.ite_none_right_eq_some.mp h
    cases heq
    exact .begun hclones
  | trigger i => exact turn_of_stepTrigger? h
  | subscribe =>
    obtain ⟨hclones, heq⟩ := Option.ite_none_right_eq_some.mp h
    cases heq
    exact .subscribed hclones
  | look j => exact turn_of_stepObserver? h rfl fun _ => Observer.goes_look
  | receive j => exact turn_of_stepObserver? h rfl fun _ => Observer.goes_receive
  | lookAgain j => exact turn_of_stepObserver? h rfl fun _ => Observer.goes_lookAgain

/-- What a step of an observer makes of that observer. -/
theorem Turn.goes {j : Nat} (h : s.Turn m s') (hmove : m.observer? = some j) :
    ∃ o o', s.observers[j]? = some o ∧ s'.observers[j]? = some o' ∧ o.Goes s.signal o' := by
  cases h with
  | polled hmove' hobserver hgoes =>
    obtain rfl := Option.some.inj (hmove'.symm.trans hmove)
    have hj := (List.getElem?_eq_some_iff.mp hobserver).1
    exact ⟨_, _, hobserver, List.getElem?_set_self hj, hgoes⟩
  | _ => cases hmove

/-! ## 4. What holds at any moment -/

/-- The calls that have set the flag and sent the message. -/
def senders (s : Signaling) : Nat := s.triggers.countP (· = .sent)

/-- What holds around a signal at any moment. -/
structure Sound (s : Signaling) : Prop where
  sent_eq : s.signal.sent = s.senders
  /-- The flag is up when one call has set it, and no second one ever does. -/
  raised_eq : s.triggers.countP TriggerStage.hasRaised = if s.signal.triggered then 1 else 0
  /-- Calls under way keep a clone. -/
  held : s.signal.clones = 0 → s.active = 0
  observers : ∀ o ∈ s.observers, o.Sound s.signal

theorem sound_new : Sound new where
  sent_eq := rfl
  raised_eq := rfl
  held := nofun
  observers := nofun

namespace Sound

theorem senders_le (s : Signaling) : s.senders ≤ s.triggers.countP TriggerStage.hasRaised := by
  refine List.countP_mono_left fun t _ ht => ?_
  rw [of_decide_eq_true ht]
  rfl

/-- **At most one message is ever sent.** -/
theorem sent_le_one (h : s.Sound) : s.signal.sent ≤ 1 := by
  have hle := senders_le s
  rw [h.raised_eq, ← h.sent_eq] at hle
  split at hle <;> omega

/-- Nothing is sent while the flag is down. -/
theorem sent_eq_zero (h : s.Sound) (hdown : s.signal.triggered = false) : s.signal.sent = 0 := by
  have hle := senders_le s
  rw [h.raised_eq, ← h.sent_eq, hdown] at hle
  exact Nat.le_zero.mp hle

/-- A call under way keeps a clone. -/
theorem clones_pos (h : s.Sound) {i : Nat} {t : TriggerStage} (hcall : s.triggers[i]? = some t)
    (hgoing : t.isUnderWay = true) : 0 < s.signal.clones := by
  refine Nat.pos_of_ne_zero fun hnone => ?_
  have hpos : 0 < s.active :=
    List.countP_pos_iff.mpr ⟨t, List.mem_of_getElem? hcall, hgoing⟩
  rw [h.held hnone] at hpos
  exact absurd hpos (Nat.lt_irrefl 0)

/-- Once all clones of a signal that is up are gone, the message has been sent: no call that could
still have to send it can be under way. -/
theorem sent_pos_of_closed (h : s.Sound) (hclosed : s.signal.clones = 0)
    (hup : s.signal.triggered = true) : 0 < s.signal.sent := by
  have hraised : 0 < s.triggers.countP TriggerStage.hasRaised := by
    rw [h.raised_eq, hup]
    exact Nat.one_pos
  obtain ⟨t, ht, hset⟩ := List.countP_pos_iff.mp hraised
  rw [h.sent_eq]
  refine List.countP_pos_iff.mpr ⟨t, ht, ?_⟩
  have hover : t.isUnderWay ≠ true := List.countP_eq_zero.mp (h.held hclosed) t ht
  cases t with
  | sent => rfl
  | won => exact absurd rfl hover
  | begun => cases hset
  | late => cases hset

/-- When the call that has set the flag is over, the flag is up and the message has been sent. -/
theorem told_of_sent (h : s.Sound) (hsent : .sent ∈ s.triggers) :
    s.signal.triggered = true ∧ 0 < s.signal.sent := by
  have hpos : 0 < s.signal.sent := by
    rw [h.sent_eq]
    exact List.countP_pos_iff.mpr ⟨_, hsent, rfl⟩
  refine ⟨?_, hpos⟩
  cases hup : s.signal.triggered with
  | true => rfl
  | false =>
    rw [h.sent_eq_zero hup] at hpos
    exact absurd hpos (Nat.lt_irrefl 0)

/-- A call under way goes on to another stage.  The signal keeps its clones, counts the message if
it is sent, and has been raised by as many calls as before, and this one if it does so now. -/
theorem set (h : s.Sound) {i : Nat} {t t' : TriggerStage} {signal : ShutdownSignal}
    (hcall : s.triggers[i]? = some t) (hgoing : t.isUnderWay = true)
    (hclones : signal.clones = s.signal.clones)
    (hsent : signal.sent = s.signal.sent + if t' = .sent then 1 else 0)
    (hraised : (if signal.triggered then 1 else 0) + (if t.hasRaised then 1 else 0) =
      (if s.signal.triggered then 1 else 0) + if t'.hasRaised then 1 else 0)
    (hup : s.signal.triggered = true → signal.triggered = true) :
    Sound { s with signal, triggers := s.triggers.set i t' } := by
  -- the call keeps a clone, so that nobody has been told that no more can be sent
  have hopen : 0 < s.signal.clones := h.clones_pos hcall hgoing
  refine ⟨?_, ?_, fun hnone => ?_, fun o ho => ?_⟩
  · have hcount := Interleaving.countP_set_add (p := (· = .sent)) hcall t'
    have hnot : t ≠ .sent := by
      rintro rfl
      cases hgoing
    simp only [hnot, decide_false, decide_eq_true_eq] at hcount
    show signal.sent = (s.triggers.set i t').countP (· = .sent)
    rw [hsent, h.sent_eq]
    exact hcount.symm
  · have hcount := Interleaving.countP_set_add (p := TriggerStage.hasRaised) hcall t'
    rw [h.raised_eq, ← hraised] at hcount
    exact Nat.add_right_cancel hcount
  · rw [← hclones] at hopen
    exact absurd hopen (hnone ▸ Nat.lt_irrefl 0)
  · refine (h.observers o ho).mono ?_ hup fun hnone => absurd hopen (hnone ▸ Nat.lt_irrefl 0)
    rw [hsent]
    exact Nat.le_add_right _ _

/-- **Every step keeps what is around a signal sound.** -/
theorem turn (h : s.Sound) (hturn : s.Turn m s') : s'.Sound := by
  cases hturn with
  | cloned hclones =>
    refine ⟨h.sent_eq, h.raised_eq, nofun, fun o ho => ?_⟩
    exact (h.observers o ho).mono (Nat.le_refl _) id fun hnone => absurd hclones (by omega)
  | dropped hspare =>
    refine ⟨h.sent_eq, h.raised_eq, fun hnone => ?_, fun o ho => ?_⟩
    · have hlast : s.signal.clones - 1 = 0 := hnone
      show s.active = 0
      omega
    · refine (h.observers o ho).mono (Nat.le_refl _) id fun hnone hdown => ⟨?_, hdown⟩
      show s.signal.clones - 1 = 0
      omega
  | begun hclones =>
    refine ⟨?_, ?_, fun hnone => absurd hclones (hnone ▸ Nat.lt_irrefl 0), h.observers⟩
    · rw [h.sent_eq]
      simp [senders]
    · rw [List.countP_append, h.raised_eq]
      rfl
  | won hcall hdown => exact h.set hcall rfl rfl rfl (by rw [hdown]; rfl) fun _ => rfl
  | late hcall hup => exact h.set hcall rfl rfl rfl rfl id
  | sent hcall => exact h.set hcall rfl rfl rfl rfl id
  | subscribed hclones =>
    refine ⟨h.sent_eq, h.raised_eq, h.held, fun o ho => ?_⟩
    rcases List.mem_append.mp ho with hold | hnew
    · exact h.observers o hold
    · rw [List.mem_singleton.mp hnew]
      exact Observer.sound_subscribe s.signal
  | polled hmove hobserver hgoes =>
    refine ⟨h.sent_eq, h.raised_eq, h.held, fun o ho => ?_⟩
    rcases List.mem_or_eq_of_mem_set ho with hold | rfl
    · exact h.observers o hold
    · exact (h.observers _ (List.mem_of_getElem? hobserver)).goes hgoes h.sent_eq_zero
        h.sent_pos_of_closed

end Sound

variable {ms : List SignalMove}

/-- **Every order of steps keeps what is around a signal sound.** -/
theorem sound_of_run? (h : new.run? ms = some s) : s.Sound :=
  Interleaving.foldlM_keeps (fun _ _ _ hsound hstep => hsound.turn (turn_of_step? hstep)) sound_new
    h

/-- An observer that is not ready can take a step, unless it has been told for good that nobody will
trigger the signal. -/
theorem exists_step_of_observer {j : Nat} {o : Observer} (ho : s.observers[j]? = some o)
    (hbusy : o.isReady ≠ true) (hhears : o.stage ≠ .deaf) :
    ∃ m s', m.observer? = some j ∧ s.step? m = some s' := by
  have hgo : ∀ {stage : ObserverStage} (f : ShutdownSignal → Observer → Observer),
      o.stage = stage → s.stepObserver? j stage f =
        some { s with observers := s.observers.set j (f s.signal o) } := by
    intro stage f hstage
    simp [stepObserver?, ho, hstage]
  cases hstage : o.stage with
  | fresh => exact ⟨.look j, _, rfl, hgo Observer.look hstage⟩
  | listening => exact ⟨.receive j, _, rfl, hgo Observer.receive hstage⟩
  | closed => exact ⟨.lookAgain j, _, rfl, hgo Observer.lookAgain hstage⟩
  | ready => exact absurd (by simp [Observer.isReady, hstage]) hbusy
  | deaf => exact absurd hstage hhears

/-! ## 5. Told exactly -/

/-- **No observer misses the signal, and none makes it up**, whatever the order of the steps.  At
most one message is ever sent, and an observer is ready only behind a call that has set the flag.
Once that call is over, whether or not a clone is left, every observer is ready at its next poll:
there is a message for who listens; a poll in one go makes the observer ready, and so does the first
step of one that others interrupt, which can be taken. -/
theorem told_exactly (h : new.run? ms = some s) :
    s.signal.sent ≤ 1 ∧
      (∀ o ∈ s.observers, o.isReady = true → ∃ t ∈ s.triggers, t.hasRaised = true) ∧
      (.sent ∈ s.triggers → ∀ j o, s.observers[j]? = some o →
        (o.stage = .listening → o.since < s.signal.sent) ∧
          (o.poll s.signal).isReady = true ∧
          (o.isReady = true ∨ ∃ m s', m.observer? = some j ∧ s.step? m = some s') ∧
          ∀ m s', m.observer? = some j → s.step? m = some s' →
            ∃ o', s'.observers[j]? = some o' ∧ o'.isReady = true) := by
  have hsound : s.Sound := sound_of_run? h
  refine ⟨hsound.sent_le_one, fun o ho hready => ?_, fun hsent j o ho => ?_⟩
  · have hup : s.signal.triggered = true :=
      (hsound.observers o ho).ready (of_decide_eq_true hready)
    refine List.countP_pos_iff.mp ?_
    rw [hsound.raised_eq, hup]
    exact Nat.one_pos
  · obtain ⟨hup, hpos⟩ := hsound.told_of_sent hsent
    have hobserver := hsound.observers o (List.mem_of_getElem? ho)
    refine ⟨fun hstage => ?_, hobserver.isReady_poll hup hpos, ?_, fun m s' hmove hstep => ?_⟩
    · rw [hobserver.listening hstage]
      exact hpos
    · cases hready : o.isReady with
      | true => exact .inl rfl
      | false =>
        refine .inr (exists_step_of_observer ho (by simp [hready]) fun hdeaf => ?_)
        exact absurd hup (by simp [(hobserver.cutOff (.inr hdeaf)).2])
    · obtain ⟨o₁, o', ho₁, ho', hgoes⟩ := (turn_of_step? hstep).goes hmove
      obtain rfl := Option.some.inj (ho₁.symm.trans ho)
      exact ⟨o', ho', hobserver.isReady_of_goes hup hpos hgoes⟩

/-- One observer listens before anything happens, one subscribes between the flag and the message,
and one behind both; a second call comes too late, and all clones go. -/
def orphaning : List SignalMove :=
  [.clone, .subscribe, .look 0, .receive 0, .beginTrigger, .beginTrigger, .trigger 0, .trigger 1,
    .subscribe, .trigger 0, .subscribe, .drop, .drop]

/-- What they lead to, from a new signal. -/
def orphaned : Signaling :=
  ⟨⟨true, 1, 0⟩, [.sent, .late], [⟨0, .listening⟩, ⟨0, .fresh⟩, ⟨1, .fresh⟩]⟩

/-- The signal outlives its clones: each of the three is ready at its next poll. -/
theorem told_exactly_orphaned :
    new.run? orphaning = some orphaned ∧ .sent ∈ orphaned.triggers ∧
      ∀ o ∈ orphaned.observers, (o.poll orphaned.signal).isReady = true := by
  have hrun : new.run? orphaning = some orphaned := by decide
  have hsent : .sent ∈ orphaned.triggers := by decide
  refine ⟨hrun, hsent, fun o ho => ?_⟩
  obtain ⟨j, hj⟩ := List.mem_iff_getElem?.mp ho
  obtain ⟨-, -, htold⟩ := told_exactly hrun
  exact (htold hsent j o hj).2.1

/-- Before the message is sent, an observer that listens stays parked, though the flag is up. -/
example : new.run? [.subscribe, .look 0, .beginTrigger, .trigger 0, .receive 0] =
    some ⟨⟨true, 0, 1⟩, [.won], [⟨0, .listening⟩]⟩ := by decide

/-! ## 6. In one go

Nobody has to come in between.  The steps of a call, or of a poll, then do what the call or the poll
does. -/

/-- **A call to trigger that nobody interrupts.** -/
theorem run?_trigger (hclones : 0 < s.signal.clones) :
    s.run? (.beginTrigger ::
        List.replicate (if s.signal.triggered then 1 else 2) (.trigger s.triggers.length)) =
      some { s with
        signal := s.signal.trigger
        triggers := s.triggers ++ [if s.signal.triggered then .late else .sent] } := by
  cases hup : s.signal.triggered with
  | true =>
    simp [run?, step?, stepTrigger?, hclones, hup, ShutdownSignal.trigger, raise_of_triggered]
  | false =>
    simp [run?, step?, stepTrigger?, hclones, hup, ShutdownSignal.trigger, ShutdownSignal.raise,
      List.replicate]

/-- A poll goes on with one of its looks, which is a step if it is due and nothing otherwise. -/
theorem alone_on {j : Nat} {o : Observer} {stage : ObserverStage}
    {f : ShutdownSignal → Observer → Observer} (hj : j < s.observers.length)
    (hmove : m.observer? = some j) (hstep : ∀ s : Signaling, s.step? m = s.stepObserver? j stage f)
    (hidle : o.stage ≠ stage → f s.signal o = o)
    (hbefore : Interleaving.Alone step? (·.observer? = some j) s
      { s with observers := s.observers.set j o }) :
    Interleaving.Alone step? (·.observer? = some j) s
      { s with observers := s.observers.set j (f s.signal o) } := by
  refine hbefore.go ?_
  by_cases hstage : o.stage = stage
  · refine .inr ⟨m, hmove, ?_⟩
    simp [hstep, stepObserver?, hj, hstage]
  · rw [hidle hstage]
    exact .inl rfl

/-- **A poll that nobody interrupts.** -/
theorem alone_poll {j : Nat} {o : Observer} (ho : s.observers[j]? = some o) :
    Interleaving.Alone step? (·.observer? = some j) s
      { s with observers := s.observers.set j (o.poll s.signal) } := by
  obtain ⟨hj, hget⟩ := List.getElem?_eq_some_iff.mp ho
  have hstart : Interleaving.Alone step? (·.observer? = some j) s
      { s with observers := s.observers.set j o } := by
    rw [← hget, List.set_getElem_self]
    exact .here
  have hlooked := alone_on (m := .look j) hj rfl (fun _ => rfl) Observer.look_of_ne hstart
  have hreceived := alone_on (m := .receive j) hj rfl (fun _ => rfl) Observer.receive_of_ne hlooked
  exact alone_on (m := .lookAgain j) (f := Observer.lookAgain) hj rfl (fun _ => rfl)
    Observer.lookAgain_of_ne hreceived

end Signaling
end Gatehouse
