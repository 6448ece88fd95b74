/-
# Trackers and those who wait for them

Giving up a token lowers the count of a tracker and then, if that has brought it to zero, wakes
everybody who waits.  Who waits asks to be woken and then looks at the count.  Anybody may come in
between, so that the count can rise again, and reach zero again, while somebody is parked.

* `Tracking.turn_of_step?`: **all that can happen around a tracker**;
* `Tracking.sound_of_run?`: whatever the order of the steps, **the count is that of the live
  tokens**, and who is parked is sure to be woken: it has been already, or the count is not zero, or
  somebody is about to;
* `Tracking.never_stranded`: **who waits returns from a look at zero, and is never left behind**;
* `Tracking.run?_release`, `Tracking.alone_poll`: what is done in one go is what its steps do when
  nobody comes in between.
-/
import Gatehouse.Lifecycle.Tracker.Basic
import Gatehouse.Proofs.Lifecycle.Interleaving

namespace Gatehouse

/-! ## 1. What can happen around a tracker -/

def TrackMove.wait? : TrackMove → Option Nat
  | arm i | look i | wake i => some i
  | _ => none

namespace Tracking

/-- What can happen around a tracker, each case with what is there behind it. -/
inductive Turn (s : Tracking) : TrackMove → Tracking → Prop
  | acquired :
      Turn s .acquire { s with tracker := s.tracker.acquire, tokens := s.tokens ++ [.live] }
  | lowered {i : Nat} (htoken : s.tokens[i]? = some .live) (hothers : s.tracker.active ≠ 1) :
      Turn s (.release i) { s with tracker := s.tracker.lower, tokens := s.tokens.set i .gone }
  | emptied {i : Nat} (htoken : s.tokens[i]? = some .live) (hlast : s.tracker.active = 1) :
      Turn s (.release i) { s with tracker := s.tracker.lower, tokens := s.tokens.set i .waking }
  | woke {i : Nat} (htoken : s.tokens[i]? = some .waking) :
      Turn s (.release i) { s with tracker := s.tracker.wake, tokens := s.tokens.set i .gone }
  | began : Turn s .beginWait { s with waits := s.waits ++ [.fresh] }
  | armed {i : Nat} (hwait : s.waits[i]? = some .fresh) :
      Turn s (.arm i) { s with waits := s.waits.set i (.armed s.tracker.wakings) }
  | returned {i since : Nat} (hwait : s.waits[i]? = some (.armed since))
      (hidle : s.tracker.active = 0) :
      Turn s (.look i) { s with waits := s.waits.set i .returned }
  | parked {i since : Nat} (hwait : s.waits[i]? = some (.armed since))
      (hbusy : s.tracker.active ≠ 0) :
      Turn s (.look i) { s with waits := s.waits.set i (.parked since) }
  | resumed {i since : Nat} (hwait : s.waits[i]? = some (.parked since))
      (hwoken : since < s.tracker.wakings) :
      Turn s (.wake i) { s with waits := s.waits.set i .fresh }

variable {s s' : Tracking} {m : TrackMove}

theorem step?_lower {i : Nat} (htoken : s.tokens[i]? = some .live) :
    s.step? (.release i) = some { s with
      tracker := s.tracker.lower
      tokens := s.tokens.set i (if s.tracker.active = 1 then .waking else .gone) } := by
  simp [step?, stepRelease?, htoken]

/-- The second step of the token that has brought the count to zero. -/
theorem step?_wake {i : Nat} (htoken : s.tokens[i]? = some .waking) :
    s.step? (.release i) =
      some { s with tracker := s.tracker.wake, tokens := s.tokens.set i .gone } := by
  simp [step?, stepRelease?, htoken]

theorem turn_of_stepRelease? {i : Nat} (h : s.stepRelease? i = some s') :
    s.Turn (.release i) s' := by
  unfold stepRelease? at h
  split at h
  · rename_i htoken
    cases h
    split
    · rename_i hlast
      exact .emptied htoken hlast
    · rename_i hothers
      exact .lowered htoken hothers
  · rename_i htoken
    cases h
    exact .woke htoken
  · cases h

/-- A step of who waits changes it. -/
theorem stepWait?_eq_some_iff {i : Nat} {f : Tracker → IdleWait → IdleWait} :
    s.stepWait? i f = some s' ↔ ∃ w, s.waits[i]? = some w ∧ f s.tracker w ≠ w ∧
      s' = { s with waits := s.waits.set i (f s.tracker w) } := by
  constructor
  · intro h
    obtain ⟨w, hwait, hgo⟩ := Option.bind_eq_some_iff.mp h
    obtain ⟨hmoved, heq⟩ := Option.ite_none_left_eq_some.mp hgo
    exact ⟨w, hwait, hmoved, (Option.some.inj heq).symm⟩
  · rintro ⟨w, hwait, hmoved, rfl⟩
    simp [stepWait?, hwait, hmoved]

/-- **All that can happen around a tracker.** -/
theorem turn_of_step? (h : s.step? m = some s') : s.Turn m s' := by
  cases m with
  | acquire =>
    cases h
    exact .acquired
  | release i => exact turn_of_stepRelease? h
  | beginWait =>
    cases h
    exact .began
  | arm i =>
    obtain ⟨w, hwait, hmoved, rfl⟩ := stepWait?_eq_some_iff.mp h
    cases w with
    | fresh => exact .armed hwait
    | _ => exact absurd rfl hmoved
  | look i =>
    obtain ⟨w, hwait, hmoved, rfl⟩ := stepWait?_eq_some_iff.mp h
    cases w with
    | armed since =>
      simp only [IdleWait.look]
      split
      · rename_i hidle
        exact .returned hwait hidle
      · rename_i hbusy
        exact .parked hwait hbusy
    | _ => exact absurd rfl hmoved
  | wake i =>
    obtain ⟨w, hwait, hmoved, rfl⟩ := stepWait?_eq_some_iff.mp h
    cases w with
    | parked since =>
      simp only [IdleWait.wake] at hmoved ⊢
      split
      · rename_i hwoken
        exact .resumed hwait hwoken
      · rename_i hasleep
        exact absurd (if_neg hasleep) hmoved
    | _ => exact absurd rfl hmoved

/-! ## 2. What holds at any moment -/

/-- The tokens that have not lowered the count. -/
def live (s : Tracking) : Nat := s.tokens.countP (· = .live)

/-- Somebody who waits for a waking is going to be woken: the count is not zero, so that somebody
has still to bring it there, or somebody has done so and is about to wake everybody. -/
def WillWake (s : Tracking) : Prop := 0 < s.tracker.active ∨ .waking ∈ s.tokens

/-- What holds of somebody who waits at any moment. -/
structure WaitSound (s : Tracking) (w : IdleWait) : Prop where
  /-- It has asked behind wakings that there have been. -/
  since_le : ∀ since, w = .armed since ∨ w = .parked since → since ≤ s.tracker.wakings
  parked : ∀ since, w = .parked since → since < s.tracker.wakings ∨ s.WillWake

/-- What holds around a tracker at any moment. -/
structure Sound (s : Tracking) : Prop where
  active_eq : s.tracker.active = s.live
  waits : ∀ w ∈ s.waits, s.WaitSound w

theorem sound_new : Sound new where
  active_eq := rfl
  waits := nofun

/-- Who waits stays sound while others go on, if wakings only come to be more and a waking that was
sure to come has come or still is. -/
theorem WaitSound.mono {w : IdleWait} (h : s.WaitSound w)
    (hwakings : s.tracker.wakings ≤ s'.tracker.wakings)
    (hwill : s.WillWake → s.tracker.wakings < s'.tracker.wakings ∨ s'.WillWake) :
    s'.WaitSound w where
  since_le since hw := Nat.le_trans (h.since_le since hw) hwakings
  parked since hw := by
    rcases h.parked since hw with hwoken | hcomes
    · exact .inl (Nat.lt_of_lt_of_le hwoken hwakings)
    · rcases hwill hcomes with hmore | hstill
      · exact .inl (Nat.lt_of_le_of_lt (h.since_le since (.inr hw)) hmore)
      · exact .inr hstill

/-- A token that lowers the count has been counted, so that the count does not go below zero. -/
theorem Sound.active_pos (h : s.Sound) {i : Nat} (htoken : s.tokens[i]? = some .live) :
    0 < s.tracker.active := by
  rw [h.active_eq]
  exact List.countP_pos_iff.mpr ⟨_, List.mem_of_getElem? htoken, rfl⟩

/-- What a token that goes on does to the count of the live ones. -/
theorem live_set {i : Nat} {t t' : TokenStage} (htoken : s.tokens[i]? = some t)
    (hover : t' ≠ .live) :
    (s.tokens.set i t').countP (· = .live) + (if t = .live then 1 else 0) = s.live := by
  have hcount := Interleaving.countP_set_add (p := (· = .live)) htoken t'
  simpa [hover, live] using hcount

theorem Sound.setToken (h : s.Sound) {i : Nat} {t t' : TokenStage} {tracker : Tracker}
    (htoken : s.tokens[i]? = some t) (hover : t' ≠ .live)
    (hactive : tracker.active + (if t = .live then 1 else 0) = s.tracker.active)
    (hwakings : s.tracker.wakings ≤ tracker.wakings)
    (hwill : s.tracker.wakings < tracker.wakings ∨ 0 < tracker.active ∨ t' = .waking) :
    Sound { s with tracker, tokens := s.tokens.set i t' } := by
  have hi := (List.getElem?_eq_some_iff.mp htoken).1
  refine ⟨?_, fun w hw => (h.waits w hw).mono hwakings fun _ => hwill.imp_right ?_⟩
  · have hlive := live_set htoken hover
    rw [← h.active_eq, ← hactive] at hlive
    exact (Nat.add_right_cancel hlive).symm
  · exact Or.imp_right fun hwaking => hwaking ▸ List.mem_set hi t'

theorem Sound.setWait (h : s.Sound) {i : Nat} {w : IdleWait} (hw : s.WaitSound w) :
    Sound { s with waits := s.waits.set i w } := by
  refine ⟨h.active_eq, fun v hv => ?_⟩
  rcases List.mem_or_eq_of_mem_set hv with hold | rfl
  · exact (h.waits v hold).mono (Nat.le_refl _) .inr
  · exact hw.mono (Nat.le_refl _) .inr

/-- **Every step keeps what is around a tracker sound.** -/
theorem Sound.turn (h : s.Sound) (hturn : s.Turn m s') : s'.Sound := by
  cases hturn with
  | acquired =>
    refine ⟨?_, fun w hw => ?_⟩
    · simp [Tracker.acquire, live, h.active_eq]
    · exact (h.waits w hw).mono (Nat.le_refl _) fun _ => .inr (.inl (Nat.succ_pos _))
  | lowered htoken hothers =>
    -- others are live, so that one of them has still to bring the count to zero
    have hpos := h.active_pos htoken
    refine h.setToken htoken nofun (Nat.sub_add_cancel hpos) (Nat.le_refl _) (.inr (.inl ?_))
    show 0 < s.tracker.active - 1
    omega
  | emptied htoken hlast =>
    have hpos := h.active_pos htoken
    exact h.setToken htoken nofun (Nat.sub_add_cancel hpos) (Nat.le_refl _) (.inr (.inr rfl))
  | woke htoken =>
    -- this is what everybody has waited for who asked before
    exact h.setToken htoken nofun rfl (Nat.le_succ _) (.inl (Nat.lt_succ_self _))
  | began =>
    refine ⟨h.active_eq, fun w hw => ?_⟩
    rcases List.mem_append.mp hw with hold | hnew
    · exact (h.waits w hold).mono (Nat.le_refl _) .inr
    · rw [List.mem_singleton.mp hnew]
      exact ⟨fun _ hnot => hnot.elim nofun nofun, nofun⟩
  | armed hwait =>
    refine h.setWait ⟨fun since hw => ?_, nofun⟩
    rcases hw with heq | hnot
    · cases heq
      exact Nat.le_refl _
    · cases hnot
  | returned hwait hidle => exact h.setWait ⟨fun _ hnot => hnot.elim nofun nofun, nofun⟩
  | @parked i since hwait hbusy =>
    have hle := (h.waits _ (List.mem_of_getElem? hwait)).since_le since (.inl rfl)
    refine h.setWait ⟨fun since' hw => ?_, fun _ _ => .inr (.inl (Nat.pos_of_ne_zero hbusy))⟩
    rcases hw with hnot | heq
    · cases hnot
    · cases heq
      exact hle
  | resumed hwait hwoken => exact h.setWait ⟨fun _ hnot => hnot.elim nofun nofun, nofun⟩

variable {ms : List TrackMove}

/-- **Every order of steps keeps what is around a tracker sound.** -/
theorem sound_of_run? (h : new.run? ms = some s) : s.Sound :=
  Interleaving.foldlM_keeps (fun _ _ _ hsound hstep => hsound.turn (turn_of_step? hstep)) sound_new
    h

/-! ## 3. Never left behind -/

/-- What appears at a place where it was not has just been put there. -/
theorem of_getElem?_set {α : Type} {xs : List α} {i j : Nat} {x y : α} (hnot : xs[j]? ≠ some y)
    (h : (xs.set i x)[j]? = some y) : i = j ∧ x = y := by
  rw [List.getElem?_set] at h
  split at h
  · rename_i hij
    split at h
    · exact ⟨hij, Option.some.inj h⟩
    · cases h
  · exact absurd h hnot

/-- **Who waits returns only from a look at a count of zero.** -/
theorem Turn.look_of_returned {i : Nat} (hturn : s.Turn m s')
    (hbusy : s.waits[i]? ≠ some .returned) (hover : s'.waits[i]? = some .returned) :
    m = .look i ∧ s.tracker.active = 0 := by
  cases hturn with
  | acquired => exact absurd hover hbusy
  | lowered htoken hothers => exact absurd hover hbusy
  | emptied htoken hlast => exact absurd hover hbusy
  | woke htoken => exact absurd hover hbusy
  | began =>
    rw [List.getElem?_append] at hover
    split at hover
    · exact absurd hover hbusy
    · cases List.mem_singleton.mp (List.mem_of_getElem? hover)
  | armed hwait => cases (of_getElem?_set hbusy hover).2
  | returned hwait hidle =>
    obtain ⟨rfl, -⟩ := of_getElem?_set hbusy hover
    exact ⟨rfl, hidle⟩
  | parked hwait hnot => cases (of_getElem?_set hbusy hover).2
  | resumed hwait hwoken => cases (of_getElem?_set hbusy hover).2

/-- Once nothing is live and nobody is about to wake anybody, whoever waits returns at its next
poll. -/
theorem WaitSound.returned_of_poll {w : IdleWait} (h : s.WaitSound w)
    (hidle : s.tracker.active = 0) (hquiet : .waking ∉ s.tokens) :
    w.poll s.tracker = .returned := by
  cases w with
  | fresh => simp [IdleWait.poll, IdleWait.wake, IdleWait.arm, IdleWait.look, hidle]
  | armed since => simp [IdleWait.poll, IdleWait.wake, IdleWait.arm, IdleWait.look, hidle]
  | parked since =>
    have hwoken : since < s.tracker.wakings :=
      (h.parked since rfl).resolve_right fun hwill => hwill.elim (by omega) hquiet
    simp [IdleWait.poll, IdleWait.wake, IdleWait.arm, IdleWait.look, hidle, hwoken]
  | returned => rfl

/-- **Who waits is never left behind**, whatever the order of the steps.  The count is that of the
tokens that have not lowered it, and each of them can lower it by one.  Who waits returns only from
a look at a count of zero.  Who is parked and has not been woken will be: the count is not zero, or
a token that has brought it there is about to wake everybody, which it can do, and then nobody is
parked who has not been woken.  Once the count is zero and no token is about to wake anybody,
whoever waits returns at its next poll. -/
theorem never_stranded (h : new.run? ms = some s) :
    s.tracker.active = s.live ∧
      (∀ i : Nat, s.tokens[i]? = some .live →
        ∃ s', s.step? (.release i) = some s' ∧ s'.tracker.active + 1 = s.tracker.active) ∧
      (∀ (m : TrackMove) (s' : Tracking) (i : Nat), s.step? m = some s' →
        s.waits[i]? ≠ some .returned → s'.waits[i]? = some .returned →
          m = .look i ∧ s.tracker.active = 0) ∧
      (∀ i since : Nat, s.waits[i]? = some (.parked since) → s.tracker.wakings ≤ since →
        0 < s.tracker.active ∨ .waking ∈ s.tokens) ∧
      (∀ i : Nat, s.tokens[i]? = some .waking → ∃ s', s.step? (.release i) = some s' ∧
        ∀ since : Nat, .parked since ∈ s'.waits → since < s'.tracker.wakings) ∧
      (s.tracker.active = 0 → .waking ∉ s.tokens →
        ∀ w ∈ s.waits, w.poll s.tracker = .returned) := by
  have hsound : s.Sound := sound_of_run? h
  refine ⟨hsound.active_eq, fun i htoken => ?_, fun m s' i hstep => ?_, fun i since hwait => ?_,
    fun i htoken => ?_, fun hidle hquiet w hw => ?_⟩
  · exact ⟨_, step?_lower htoken, Nat.sub_add_cancel (hsound.active_pos htoken)⟩
  · exact (turn_of_step? hstep).look_of_returned
  · intro hasleep
    have hparked := (hsound.waits _ (List.mem_of_getElem? hwait)).parked since rfl
    exact hparked.resolve_left (Nat.not_lt.mpr hasleep)
  · refine ⟨_, step?_wake htoken, fun since hmem => ?_⟩
    exact Nat.lt_succ_of_le ((hsound.waits _ hmem).since_le since (.inr rfl))
  · exact (hsound.waits w hw).returned_of_poll hidle hquiet

/-- One who waits is parked when the count reaches zero.  Before it is woken the count rises again,
another one is parked, and the count reaches zero once more. -/
def rising : List TrackMove :=
  [.acquire, .beginWait, .arm 0, .look 0, .release 0, .acquire, .beginWait, .arm 1, .look 1,
    .release 1]

/-- What they lead to, from a new tracker. -/
def risen : Tracking := ⟨⟨0, 0⟩, [.waking, .waking], [.parked 0, .parked 0]⟩

/-- Neither has been woken, the count is zero, and each of two tokens is about to wake both. -/
theorem never_stranded_risen :
    new.run? rising = some risen ∧ risen.waits[1]? = some (.parked 0) ∧
      risen.tracker.wakings ≤ 0 ∧ (0 < risen.tracker.active ∨ .waking ∈ risen.tokens) := by
  have hrun : new.run? rising = some risen := by decide
  have hwait : risen.waits[1]? = some (.parked 0) := by decide
  have hasleep : risen.tracker.wakings ≤ 0 := by decide
  obtain ⟨-, -, -, hwill, -⟩ := never_stranded hrun
  exact ⟨hrun, hwait, hasleep, hwill 1 0 hwait hasleep⟩

/-! ## 4. In one go

Nobody has to come in between.  The steps of a token that is given up, or of a poll, then do what
giving it up or the poll does. -/

/-- **A token that is given up and not interrupted.** -/
theorem run?_release {i : Nat} (htoken : s.tokens[i]? = some .live) :
    s.run? (List.replicate (if s.tracker.active = 1 then 2 else 1) (.release i)) =
      some { s with tracker := s.tracker.release, tokens := s.tokens.set i .gone } := by
  have hfirst := step?_lower htoken
  by_cases hlast : s.tracker.active = 1
  · have hi := (List.getElem?_eq_some_iff.mp htoken).1
    rw [if_pos hlast] at hfirst
    have hsecond := step?_wake (s := { s with
      tracker := s.tracker.lower, tokens := s.tokens.set i .waking }) (List.getElem?_set_self hi)
    simp [run?, List.replicate, Tracker.release, hlast, hfirst, hsecond]
  · rw [if_neg hlast] at hfirst
    simp [run?, Tracker.release, hlast, hfirst]

/-- A poll goes on with one of its parts, which is a step if it changes anything. -/
theorem alone_on {i : Nat} {w : IdleWait} {f : Tracker → IdleWait → IdleWait}
    (hi : i < s.waits.length) (hmove : m.wait? = some i)
    (hstep : ∀ s : Tracking, s.step? m = s.stepWait? i f)
    (hbefore : Interleaving.Alone step? (·.wait? = some i) s
      { s with waits := s.waits.set i w }) :
    Interleaving.Alone step? (·.wait? = some i) s
      { s with waits := s.waits.set i (f s.tracker w) } := by
  refine hbefore.go ?_
  by_cases hmoved : f s.tracker w = w
  · rw [hmoved]
    exact .inl rfl
  · refine .inr ⟨m, hmove, ?_⟩
    simp [hstep, stepWait?, hi, hmoved]

/-- **A poll that nobody interrupts.** -/
theorem alone_poll {i : Nat} {w : IdleWait} (hw : s.waits[i]? = some w) :
    Interleaving.Alone step? (·.wait? = some i) s
      { s with waits := s.waits.set i (w.poll s.tracker) } := by
  obtain ⟨hi, hget⟩ := List.getElem?_eq_some_iff.mp hw
  have hstart : Interleaving.Alone step? (·.wait? = some i) s
      { s with waits := s.waits.set i w } := by
    rw [← hget, List.set_getElem_self]
    exact .here
  have hwoken := alone_on (m := .wake i) (f := IdleWait.wake) hi rfl (fun _ => rfl) hstart
  have harmed := alone_on (m := .arm i) (f := IdleWait.arm) hi rfl (fun _ => rfl) hwoken
  exact alone_on (m := .look i) (f := IdleWait.look) hi rfl (fun _ => rfl) harmed

end Tracking
end Gatehouse
