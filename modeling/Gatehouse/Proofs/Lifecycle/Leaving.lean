/-
# How a server leaves

The outcome of its waiter decides how a server leaves, and nothing that happens later makes a
difference to it.  A bad outcome has the engine closed and nothing else; a good one has it shut down
and nothing else.  Either is called for once, and when that call has returned, whatever it has come
to, the server leaves with the outcome that it had.

* `Spin.Spins.decided`: **an outcome has its moment**: the one offer that the waiter has taken;
* `Spin.Spins.first_report`: **the first report stays the first**;
* `Spin.leaves_once`: **a server leaves once, in the one way that its waiter's outcome says**.
-/
import Gatehouse.Proofs.Lifecycle.StopSide

namespace Gatehouse

/-- How a server leaves that has this outcome. -/
def Finish.exit : Finish → Exit
  | .well => .graceful
  | .failed cause => .forced cause

namespace Spin

variable {now : Instant} {x x' : Spin} {c c' : Clocked Spin} {ds : List Deed} {f : Finish}

/-! ## 1. Outcomes -/

/-- A turn keeps the outcome, or is the one in which the waiter takes it. -/
theorem Turn.outcome?_eq {a? : Option Act} (h : x.Turn now a? x') :
    x'.stage.outcome? = x.stage.outcome? ∨ x.stage = .waiting ∧ a? = none ∧
      ∃ f ∈ x.offers now, x' = { x with stage := .resolved f } := by
  cases h with
  | resolved hstage hoffer => exact Or.inr ⟨hstage, rfl, _, hoffer, rfl⟩
  | inner hstep => exact Or.inl rfl
  | signalled hcomes => exact Or.inl rfl
  | cancelled hstage => exact Or.inl (by rw [hstage]; rfl)
  | closing hstage => exact Or.inl (by rw [hstage]; rfl)
  | stopping hstage hdeadline => exact Or.inl (by rw [hstage]; rfl)
  | crashed hstage hdeadline => exact Or.inl (by rw [hstage]; rfl)
  | closed hstage hcall => exact Or.inl (by rw [hstage]; rfl)
  | closePanicked hstage hcall => exact Or.inl (by rw [hstage]; rfl)
  | stopped hstage hcall => exact Or.inl (by rw [hstage]; rfl)
  | stopPanicked hstage hcall => exact Or.inl (by rw [hstage]; rfl)

/-- **An outcome stays.** -/
theorem Spins.outcome?_eq (h : Spins c ds c') (hf : c.state.stage.outcome? = some f) :
    c'.state.stage.outcome? = some f := by
  refine h.invariant (I := fun c => c.state.stage.outcome? = some f) hf ?_
    fun _ _ _ hsame _ => hsame
  intro now x a? x' hsame hturn
  rcases hturn.outcome?_eq with heq | ⟨hstage, -, -⟩
  · exact heq.trans hsame
  · rw [hstage] at hsame
    cases hsame

/-- **An outcome has its moment**: the waiter has taken it from what it was offered then. -/
theorem Spins.decided (h : Spins c ds c') (hnone : c.state.stage.outcome? = none)
    (hf : c'.state.stage.outcome? = some f) :
    ∃ ds₁ c₁ ds₂, ds = ds₁ ++ ds₂ ∧ Spins c ds₁ c₁ ∧ c₁.state.stage = .waiting ∧
      f ∈ c₁.state.offers c₁.now ∧
      Spins ⟨c₁.now, { c₁.state with stage := .resolved f }⟩ ds₂ c' := by
  induction h with
  | here =>
    rw [hnone] at hf
    cases hf
  | @move ds c₁ m x before hstep ih =>
    have hturn := turn_of_step? hstep
    -- either this move takes the outcome, or it was there before
    rcases hturn.outcome?_eq with heq | ⟨hstage, hact, g, hoffer, rfl⟩
    · obtain ⟨ds₁, c₀, ds₂, rfl, hfirst, hwaits, hoffer, hrest⟩ := ih (heq.symm.trans hf)
      exact ⟨ds₁, c₀, _, List.append_assoc _ _ _, hfirst, hwaits, hoffer, hrest.move hstep⟩
    · obtain rfl : g = f := Option.some.inj hf
      rw [hact]
      exact ⟨ds, c₁, [], rfl, before, hstage, hoffer, .here⟩
  | wait before hlater ih =>
    obtain ⟨ds₁, c₀, ds₂, rfl, hfirst, hwaits, hoffer, hrest⟩ := ih hf
    exact ⟨ds₁, c₀, ds₂, rfl, hfirst, hwaits, hoffer, hrest.wait hlater⟩

/-- The call to shut down comes from the server, with the time that the options leave. -/
theorem Turn.stopTaken {a : Act} {k : Nat} {deadline : Instant} {hooks : List Hook}
    (h : x.Turn now (some a) x') (hd : x.session.deed now a = .stopTaken k deadline hooks) :
    x.stage = .leaving .well ∧
      Instant.after? now x.session.engine.options.exitWait = some deadline := by
  cases h with
  | inner hstep =>
    have hhalts := (Session.ending_of_step? hstep).2.1
    rw [hd] at hhalts
    cases hhalts
  | stopping hstage hdeadline =>
    simp only [Session.deed] at hd
    split at hd <;> cases hd
    exact ⟨hstage, hdeadline⟩
  | cancelled hstage => cases hd
  | closing hstage => cases hd
  | closed hstage hcall => cases hd
  | stopped hstage hcall => cases hd

/-- A moment that the clock cannot hold does not come closer. -/
theorem after?_eq_none_of_le {t t' : Instant} {span : Duration} (hle : t ≤ t')
    (hnone : Instant.after? t span = none) : Instant.after? t' span = none := by
  unfold Instant.after? at hnone ⊢
  split at hnone
  · cases hnone
  · rename_i hlate
    have hmono : (t + span.nanos) / 1000000000 ≤ (t' + span.nanos) / 1000000000 :=
      Nat.div_le_div_right (Nat.add_le_add_right hle _)
    exact if_neg fun hearly => hlate (Nat.lt_of_le_of_lt hmono hearly)

/-- A server crashes only where the clock cannot hold the deadline. -/
theorem Spins.crashed (h : Spins c ds c') (hstart : c.state.stage ≠ .crashed) :
    c'.state.stage = .crashed →
      Instant.after? c'.now c'.state.session.engine.options.exitWait = none := by
  refine h.invariant (I := fun c => c.state.stage = .crashed →
    Instant.after? c.now c.state.session.engine.options.exitWait = none)
    (fun hcrashed => absurd hcrashed hstart) ?_ ?_
  · intro now x a? x' hlate hturn hcrashed
    cases hturn with
    | @inner m session hstep =>
      have hoptions := (Session.does_of_act? (a := .move m) hstep).options_eq.1
      show Instant.after? now session.engine.options.exitWait = none
      rw [hoptions]
      exact hlate hcrashed
    | signalled hcomes => exact hlate hcrashed
    | crashed hstage hdeadline => exact hdeadline
    | _ => cases hcrashed
  · intro now t x hlate hlater hcrashed
    exact after?_eq_none_of_le hlater (hlate hcrashed)

end Spin

/-! ## 2. Reports -/

/-- What is in a collector behind a report. -/
theorem Collector.mem_of_report? {c c' : Collector} {f g : Finish} (h : c.report? f = some c')
    (hg : g ∈ c'.sent) : g ∈ c.sent ∨ g = f := by
  unfold report? at h
  split at h
  · cases h
  · split at h <;> cases h
    · simpa using hg
    · exact Or.inl hg

namespace RegistrationStage

variable {now : Instant} {delay : Duration} {reply : RegistryReply} {cancelled registryFirst : Bool}
  {r : RegistrationStage}

/-- It has called the registry and waits for the answer. -/
def hasAsked : RegistrationStage → Bool
  | registering _ => true
  | _ => false

theorem asked_advance (h : (r.advance now delay reply).answered = true ∨
    (r.advance now delay reply).stage.hasAsked = true) :
    (r.advance now delay reply).called = true ∨ r.hasAsked = true := by
  have hdelayed : ∀ due : Due, (delayed now reply due).answered = true ∨
      (delayed now reply due).stage.hasAsked = true → (delayed now reply due).called = true := by
    intro due
    simp only [delayed, awaiting]
    split
    · split <;> exact fun _ => rfl
    · rintro (h | h) <;> cases h
  cases r with
  | spawned => exact Or.inl (hdelayed _ h)
  | delaying due => exact Or.inl (hdelayed due h)
  | registering due => exact Or.inr rfl
  | ended => rcases h with h | h <;> cases h

/-- **An answer has been asked for**: who has it behind a turn, or waits for it, has called the
registry in that turn or was waiting before. -/
theorem asked_turn (h : (r.turn now delay reply cancelled registryFirst).answered = true ∨
    (r.turn now delay reply cancelled registryFirst).stage.hasAsked = true) :
    (r.turn now delay reply cancelled registryFirst).called = true ∨ r.hasAsked = true := by
  cases cancelled with
  | false => exact asked_advance h
  | true =>
    cases registryFirst with
    | false => rcases h with h | h <;> cases h
    | true =>
      rcases h with hanswered | hstage
      · exact asked_advance (Or.inl hanswered)
      · cases hstage

end RegistrationStage

namespace Session

variable {now : Instant} {s s' : Session} {d : Deed} {ds : List Deed}

/-- The registry has been called, by a deed or by a registration that waits for its answer. -/
def Asks (d : Deed) (s : Session) : Prop :=
  (∃ info?, d = .registered info?) ∨ ∃ r ∈ s.registrations, r.hasAsked = true

/-- What has an answer behind a turn, or waits for it, has asked. -/
theorem asks_of_turn {i : Nat} {r : RegistrationStage} {registryFirst : Bool}
    (hcall : s.registrations[i]? = some r)
    (h : (s.registrationTurn now registryFirst r).answered = true ∨
      (s.registrationTurn now registryFirst r).stage.hasAsked = true) :
    Asks (s.registrationDeed (s.registrationTurn now registryFirst r)) s := by
  rcases RegistrationStage.asked_turn h with hcalled | hasked
  · exact Or.inl ⟨_, if_pos hcalled⟩
  · exact Or.inr ⟨r, List.mem_of_getElem? hcall, hasked⟩

/-- **Where a report comes from**: a run, or a refusal of the registry, which has been asked. -/
theorem Does.sent_cases (h : Does now s d s') {g : Finish} (hg : g ∈ s'.collector.sent) :
    g ∈ s.collector.sent ∨ (∃ i, d = .reported i g) ∨
      ∃ cause, g = .failed cause ∧ s.registry.register.finish = g ∧ Asks d s := by
  cases h with
  | run hcall hstarted hturn =>
    cases hturn with
    | reported hstage howes hreport =>
      rcases Collector.mem_of_report? hreport hg with hold | rfl
      · exact Or.inl hold
      · exact Or.inr (Or.inl ⟨_, rfl⟩)
    | hookStarted hstage =>
      rw [note_collector] at hg
      exact Or.inl hg
    | hookEnded hstage hdue =>
      rw [note_collector] at hg
      exact Or.inl hg
    | _ => exact Or.inl hg
  | stop hcall hturn => cases hturn <;> exact Or.inl hg
  | task htask hturn =>
    cases hturn <;>
    · rw [note_collector] at hg
      exact Or.inl hg
  | registration hcall hready registryFirst hdeed =>
    simp only [turned, refusalReported] at hg
    split at hg
    · rename_i cause hanswered hrefused
      cases hreport : s.collector.report? (.failed cause) with
      | none =>
        rw [hreport] at hg
        exact Or.inl hg
      | some collector =>
        rw [hreport] at hg
        rcases Collector.mem_of_report? hreport hg with hold | rfl
        · exact Or.inl hold
        · have hasks := asks_of_turn hcall (Or.inl hanswered)
          exact Or.inr (Or.inr ⟨cause, rfl, hrefused, hdeed ▸ hasks⟩)
    · exact Or.inl hg
  | _ => exact Or.inl hg

/-- Who waits for an answer of the registry has asked. -/
theorem Does.asks (h : Does now s d s') {r : RegistrationStage} (hr : r ∈ s'.registrations)
    (hasked : r.hasAsked = true) : Asks d s := by
  have hnote : ∀ {s₁ : Session} {n : HookNote}, r ∈ (s₁.note n).registrations →
      s₁.registrations = s.registrations → Asks d s := by
    intro s₁ n hmem hsame
    have hold : r ∈ s.registrations ∨ r = .spawned := by
      cases n with
      | ended hook => exact Or.inl (hsame ▸ hmem)
      | started hook =>
        simp only [note, record] at hmem
        split at hmem
        · simpa [hsame] using hmem
        · exact Or.inl (hsame ▸ hmem)
    rcases hold with hold | rfl
    · exact Or.inr ⟨r, hold, hasked⟩
    · cases hasked
  cases h with
  | run hcall hstarted hturn =>
    cases hturn with
    | hookStarted hstage => exact hnote hr rfl
    | hookEnded hstage hdue => exact hnote hr rfl
    | _ => exact Or.inr ⟨r, hr, hasked⟩
  | stop hcall hturn => cases hturn <;> exact Or.inr ⟨r, hr, hasked⟩
  | task htask hturn => cases hturn <;> exact hnote hr rfl
  | registration hcall hready registryFirst hdeed =>
    rcases List.mem_or_eq_of_mem_set hr with hold | rfl
    · exact Or.inr ⟨r, hold, hasked⟩
    · exact hdeed ▸ asks_of_turn hcall (Or.inr hasked)
  | _ => exact Or.inr ⟨r, hr, hasked⟩

/-- Who has sent the reports: each is one of a run, or a refusal of the registry, which has been
called. -/
structure Made (ds : List Deed) (s : Session) : Prop where
  asked : ∀ r ∈ s.registrations, r.hasAsked = true → ∃ info?, .registered info? ∈ ds
  sent : ∀ g ∈ s.collector.sent, (∃ i, .reported i g ∈ ds) ∨
    ∃ cause, g = .failed cause ∧ s.registry.register.finish = g ∧ ∃ info?, .registered info? ∈ ds

/-- **Every deed keeps to what reports are.** -/
theorem Does.made (hdoes : Does now s d s') (h : Made ds s) : Made (ds ++ [d]) s' := by
  have hcalled : Asks d s → ∃ info?, .registered info? ∈ ds ++ [d] := by
    rintro (⟨info?, rfl⟩ | ⟨r, hr, hasked⟩)
    · exact ⟨info?, List.mem_append_right _ (List.mem_singleton_self _)⟩
    · obtain ⟨info?, hmem⟩ := h.asked r hr hasked
      exact ⟨info?, List.mem_append_left _ hmem⟩
  refine ⟨fun r hr hasked => hcalled (hdoes.asks hr hasked), fun g hg => ?_⟩
  rw [hdoes.options_eq.2]
  rcases hdoes.sent_cases hg with hold | ⟨i, rfl⟩ | ⟨cause, hcause, hrefused, hasks⟩
  · rcases h.sent g hold with ⟨i, hi⟩ | ⟨cause, hcause, hrefused, info?, hmem⟩
    · exact Or.inl ⟨i, List.mem_append_left _ hi⟩
    · exact Or.inr ⟨cause, hcause, hrefused, info?, List.mem_append_left _ hmem⟩
  · exact Or.inl ⟨i, List.mem_append_right _ (List.mem_singleton_self _)⟩
  · exact Or.inr ⟨cause, hcause, hrefused, hcalled hasks⟩

end Session

namespace Spin

variable {now : Instant} {c c' : Clocked Spin} {ds : List Deed} {f g : Finish}

theorem Spins.sent_prefix (h : Spins c ds c') :
    c.state.session.collector.sent <+: c'.state.session.collector.sent :=
  h.leads.invariant (I := fun _ s => c.state.session.collector.sent <+: s.collector.sent)
    List.prefix_rfl fun _ _ _ _ _ hbefore hdoes => hbefore.trans hdoes.extends_collector.sent

/-- **The first report stays the first.** -/
theorem Spins.first_report (h : Spins c ds c')
    (hfirst : c.state.session.collector.sent.head? = some g) :
    c'.state.session.collector.sent.head? = some g := by
  obtain ⟨later, hlater⟩ := h.sent_prefix
  rw [← hlater, List.head?_append, hfirst]
  rfl

theorem Spins.taken_eq (h : Spins c ds c') :
    c'.state.session.collector.taken = c.state.session.collector.taken :=
  h.leads.invariant (I := fun _ s => s.collector.taken = c.state.session.collector.taken) rfl
    fun _ _ _ _ _ hsame hdoes => hdoes.extends_collector.taken.trans hsame

/-- A waiter that takes the first report is offered that and nothing else. -/
theorem offers_reports {x : Spin} (hwaiter : x.waiter = .reports 0)
    (htaken : x.session.collector.taken = 0) :
    x.offers now = x.session.collector.sent.head?.toList := by
  simp [offers, hwaiter, Waiter.offers, Collector.queue, htaken, List.head?_eq_getElem?]

/-! ## 3. One exit -/

open Deed (stopSide)

/-- How a server leaves that has begun here with these options and has an outcome. -/
structure Leaves (start : Clocked Spin) (o : Options) (f : Finish) (ds : List Deed)
    (c : Clocked Spin) : Prop where
  /-- The outcome is one that the waiter was offered, and nothing has been done before it. -/
  decided : ∃ ds₁ c₁ ds₂, ds = ds₁ ++ ds₂ ∧ Spins start ds₁ c₁ ∧ c₁.state.stage = .waiting ∧
    f ∈ c₁.state.offers c₁.now ∧ stopSide ds₁ = [] ∧
    Spins ⟨c₁.now, { c₁.state with stage := .resolved f }⟩ ds₂ c
  /-- Nothing that happens later makes a difference to it. -/
  kept : ∀ ds' c', Spins c ds' c' → c'.state.stage.outcome? = some f
  /-- What is done on the stop side is what the outcome asks for, as far as the server has come. -/
  way : ∃ deadline hooks, stopSide ds <+: f.way o.info? deadline hooks ∧
    (c.state.exit? ≠ none → stopSide ds = f.way o.info? deadline hooks)
  /-- That begins with the call. -/
  called : c.state.stage.hasCalled = true ↔ stopSide ds ≠ []
  /-- A shutdown has the time that the options leave from the moment of the call on. -/
  deadline : ∀ before k deadline hooks after, ds = before ++ .stopTaken k deadline hooks :: after →
    ∃ c₁, Spins start before c₁ ∧ c₁.state.stage = .leaving .well ∧
      Instant.after? c₁.now o.exitWait = some deadline
  /-- Up to the call nothing keeps the server, unless the clock cannot hold the deadline. -/
  goes : c.state.stage.hasCalled = false → (f = .well → Instant.after? c.now o.exitWait ≠ none) →
    ∃ x, c.state.step? c.now (.main 0) = some x ∧
      (x.stage = .leaving f ∨ x.stage.hasCalled = true)
  /-- When the call has returned, whatever it has come to, the server leaves as the outcome says. -/
  returns : ∀ g, c.state.callEnd? = some (.finished g) →
    ∃ x, c.state.step? c.now (.main 0) = some x ∧ x.exit? = some f.exit
  /-- A panic of the call is the server's own. -/
  panics : ∀ p, c.state.callEnd? = some (.panicked p) →
    ∃ x, c.state.step? c.now (.main 0) = some x ∧ x.stage = .panicked f.exit p
  /-- It does not leave in another way. -/
  exits : ∀ e, c.state.exit? = some e → e = f.exit

/-- What it is that a server leaves by whose waiter takes the first report. -/
structure LeavesByReport (start : Clocked Spin) (f : Finish) (ds : List Deed) (c : Clocked Spin) :
    Prop where
  /-- Of all reports the outcome is the first, -/
  first : c.state.session.collector.sent.head? = some f
  /-- and so it was at any moment at which something had been reported. -/
  always : ∀ ds₁ c₁ ds₂ g, Spins start ds₁ c₁ → Spins c₁ ds₂ c →
    c₁.state.session.collector.sent.head? = some g → g = f
  /-- It was sent by the run, or by the registration when the registry had been called and had
  refused. -/
  made : (∃ i, .reported i f ∈ ds) ∨
    ∃ cause, f = .failed cause ∧ start.state.session.registry.register.finish = f ∧
      ∃ info?, .registered info? ∈ ds

variable {now : Instant} {x : Spin} {c : Clocked Spin} {ds : List Deed} {f g : Finish} {e : Engine}
  {r : Registry} {t : Transport} {waiter : Waiter} {start : Instant}
  {upcoming : List (Instant × ProcessSignal)}

theorem stage_of_exit? {e : Exit} (h : x.exit? = some e) : x.stage = .exited e := by
  unfold exit? at h
  split at h
  · rename_i e' hstage
    rw [hstage, Option.some.inj h]
  · cases h

/-- A server that has left has left as its outcome says. -/
theorem exit_of_outcome? {e : Exit} (hf : x.stage.outcome? = some f) (h : x.exit? = some e) :
    e = f.exit := by
  rw [stage_of_exit? h] at hf
  cases e <;> cases hf <;> rfl

/-- When the call for the end has ended, the server goes on to the exit of its outcome. -/
theorem step?_of_callEnd? {e : CallEnd} (hf : x.stage.outcome? = some f)
    (h : x.callEnd? = some e) : x.step? now (.main 0) = some (x.behindCall f.exit e) := by
  cases hstage : x.stage with
  | closing call cause =>
    rw [hstage] at hf
    cases hf
    simp only [step?, stepMain?, hstage, h, Option.map_some, Finish.exit]
  | stopping call =>
    rw [hstage] at hf
    cases hf
    simp only [step?, stepMain?, hstage, h, Option.map_some, Finish.exit]
  | _ => simp [callEnd?, hstage] at h

/-- A server that has an outcome and has not called for the end goes on to do so. -/
theorem exists_step_of_outcome? (hf : x.stage.outcome? = some f)
    (hcalled : x.stage.hasCalled = false) (hcrashed : x.stage ≠ .crashed)
    (hholds : f = .well → Instant.after? now x.session.engine.options.exitWait ≠ none) :
    ∃ x', x.step? now (.main 0) = some x' ∧
      (x'.stage = .leaving f ∨ x'.stage.hasCalled = true) := by
  simp only [step?, stepMain?]
  cases hstage : x.stage with
  | resolved g =>
    rw [hstage] at hf
    cases hf
    exact ⟨_, rfl, Or.inl rfl⟩
  | leaving g =>
    rw [hstage] at hf
    cases hf
    cases f with
    | failed cause => exact ⟨_, rfl, Or.inr rfl⟩
    | well =>
      obtain ⟨deadline, hdeadline⟩ := Option.ne_none_iff_exists'.mp (hholds rfl)
      rw [hdeadline]
      exact ⟨_, rfl, Or.inr rfl⟩
  | waiting =>
    rw [hstage] at hf
    cases hf
  | crashed => exact absurd hstage hcrashed
  | _ =>
    rw [hstage] at hcalled
    cases hcalled

section

variable (h : Spins ⟨start, begin (Session.new e r t) waiter start upcoming⟩ ds c)
include h

theorem Spins.options_begin : c.state.session.engine.options = e.options :=
  (leads_history (e := e) (r := r) (t := t) .here h).options_eq.1

omit h in
/-- Nothing has been sent and nobody has been asked before a server spins. -/
theorem made_launch : Session.Made [] (launch (Session.new e r t)) := by
  have hnone : (launch (Session.new e r t)).registrations = [] := by
    obtain ⟨-, -, hlaunch, -⟩ := launch_eq (Session.new e r t)
    rw [hlaunch]
    simp only [Session.start, Session.callRun]
    split <;> rfl
  refine ⟨fun r hr => ?_, fun g hg => ?_⟩
  · rw [hnone] at hr
    cases hr
  · rw [launch_collector] at hg
    cases hg

theorem Spins.taken_begin : c.state.session.collector.taken = 0 :=
  h.taken_eq.trans (congrArg Collector.taken (launch_collector _))

/-- **Nothing is done on the stop side before there is an outcome.** -/
theorem Spins.stopSide_eq_nil (hinit : e.status = .init) (hnone : c.state.stage.outcome? = none) :
    stopSide ds = [] :=
  ((h.trail hinit).of_not_hasCalled (SpinStage.hasCalled_eq_false hnone)).done

/-- **From its outcome on a server leaves as that says.** -/
theorem Spins.leaves (hinit : e.status = .init) (hf : c.state.stage.outcome? = some f) :
    Leaves ⟨start, begin (Session.new e r t) waiter start upcoming⟩ e.options f ds c where
  decided := by
    obtain ⟨ds₁, c₁, ds₂, hds, hfirst, hwaits, hoffer, hrest⟩ := h.decided rfl hf
    have hnone : c₁.state.stage.outcome? = none := by rw [hwaits]; rfl
    exact ⟨ds₁, c₁, ds₂, hds, hfirst, hwaits, hoffer, hfirst.stopSide_eq_nil hinit hnone, hrest⟩
  kept ds' c' hlater := hlater.outcome?_eq hf
  way := by
    have htell : Session.StopsTell ds c.state.session :=
      h.leads.stopsTell (notCalled_launch (r := r) (t := t) hinit).stops
    obtain ⟨deadline, hooks, hprefix, hwhole⟩ := (h.trail hinit).way htell hf
    rw [h.options_begin] at hprefix hwhole
    refine ⟨deadline, hooks, hprefix, fun hexited => ?_⟩
    obtain ⟨e, hexit⟩ := Option.ne_none_iff_exists'.mp hexited
    exact hwhole e (by rw [stage_of_exit? hexit]; exact .exited)
  called := (h.trail hinit).hasCalled_iff
  deadline := by
    rintro before k deadline hooks after rfl
    obtain ⟨c₁, m, a, x, hbefore, hstep, hact, hdeed, -⟩ := h.split
    have hturn := turn_of_step? hstep
    rw [hact] at hturn
    obtain ⟨hleaving, hdeadline⟩ := hturn.stopTaken hdeed
    rw [hbefore.options_begin] at hdeadline
    exact ⟨c₁, hbefore, hleaving, hdeadline⟩
  goes hcalled hholds := by
    rw [← h.options_begin] at hholds
    refine exists_step_of_outcome? hf hcalled (fun hcrashed => ?_) hholds
    rw [hcrashed] at hf
    exact hholds (Option.some.inj hf).symm (h.crashed nofun hcrashed)
  returns g hreturned := ⟨_, step?_of_callEnd? hf hreturned, rfl⟩
  panics p hpanicked := ⟨_, step?_of_callEnd? hf hpanicked, rfl⟩
  exits e := exit_of_outcome? hf

/-- **A waiter that takes the first report has that as its outcome.** -/
theorem Spins.leavesByReport (hwaiter : waiter = .reports 0)
    (hf : c.state.stage.outcome? = some f) :
    LeavesByReport ⟨start, begin (Session.new e r t) waiter start upcoming⟩ f ds c := by
  subst hwaiter
  obtain ⟨ds₁, c₁, ds₂, rfl, hfirst, hwaits, hoffer, hrest⟩ := h.decided rfl hf
  rw [offers_reports hfirst.waiter_eq hfirst.taken_begin, Option.mem_toList] at hoffer
  have hhead : c.state.session.collector.sent.head? = some f := hrest.first_report hoffer
  refine ⟨hhead, fun ds₁ c₁ ds₂ g hbefore hafter hg => ?_, ?_⟩
  · exact Option.some.inj ((hafter.first_report hg).symm.trans hhead)
  · have hmade : Session.Made _ c.state.session := h.leads.invariant (I := Session.Made)
      made_launch fun _ _ _ _ _ hmade hdoes => hdoes.made hmade
    have hregistry : c.state.session.registry =
        (begin (Session.new e r t) (.reports 0) start upcoming).session.registry :=
      h.leads.options_eq.2
    have hsent := hmade.sent f (List.mem_of_head? hhead)
    rwa [hregistry] at hsent

/-- A waiter that takes the first report can take it as soon as it is there. -/
theorem Spins.resolves (hwaiter : waiter = .reports 0) (hstage : c.state.stage = .waiting)
    (hfirst : c.state.session.collector.sent.head? = some g) :
    c.state.step? c.now (.main 0) = some { c.state with stage := .resolved g } := by
  subst hwaiter
  have hoffer : (c.state.offers c.now)[0]? = some g := by
    rw [offers_reports h.waiter_eq h.taken_begin, hfirst]
    rfl
  simp only [step?, stepMain?, hstage, hoffer, Option.map_some]

end

/-- **A server leaves once, and its outcome says how.**  Whatever its transport, its registry and
its hooks do, and however the moves of the server, its calls and its tasks come after each other: as
long as the waiter has no outcome, nothing is done on the stop side.  From its outcome on the server
leaves as that says.  A waiter that takes the first report has that as its outcome, and can take it
as soon as it is there. -/
theorem leaves_once (hinit : e.status = .init)
    (h : Spins ⟨start, begin (Session.new e r t) waiter start upcoming⟩ ds c) :
    (c.state.stage.outcome? = none → stopSide ds = []) ∧
      (∀ f, c.state.stage.outcome? = some f →
        Leaves ⟨start, begin (Session.new e r t) waiter start upcoming⟩ e.options f ds c ∧
          (waiter = .reports 0 →
            LeavesByReport ⟨start, begin (Session.new e r t) waiter start upcoming⟩ f ds c)) ∧
      ∀ g, waiter = .reports 0 → c.state.stage = .waiting →
        c.state.session.collector.sent.head? = some g →
          c.state.step? c.now (.main 0) = some { c.state with stage := .resolved g } := by
  refine ⟨h.stopSide_eq_nil hinit, fun f hf => ⟨h.leaves hinit hf, fun hwaiter => ?_⟩, ?_⟩
  · exact h.leavesByReport hwaiter hf
  · intro g hwaiter hstage hfirst
    exact h.resolves hwaiter hstage hfirst

/-- A hook that fails is the first report, and the server leaves by it. -/
theorem leaves_once_failing : ∃ ds c cause,
    (warming (.failed (.failed "cold" none))).engine.status = .init ∧
      Spins ⟨0, begin (warming (.failed (.failed "cold" none))) (.reports 0) 0 []⟩ ds c ∧
      c.state.exit? = some (.forced cause) ∧ stopSide ds = [.closeCalled, .closed] ∧
      c.state.session.collector.sent.head? = some (.failed cause) := by
  have hspins : ∃ ds c cause,
      Spins ⟨0, begin (warming (.failed (.failed "cold" none))) (.reports 0) 0 []⟩ ds c ∧
        c.state.stage = .exited (.forced cause) := by
    have hreported := (((Spins.here
      (c := ⟨0, begin (warming (.failed (.failed "cold" none))) (.reports 0) 0 []⟩)).move
      (m := .inner (.run 0)) rfl).move (m := .inner (.run 0)) rfl).move (m := .inner (.run 0)) rfl
    have hleaves := (((hreported.move (m := .inner (.run 0)) rfl).move (m := .main 0) rfl).move
      (m := .main 0) rfl).move (m := .main 0) rfl
    exact ⟨_, _, _, (hleaves.move (m := .inner (.close 0)) rfl).move (m := .main 0) rfl, rfl⟩
  obtain ⟨ds, c, cause, hspins, hstage⟩ := hspins
  have houtcome : c.state.stage.outcome? = some (.failed cause) := by rw [hstage]; rfl
  have hexit : c.state.exit? = some (.forced cause) := by rw [exit?, hstage]
  obtain ⟨-, hleaves, -⟩ := leaves_once rfl hspins
  obtain ⟨hway, hreport⟩ := hleaves _ houtcome
  obtain ⟨deadline, hooks, -, hwhole⟩ := hway.way
  exact ⟨ds, c, cause, rfl, hspins, hexit, hwhole (by rw [hexit]; exact nofun),
    (hreport rfl).first⟩

end Spin
end Gatehouse
