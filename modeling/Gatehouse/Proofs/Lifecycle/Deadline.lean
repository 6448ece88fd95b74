/-
# The deadline of a shutdown

A shutdown is given a deadline.  It passes that on to the transport, which may keep to it, and waits
for the hooks with a timer of its own, so that neither holds it up for longer.  It waits for the
registry without one.

* `Transport.punctual_listener`: a listener keeps to the deadline of a drain;
* `Session.stepStop?_eq_none_iff`: a shutdown cannot go on when it is over or when it is blocked on
  one of its collaborators;
* `Session.leads_deadline`: **behind its deadline a shutdown is blocked on nobody but the
  registry**, and on the registry as long as that does not answer;
* `Session.deadline_missed`: a shutdown that is blocked behind its deadline.
-/
import Gatehouse.Proofs.Lifecycle.StopHistory

namespace Gatehouse

/-! ## 1. Timers -/

namespace Transport

/-- Every drain ends by its deadline, or at once if that has passed. -/
def Punctual (t : Transport) : Prop :=
  ∀ now deadline : Nat, ∃ due, (t.drain now deadline).1.due = some due ∧
    due ≤ Instant.tick (max now deadline)

theorem punctual_scripted {script : TransportScript} (hkeeps : script.keepsDeadline = true)
    (stopped : Bool) : (scripted script stopped).Punctual := by
  intro now deadline
  simp only [drain, TransportScript.drain, hkeeps, Bool.true_and]
  split
  · refine ⟨_, rfl, Instant.tick_mono ?_⟩
    show now + min (deadline - now) _ ≤ max now deadline
    omega
  · rename_i hshort
    cases htime : script.drainTime with
    | none => simp [htime] at hshort
    | some time =>
      have hfits : time.nanos ≤ deadline - now := by simpa [htime] using hshort
      refine ⟨_, rfl, Instant.tick_mono ?_⟩
      show now + min time.nanos _ ≤ max now deadline
      omega

/-- **A listener is punctual.** -/
theorem punctual_listener (l : Listener) : (listener l).Punctual := by
  intro now deadline
  simp only [drain, Listener.drain]
  split
  · exact ⟨_, rfl, Nat.le_trans (Nat.le_max_left _ _) (Instant.le_tick _)⟩
  · exact ⟨_, rfl, Nat.le_refl _⟩

end Transport

/-! ## 2. Blocked shutdowns -/

/-- Whom a shutdown waits for. -/
inductive Collaborator
  | registry
  | transport
  | hooks
deriving DecidableEq, Repr

namespace StopCall

/-- Whom a shutdown is blocked on.  A wait that is over, by an answer or by a timer, blocks no
more. -/
def blockedOn? (now : Instant) (tasks : HookTasks) (c : StopCall) : Option Collaborator :=
  match c.stage with
  | .deregistering due _ => if due.reached now then none else some .registry
  | .draining d _ => if d.due.reached now then none else some .transport
  | .joining _ _ =>
    if tasks.allEnded || Instant.tick c.deadline ≤ now then none else some .hooks
  | _ => none

/-- It has returned or panicked, or nobody waits for it. -/
def isOver (c : StopCall) : Bool :=
  match c.stage with
  | .returned _ => true
  | .panicked _ => true
  | .abandoned => true
  | _ => false

end StopCall

namespace Session

variable {now : Instant} {s s' : Session} {k : Nat} {call : StopCall} {d : Deed} {ds : List Deed}
  {reply : RegistryReply} {t : Transport}

/-- **A shutdown that cannot go on** is over or blocked on one of its collaborators. -/
theorem stepStop?_eq_none_iff (hcall : s.stops[k]? = some call) :
    s.stepStop? now k = none ↔
      call.isOver = true ∨ ∃ who, call.blockedOn? now s.hookTasks = some who := by
  obtain ⟨deadline, stage⟩ := call
  simp only [stepStop?, hcall]
  cases stage with
  | begun =>
    cases s.engine.options.info? <;> simp [StopCall.isOver, StopCall.blockedOn?]
  | _ => simp [StopCall.isOver, StopCall.blockedOn?]

/-! ## 3. Waits of an execution -/

/-- A shutdown waits for the registry and for the transport since it has asked, and panics as the
drain does.  The parameters are how the registry answers and what is drained. -/
def WaitsTimed (reply : RegistryReply) (t : Transport) (now : Instant) (c : StopCall) : Prop :=
  match c.stage with
  | .deregistering due _ => ∃ asked, asked ≤ now ∧ due = reply.latency.due asked
  | .draining d _ => ∃ asked, asked ≤ now ∧ d = (t.drain asked c.deadline).1
  | .panicked p => ∃ asked, (t.drain asked c.deadline).1.ending = .panicked p
  | _ => True

theorem WaitsTimed.later {later : Instant} (h : WaitsTimed reply t now call)
    (hlater : now ≤ later) : WaitsTimed reply t later call := by
  unfold WaitsTimed at h ⊢
  split at h
  · obtain ⟨asked, hasked, hdue⟩ := h
    exact ⟨asked, Nat.le_trans hasked hlater, hdue⟩
  · obtain ⟨asked, hasked, hdrain⟩ := h
    exact ⟨asked, Nat.le_trans hasked hlater, hdrain⟩
  · exact h
  · trivial

/-- A turn of a shutdown sets up its waits so. -/
theorem StopTurn.waitsTimed (h : s.StopTurn now k call d s') (ht : t.Alike s.transport)
    (hbefore : WaitsTimed s.registry.deregister t now call) :
    ∃ call', s'.stops = s.stops.set k call' ∧ WaitsTimed s.registry.deregister t now call' := by
  cases h with
  | deregistered hstage hinfo => exact ⟨_, rfl, now, Nat.le_refl now, rfl⟩
  | unregistered hstage hinfo => exact ⟨_, rfl, trivial⟩
  | answered hstage hdue => exact ⟨_, rfl, trivial⟩
  | drained hstage => exact ⟨_, rfl, now, Nat.le_refl now, ht.drain now call.deadline⟩
  | @idle drain f hstage hdue =>
    refine ⟨_, rfl, ?_⟩
    simp only [WaitsTimed, hstage] at hbefore
    obtain ⟨asked, -, rfl⟩ := hbefore
    cases hend : (t.drain asked call.deadline).1.ending with
    | finished f => trivial
    | panicked p => exact ⟨asked, hend⟩
  | joined hstage hend => exact ⟨_, rfl, trivial⟩

/-- **Every deed keeps the waits of all shutdowns.** -/
theorem Does.waitsTimed (hdoes : Does now s d s') (ht : t.Alike s.transport)
    (h : ∀ call ∈ s.stops, WaitsTimed s.registry.deregister t now call) :
    ∀ call ∈ s'.stops, WaitsTimed s'.registry.deregister t now call := by
  rw [hdoes.options_eq.2]
  have hput : ∀ {k : Nat} {call' : StopCall}, WaitsTimed s.registry.deregister t now call' →
      ∀ call ∈ s.stops.set k call', WaitsTimed s.registry.deregister t now call := by
    intro k call' hcall' call hmem
    rcases List.mem_or_eq_of_mem_set hmem with hmem | rfl
    · exact h call hmem
    · exact hcall'
  have hadd : ∀ {call' : StopCall}, WaitsTimed s.registry.deregister t now call' →
      ∀ call ∈ s.stops ++ [call'], WaitsTimed s.registry.deregister t now call := by
    intro call' hcall' call hmem
    rcases List.mem_append.mp hmem with hmem | hmem
    · exact h call hmem
    · exact List.mem_singleton.mp hmem ▸ hcall'
  cases hdoes with
  | stopTaken hstatus deadline => exact hadd trivial
  | stopRefused hstatus deadline => exact hadd trivial
  | @stopAbandoned k call hcall =>
    refine hput ?_
    have hwaits := h call (List.mem_of_getElem? hcall)
    obtain ⟨deadline, stage⟩ := call
    cases stage with
    | panicked p => exact hwaits
    | _ => trivial
  | stop hcall hturn =>
    obtain ⟨call', hstops, hwaits⟩ := hturn.waitsTimed ht (h _ (List.mem_of_getElem? hcall))
    rw [hstops]
    exact hput hwaits
  | run hcall hstarted hturn => cases hturn <;> first | exact h | rw [note_stops]; exact h
  | task htask hturn => cases hturn <;> rw [note_stops] <;> exact h
  | _ => exact h

/-- **How every shutdown of an execution waits.** -/
theorem Leads.waitsTimed {c c' : Clocked Session} (h : Leads c ds c')
    (hfresh : c.state.stops = []) :
    ∀ call ∈ c'.state.stops,
      WaitsTimed c'.state.registry.deregister c.state.transport c'.now call := by
  have hkept := h.invariant_clocked
    (I := fun c₁ => c.state.transport.Alike c₁.state.transport ∧ ∀ call ∈ c₁.state.stops,
      WaitsTimed c₁.state.registry.deregister c.state.transport c₁.now call) ⟨.rfl, ?_⟩
    (fun _ _ _ _ hwaits hdoes => ⟨hdoes.alike hwaits.1, hdoes.waitsTimed hwaits.1 hwaits.2⟩)
    fun _ _ _ hwaits hlater => ⟨hwaits.1, fun call hmem => (hwaits.2 call hmem).later hlater⟩
  · exact hkept.2
  · rw [hfresh]
    exact List.forall_mem_nil _

/-! ## 4. Behind the deadline -/

/-- Behind the deadline neither a punctual drain nor a hook blocks a shutdown that waits so. -/
theorem WaitsTimed.registry_of_blocked {tasks : HookTasks} {who : Collaborator}
    (h : WaitsTimed reply t now call) (ht : t.Punctual) (hpast : call.deadline ≤ now)
    (hwhole : Instant.tick now = now) (hblocked : call.blockedOn? now tasks = some who) :
    who = .registry ∧ ∃ asked f, call.stage = .deregistering (reply.latency.due asked) f ∧
      asked ≤ now ∧ (reply.latency.due asked).reached now = false := by
  obtain ⟨deadline, stage⟩ := call
  cases stage with
  | deregistering due f =>
    obtain ⟨asked, hasked, rfl⟩ := h
    simp only [StopCall.blockedOn?] at hblocked
    split at hblocked
    · cases hblocked
    · rename_i hdue
      exact ⟨(Option.some.inj hblocked).symm, asked, f, rfl, hasked, by simpa using hdue⟩
  | draining drain f =>
    obtain ⟨asked, hasked, hdrain⟩ := h
    obtain rfl : drain = (t.drain asked deadline).1 := hdrain
    obtain ⟨due, hdue, hends⟩ := ht asked deadline
    have hle : due ≤ now := by
      calc due ≤ Instant.tick (max asked deadline) := hends
        _ ≤ Instant.tick now := Instant.tick_mono (Nat.max_le.mpr ⟨hasked, hpast⟩)
        _ = now := hwhole
    have hreached : (t.drain asked deadline).1.due.reached now = true := by
      rw [hdue]
      exact decide_eq_true hle
    simp only [StopCall.blockedOn?, hreached] at hblocked
    cases hblocked
  | joining f d =>
    have hrung : Instant.tick deadline ≤ now := by
      calc Instant.tick deadline ≤ Instant.tick now := Instant.tick_mono hpast
        _ = now := hwhole
    simp only [StopCall.blockedOn?, hrung, decide_true, Bool.or_true] at hblocked
    cases hblocked
  | _ => cases hblocked

/-- **Behind its deadline a shutdown is blocked on nobody but the registry.**  Whatever the registry
and the hooks do, and whatever a punctual transport does: when the clock, at a whole millisecond,
has come to the deadline, a shutdown that is still blocked has asked the registry to forget the
instance and nothing else, and the registry has not answered. -/
theorem leads_deadline {e : Engine} {r : Registry} {t : Transport} {start : Instant}
    {c : Clocked Session} (ht : t.Punctual) (h : Leads ⟨start, new e r t⟩ ds c)
    (hcall : c.state.stops[k]? = some call) (hpast : call.deadline ≤ c.now)
    (hwhole : Instant.tick c.now = c.now) {who : Collaborator}
    (hblocked : call.blockedOn? c.now c.state.hookTasks = some who) :
    who = .registry ∧ ∃ info hooks asked,
      e.options.info? = some info ∧ asked ≤ c.now ∧
      (r.deregister.latency.due asked).reached c.now = false ∧
      Deed.only Deed.stop? k ds = [.stopTaken k call.deadline hooks, .deregistered k info] := by
  have hregistry : c.state.registry = r := h.options_eq.2
  have hoptions : c.state.engine.options = e.options := h.options_eq.1
  have hwaits := h.waitsTimed rfl call (List.mem_of_getElem? hcall)
  have htells := (h.stopsTell rfl).tells k call hcall
  rw [hregistry] at hwaits htells
  rw [hoptions] at htells
  obtain ⟨hwho, asked, f, hstage, hasked, hdue⟩ :=
    hwaits.registry_of_blocked ht hpast hwhole hblocked
  -- a shutdown at this stage has asked the registry, so that there is an instance to forget
  obtain ⟨deadline, stage⟩ := call
  cases hstage
  generalize Deed.only Deed.stop? k ds = history at htells
  cases htells with
  | @deregistering _ hooks _ info hinfo =>
    refine ⟨hwho, info, hooks, asked, hinfo, hasked, hdue, ?_⟩
    rw [hinfo]
    rfl

def announced : Engine :=
  Engine.new { Options.standard with info? := some (.named "orders" "127.0.0.1:8888") }

/-- A registry that takes its time to forget an instance. -/
def slow : Registry := ⟨⟨some ⟨0⟩, none⟩, ⟨some (.ofMillis 800), none⟩⟩

/-- A transport that is drained at once. -/
def prompt : Transport := .scripted .smooth false

theorem punctual_prompt : prompt.Punctual := Transport.punctual_scripted rfl false

/-- A shutdown within half a second, and what it has come to after seven tenths. -/
def slowStop : List Cue :=
  [.act .callRun, .act (.start 0 false), .act (.move (.run 0)), .act (.move (.run 0)),
    .act (.move (.run 0)), .act (.callStop 500000000), .act (.move (.stop 0)), .wait 700000000]

/-- The shutdown is past its deadline and waits for the registry. -/
theorem slowStop_blocked : ∃ ds c call,
    follow? ⟨0, new announced slow prompt⟩ slowStop = some (ds, c) ∧
      c.state.stops[0]? = some call ∧ call.deadline < c.now ∧ Instant.tick c.now = c.now ∧
      call.blockedOn? c.now c.state.hookTasks = some .registry :=
  ⟨_, _, _, rfl, rfl, by decide, rfl, rfl⟩

/-- The shutdown has come to nothing but the question that the registry has not answered. -/
theorem leads_deadline_slow : ∃ ds c call, prompt.Punctual ∧
    follow? ⟨0, new announced slow prompt⟩ slowStop = some (ds, c) ∧
      c.state.stops[0]? = some call ∧ call.deadline ≤ c.now ∧ Instant.tick c.now = c.now ∧
      call.blockedOn? c.now c.state.hookTasks = some .registry ∧
      ∃ info hooks, Deed.only Deed.stop? 0 ds =
        [.stopTaken 0 call.deadline hooks, .deregistered 0 info] := by
  obtain ⟨ds, c, call, hfollow, hcall, hpast, hwhole, hblocked⟩ := slowStop_blocked
  obtain ⟨-, info, hooks, -, -, -, -, honly⟩ :=
    leads_deadline punctual_prompt (leads_of_follow? hfollow) hcall (Nat.le_of_lt hpast) hwhole
      hblocked
  exact ⟨ds, c, call, punctual_prompt, hfollow, hcall, Nat.le_of_lt hpast, hwhole, hblocked, info,
    hooks, honly⟩

/-- **A shutdown can be blocked behind its deadline.** -/
theorem deadline_missed :
    ¬ ∀ (e : Engine) (r : Registry) (t : Transport) (start : Instant) (ds : List Deed)
        (c : Clocked Session) (k : Nat) (call : StopCall), t.Punctual →
      Leads ⟨start, new e r t⟩ ds c →
      c.state.stops[k]? = some call → call.deadline < c.now →
        call.blockedOn? c.now c.state.hookTasks = none := by
  intro hnever
  obtain ⟨ds, c, call, hfollow, hcall, hpast, -, hblocked⟩ := slowStop_blocked
  have hfree := hnever _ _ _ _ ds c 0 call punctual_prompt (leads_of_follow? hfollow) hcall hpast
  rw [hblocked] at hfree
  cases hfree

end Session
end Gatehouse
