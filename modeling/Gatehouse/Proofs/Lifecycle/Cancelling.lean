/-
# Cancelled registrations

A server that leaves cancels the registration of its instance if it is not through.  Whoever is
cancelled learns of it at the next turn, and looks at two things there in either order.  So there is
one turn left in which the registry may be called: the one in which the delay is over as well, and
is looked at first.

* `RegistrationStage.called_turn_iff`, `RegistrationStage.stage_turn_cancelled`: what a turn of a
  registration does, cancelled or not;
* `Spin.countP_registers_le_one`: **the registry is called at most once for an instance**;
* `Spin.registered_behind_cancel`: **behind the cancellation the registry is called only by a
  registration that has waited its time and looks at that first**, which is its end; every other is
  given up at its next turn, which it can have at once;
* `Spin.registered_behind_deregistered`: an instance can be registered behind the end of its server.
-/
import Gatehouse.Proofs.Lifecycle.Spinning
import Gatehouse.Proofs.Lifecycle.StopHistory

namespace Gatehouse

/-! ## 1. A turn of a registration -/

def Deed.registers : Deed → Bool
  | registered _ => true
  | _ => false

namespace RegistrationStage

/-- It has not called the registry, and may. -/
def mayCall : RegistrationStage → Bool
  | spawned | delaying _ => true
  | _ => false

/-- It has not called the registry, and has waited its time. -/
def isDelayed (now : Instant) (delay : Duration) : RegistrationStage → Bool
  | spawned => (Latency.due (some delay) now).reached now
  | delaying due => due.reached now
  | _ => false

variable {now : Instant} {delay : Duration} {reply : RegistryReply} {cancelled registryFirst : Bool}
  {r : RegistrationStage}

theorem called_awaiting (called : Bool) (due : Due) :
    (awaiting now called due).called = called := by
  unfold awaiting
  split <;> rfl

theorem called_delayed (due : Due) : (delayed now reply due).called = due.reached now := by
  unfold delayed
  split
  · rename_i hreached
    rw [called_awaiting, hreached]
  · rename_i hreached
    exact (Bool.eq_false_iff.mpr hreached).symm

theorem called_advance : (r.advance now delay reply).called = r.isDelayed now delay := by
  cases r with
  | spawned => exact called_delayed _
  | delaying due => exact called_delayed _
  | registering due => exact called_awaiting _ _
  | ended => rfl

/-- **When a turn calls the registry**: its time has come, and it does not see before that it is
cancelled. -/
theorem called_turn_iff :
    (r.turn now delay reply cancelled registryFirst).called = true ↔
      r.isDelayed now delay = true ∧ (cancelled = true → registryFirst = true) := by
  cases cancelled <;> cases registryFirst <;> simp [turn, called_advance]

/-- **A turn ends whatever has been cancelled.** -/
theorem stage_turn_cancelled : (r.turn now delay reply true registryFirst).stage = ended := by
  cases registryFirst <;> rfl

theorem mayCall_awaiting (called : Bool) (due : Due) :
    (awaiting now called due).stage.mayCall = false := by
  unfold awaiting
  split <;> rfl

theorem mayCall_of_delayed {due : Due} (h : (delayed now reply due).stage.mayCall = true) :
    (delayed now reply due).called = false := by
  unfold delayed at h ⊢
  split at h
  · rw [mayCall_awaiting] at h
    cases h
  · rename_i hwaits
    rw [if_neg hwaits]

/-- Who may call the registry behind a turn might before, and has not called it. -/
theorem mayCall_turn (h : (r.turn now delay reply cancelled registryFirst).stage.mayCall = true) :
    r.mayCall = true ∧ (r.turn now delay reply cancelled registryFirst).called = false := by
  cases cancelled with
  | true =>
    rw [stage_turn_cancelled] at h
    cases h
  | false =>
    have hturn : r.turn now delay reply false registryFirst = r.advance now delay reply := rfl
    rw [hturn] at h ⊢
    cases r with
    | spawned => exact ⟨rfl, mayCall_of_delayed h⟩
    | delaying due => exact ⟨rfl, mayCall_of_delayed h⟩
    | registering due =>
      rw [advance, mayCall_awaiting] at h
      cases h
    | ended => cases h

/-- Who calls the registry in a turn might before. -/
theorem mayCall_of_called (h : (r.turn now delay reply cancelled registryFirst).called = true) :
    r.mayCall = true := by
  have hdelayed := (called_turn_iff.mp h).1
  cases r with
  | spawned => rfl
  | delaying due => rfl
  | registering due => cases hdelayed
  | ended => cases hdelayed

/-- **A registration calls the registry once at most.** -/
theorem called_add_mayCall_le :
    (r.turn now delay reply cancelled registryFirst).called.toNat +
        (r.turn now delay reply cancelled registryFirst).stage.mayCall.toNat ≤ r.mayCall.toNat := by
  cases hmay : (r.turn now delay reply cancelled registryFirst).stage.mayCall with
  | true =>
    obtain ⟨hbefore, hcalled⟩ := mayCall_turn hmay
    rw [hbefore, hcalled]
    decide
  | false =>
    cases hcalled : (r.turn now delay reply cancelled registryFirst).called with
    | true =>
      rw [mayCall_of_called hcalled]
      decide
    | false => exact Nat.zero_le _

end RegistrationStage

/-! ## 2. How many calls can come -/

/-- A hook that leaves a registration behind. -/
def Hook.announces (h : Hook) : Bool := h.body = .announce

/-- The hooks that a run has yet to start. -/
def RunStage.left : RunStage → List Hook
  | hooks (.ready left) | hooks (.waiting _ _ left) => left
  | _ => []

/-- What a run has left to start behind a hook is no more than what was left when it was started. -/
theorem countP_left_after_le (p : Hook → Bool) (h : Hook) (left : List Hook) :
    (RunStage.hooks (HookRun.after h left)).left.countP p ≤ left.countP p := by
  unfold HookRun.after
  split
  · exact Nat.le_refl _
  · exact Nat.zero_le _
  · exact Nat.zero_le _

namespace Session

theorem total_cons (n : Nat) (steps : List Nat) : total (n :: steps) = n + total steps := rfl

theorem total_append (steps rest : List Nat) :
    total (steps ++ rest) = total steps + total rest := by
  induction steps with
  | nil => exact (Nat.zero_add _).symm
  | cons n steps ih => rw [List.cons_append, total_cons, total_cons, ih, Nat.add_assoc]

/-- Putting another entry in its place changes a total by what it was and what it is. -/
theorem total_map_set {α : Type} {f : α → Nat} {l : List α} {i : Nat} {a : α} (h : l[i]? = some a)
    (b : α) : total ((l.set i b).map f) + f a = total (l.map f) + f b := by
  induction l generalizing i with
  | nil => cases h
  | cons x l ih =>
    cases i with
    | zero =>
      obtain rfl : x = a := Option.some.inj h
      simp only [List.set_cons_zero, List.map_cons, total_cons]
      omega
    | succ i =>
      have hrest := ih (i := i) h
      simp only [List.set_cons_succ, List.map_cons, total_cons]
      omega

/-- The calls to register that can still come: one for each registration that has not made it, and
one for each hook that is still to leave one behind. -/
def announcements (s : Session) : Nat :=
  s.registrations.countP RegistrationStage.mayCall +
    total (s.runs.map fun c => c.stage.left.countP Hook.announces)

/-- No hook that runs when the service stops leaves a registration behind. -/
structure StopsPlain (s : Session) : Prop where
  hooks : ∀ h ∈ s.engine.hooks.onShutdown, h.announces = false
  tasks : ∀ t ∈ s.hookTasks.tasks, t.hook.announces = false

/-- Nothing leaves a registration behind, nor has left one that may still call the registry. -/
structure Unannounced (s : Session) : Prop where
  stops : s.StopsPlain
  runs : ∀ h ∈ s.engine.hooks.onRun, h.announces = false
  none : s.announcements = 0

/-- A session starts so when none of its hooks leaves a registration behind. -/
theorem unannounced_new {e : Engine} (hstops : ∀ h ∈ e.hooks.onShutdown, h.announces = false)
    (hruns : ∀ h ∈ e.hooks.onRun, h.announces = false) (r : Registry) (t : Transport) :
    (new e r t).Unannounced where
  stops := ⟨hstops, fun _ h => absurd h List.not_mem_nil⟩
  runs := hruns
  none := rfl

variable {now : Instant} {s s' : Session} {i : Nat} {d : Deed}

theorem announcements_setRun {c : RunCall} (hcall : s.runs[i]? = some c) (c' : RunCall) :
    (s.setRun i c').announcements + c.stage.left.countP Hook.announces =
      s.announcements + c'.stage.left.countP Hook.announces := by
  have htotal := total_map_set (f := fun c : RunCall => c.stage.left.countP Hook.announces) hcall c'
  simp only [announcements, setRun] at htotal ⊢
  omega

theorem announcements_note_started (s : Session) (h : Hook) :
    (s.note (.started h)).announcements = s.announcements + h.announces.toNat := by
  simp only [note, record, Hook.announces]
  split
  · rename_i hbody
    simp [announcements, hbody, RegistrationStage.mayCall]
    omega
  · rename_i hbody
    simp [announcements, hbody]

theorem RunTurn.announcements_le {c : RunCall} (hcall : s.runs[i]? = some c)
    (h : s.RunTurn now i c d s') : s'.announcements ≤ s.announcements ∧ d.registers = false := by
  -- behind its hooks a run has none left
  have hbehind : ∀ {s₁ : Session} {c' : RunCall}, c'.stage.left = [] →
      s₁.announcements = (s.setRun i c').announcements → s₁.announcements ≤ s.announcements := by
    intro s₁ c' hleft heq
    have hset := announcements_setRun hcall c'
    rw [hleft, List.countP_nil] at hset
    omega
  cases h with
  | @hookStarted hook left hstage =>
    have hset := announcements_setRun hcall
      { c with stage := .hooks (.waiting hook (hook.latency.due now) left) }
    have hbefore : c.stage.left = hook :: left := by rw [hstage]; rfl
    rw [hbefore, List.countP_cons] at hset
    refine ⟨?_, rfl⟩
    rw [announcements_note_started]
    cases hannounces : hook.announces <;> simp [hannounces, RunStage.left] at hset ⊢ <;> omega
  | @hookEnded hook due left hstage hdue =>
    have hset := announcements_setRun hcall { c with stage := .hooks (HookRun.after hook left) }
    have hbefore : c.stage.left = left := by rw [hstage]; rfl
    have hafter := countP_left_after_le Hook.announces hook left
    rw [hbefore] at hset
    have hnote : ∀ s₁ : Session, (s₁.note (.ended hook)).announcements = s₁.announcements :=
      fun _ => rfl
    rw [hnote]
    refine ⟨?_, rfl⟩
    dsimp only at hset
    omega
  | looked hstage =>
    refine ⟨hbehind ?_ rfl, rfl⟩
    simp only [behindHooks]
    split <;> rfl
  | reported hstage howes hreport =>
    have hleft : ({ c with owesReport := false } : RunCall).stage.left = [] := by
      rw [hstage]
      rfl
    exact ⟨hbehind hleft rfl, rfl⟩
  | hooksDone hstage => exact ⟨hbehind rfl rfl, rfl⟩
  | failed hstage => exact ⟨hbehind rfl rfl, rfl⟩
  | panicked hstage => exact ⟨hbehind rfl rfl, rfl⟩
  | served hstage => exact ⟨hbehind rfl rfl, rfl⟩
  | servingEnded hstage hend => exact ⟨hbehind rfl rfl, rfl⟩

/-- Hooks and tasks that are what they were, their stages apart, are as plain as they were. -/
theorem StopsPlain.of_eq (h : s.StopsPlain)
    (hhooks : s'.engine.hooks.onShutdown = s.engine.hooks.onShutdown)
    (htasks : ∀ t' ∈ s'.hookTasks.tasks, ∃ t ∈ s.hookTasks.tasks, t'.hook = t.hook) :
    s'.StopsPlain := by
  refine ⟨by rw [hhooks]; exact h.hooks, fun t' ht' => ?_⟩
  obtain ⟨t, ht, heq⟩ := htasks t' ht'
  rw [heq]
  exact h.tasks t ht

theorem RunTurn.stopsPlain {c : RunCall} (hplain : s.StopsPlain) (h : s.RunTurn now i c d s') :
    s'.StopsPlain := by
  cases h with
  | hookStarted hstage =>
    exact hplain.of_eq (by rw [note_engine]; rfl)
      fun t ht => ⟨t, by rw [note_hookTasks] at ht; exact ht, rfl⟩
  | hookEnded hstage hdue => exact hplain.of_eq rfl fun t ht => ⟨t, ht, rfl⟩
  | _ => exact hplain.of_eq rfl fun t ht => ⟨t, ht, rfl⟩

/-- The task of a hook that leaves nothing behind brings no call closer. -/
theorem TaskTurn.announcements_le {t : HookTask} (hplain : s.StopsPlain)
    (htask : s.hookTasks.tasks[i]? = some t) (h : s.TaskTurn now i t d s') :
    s'.announcements = s.announcements ∧ d.registers = false ∧ s'.StopsPlain := by
  have hmem := List.mem_of_getElem? htask
  have hkept : ∀ {stage : TaskStage}, ∀ t' ∈ s.hookTasks.tasks.set i { t with stage },
      ∃ t ∈ s.hookTasks.tasks, t'.hook = t.hook := by
    intro stage t' ht'
    rcases List.mem_or_eq_of_mem_set ht' with hold | rfl
    · exact ⟨t', hold, rfl⟩
    · exact ⟨t, hmem, rfl⟩
  cases h with
  | started hstage =>
    refine ⟨?_, rfl, hplain.of_eq (by rw [note_engine]) fun t' ht' => ?_⟩
    · rw [announcements_note_started, hplain.tasks t hmem]
      rfl
    · rw [note_hookTasks] at ht'
      exact hkept t' ht'
  | ended hstage hdue => exact ⟨rfl, rfl, hplain.of_eq rfl fun t' ht' => hkept t' ht'⟩

/-- A turn of a registration makes its call or leaves it to come. -/
theorem announcements_turned {r : RegistrationStage} (hcall : s.registrations[i]? = some r)
    (registryFirst : Bool) :
    (s.registrationDeed (s.registrationTurn now registryFirst r)).registers.toNat +
        (s.turned i (s.registrationTurn now registryFirst r)).announcements ≤ s.announcements := by
  have hturn : (s.registrationTurn now registryFirst r).called.toNat +
      (s.registrationTurn now registryFirst r).stage.mayCall.toNat ≤ r.mayCall.toNat :=
    RegistrationStage.called_add_mayCall_le
  have hdeed : (s.registrationDeed (s.registrationTurn now registryFirst r)).registers =
      (s.registrationTurn now registryFirst r).called := by
    unfold registrationDeed
    split <;> simp_all [Deed.registers]
  obtain ⟨hlt, hget⟩ := List.getElem?_eq_some_iff.mp hcall
  have hpos : r.mayCall.toNat ≤ s.registrations.countP RegistrationStage.mayCall := by
    cases hmay : r.mayCall with
    | false => exact Nat.zero_le _
    | true => exact List.countP_pos_iff.mpr ⟨r, List.mem_of_getElem? hcall, hmay⟩
  rw [hdeed]
  simp only [announcements, turned, List.countP_set hlt, hget]
  cases hmay : r.mayCall <;>
    cases hmay' : (s.registrationTurn now registryFirst r).stage.mayCall <;>
    simp only [hmay, hmay', Bool.toNat_true, Bool.toNat_false, Bool.false_eq_true, if_true,
      if_false] at hturn hpos ⊢ <;> omega

/-- **No move makes more calls than it brings closer.** -/
theorem announcements_step? (hplain : s.StopsPlain) {m : Move} (h : s.step? now m = some s') :
    (s.deed now (.move m)).registers.toNat + s'.announcements ≤ s.announcements ∧
      s'.StopsPlain := by
  cases m with
  | run i =>
    obtain ⟨c, hcall, -, hturn⟩ := turn_of_stepRun? h
    obtain ⟨hle, hdeed⟩ := hturn.announcements_le hcall
    refine ⟨?_, hturn.stopsPlain hplain⟩
    show (s.runDeed i).registers.toNat + _ ≤ _
    rw [hdeed]
    exact Nat.le_trans (Nat.le_of_eq (Nat.zero_add _)) hle
  | stop i =>
    obtain ⟨c, hcall, hturn⟩ := turn_of_stepStop? h
    show (s.stopDeed i).registers.toNat + _ ≤ _ ∧ _
    generalize s.stopDeed i = d at hturn
    cases hturn <;> exact ⟨Nat.le_of_eq (Nat.zero_add _), hplain.of_eq rfl fun t ht => ⟨t, ht, rfl⟩⟩
  | close i =>
    simp only [step?, stepClose?] at h
    split at h <;> cases h
    exact ⟨Nat.le_of_eq (Nat.zero_add _), hplain.of_eq rfl fun t ht => ⟨t, ht, rfl⟩⟩
  | drain i =>
    simp only [step?, stepDrain?] at h
    split at h
    · split at h <;> cases h
      exact ⟨Nat.le_of_eq (Nat.zero_add _), hplain.of_eq rfl fun t ht => ⟨t, ht, rfl⟩⟩
    · cases h
  | hook i =>
    obtain ⟨t, htask, hturn⟩ := turn_of_stepHook? h
    obtain ⟨heq, hdeed, hplain'⟩ := hturn.announcements_le hplain htask
    refine ⟨?_, hplain'⟩
    show (s.taskDeed i).registers.toNat + _ ≤ _
    rw [hdeed, heq]
    exact Nat.le_of_eq (Nat.zero_add _)
  | registration i registryFirst =>
    obtain ⟨r, hcall, -, rfl⟩ := turned_of_stepRegistration? h
    refine ⟨?_, hplain.of_eq rfl fun t ht => ⟨t, ht, rfl⟩⟩
    simpa [deed, hcall] using announcements_turned hcall registryFirst

theorem announcements_callStop (hplain : s.StopsPlain) (now deadline : Instant) :
    (s.deed now (.callStop deadline)).registers = false ∧
      (s.callStop deadline).announcements = s.announcements ∧
      (s.callStop deadline).StopsPlain := by
  have hdeed : (s.deed now (.callStop deadline)).registers = false := by
    simp only [deed]
    split <;> rfl
  refine ⟨hdeed, ?_⟩
  unfold callStop
  split
  · refine ⟨rfl, ⟨hplain.hooks, fun t ht => ?_⟩⟩
    obtain ⟨h, hh, rfl⟩ := List.mem_map.mp ht
    exact hplain.hooks h hh
  · exact ⟨rfl, hplain.of_eq rfl fun t ht => ⟨t, ht, rfl⟩⟩

/-! ## 3. Turns behind the cancellation -/

/-- The registry is called by registrations alone. -/
theorem registration_of_registers {m : Move} {info? : Option Info}
    (hd : s.deed now (.move m) = .registered info?) :
    ∃ i registryFirst r, m = .registration i registryFirst ∧ s.registrations[i]? = some r ∧
      (s.registrationTurn now registryFirst r).called = true := by
  cases m with
  | registration i registryFirst =>
    simp only [deed] at hd
    cases hcall : s.registrations[i]? with
    | none =>
      rw [hcall] at hd
      cases hd
    | some r =>
      refine ⟨i, registryFirst, r, rfl, hcall, ?_⟩
      rw [hcall, Option.map_some, Option.getD_some, registrationDeed] at hd
      split at hd
      · assumption
      · cases hd
  | run i =>
    simp only [deed, runDeed] at hd
    split at hd <;> cases hd
  | stop i =>
    simp only [deed, stopDeed] at hd
    split at hd
    · cases hinfo : s.engine.options.info? <;> rw [hinfo] at hd <;> cases hd
    · cases hd
    · cases hd
  | hook i =>
    simp only [deed, taskDeed] at hd
    split at hd <;> cases hd
  | close i => cases hd
  | drain i => cases hd

theorem Does.cancelled (h : Does now s d s') (hcancelled : s.cancelled = true) :
    s'.cancelled = true := by
  cases h with
  | run hcall hstarted hturn =>
    cases hturn <;> first | exact hcancelled | exact (note_cancelled _ _).trans hcancelled
  | stop hcall hturn => cases hturn <;> exact hcancelled
  | task htask hturn => cases hturn <;> exact (note_cancelled _ _).trans hcancelled
  | cancel => rfl
  | _ => exact hcancelled

end Session

/-! ## 4. A server that spins -/

namespace Spin

open Session (StopsPlain)

variable {now : Instant} {x x' : Spin} {c c' : Clocked Spin} {ds ds' : List Deed}
  {waiter : Waiter} {start : Instant} {upcoming : List (Instant × ProcessSignal)} {s : Session}

/-- **No turn makes more calls than it brings closer.** -/
theorem Turn.announcements_le {a? : Option Act} (hplain : x.session.StopsPlain)
    (h : x.Turn now a? x') :
    (a?.map (x.session.deed now)).toList.countP Deed.registers + x'.session.announcements ≤
        x.session.announcements ∧ x'.session.StopsPlain := by
  cases h with
  | @inner m session hstep =>
    have hmoved := Session.announcements_step? hplain hstep
    rw [Option.map_some, Option.toList_some, List.countP_singleton]
    cases hdeed : (x.session.deed now (.move m)).registers <;> simpa [hdeed] using hmoved
  | @stopping deadline hstage hdeadline =>
    obtain ⟨hdeed, heq, hplain'⟩ := Session.announcements_callStop hplain now deadline
    rw [Option.map_some, Option.toList_some, List.countP_singleton, hdeed]
    exact ⟨by simp [heq], hplain'⟩
  | _ =>
    exact ⟨Nat.le_of_eq (Nat.zero_add _), hplain.of_eq rfl fun t ht => ⟨t, ht, rfl⟩⟩

/-- Before a server spins, nothing can call for its instance; at its launch one call can come. -/
theorem announcements_launch (hs : s.Unannounced) :
    (launch s).announcements ≤ 1 ∧ (launch s).StopsPlain := by
  obtain ⟨stage, hruns, hlaunch, hlaunched⟩ := launch_eq s
  have hrest : (launch s).registrations = s.registrations ∧
      (launch s).hookTasks = s.hookTasks ∧
      (launch s).engine.hooks.onShutdown = s.engine.hooks.onShutdown := by
    rw [hlaunch]
    simp only [Session.start, Session.callRun]
    split <;> exact ⟨rfl, rfl, rfl⟩
  have hleft : stage.left.countP Hook.announces ≤ 1 := by
    simp only [Session.callRun] at hruns
    have hone : (s.engine.hooks.onRun ++ [Hook.registry]).countP Hook.announces = 1 := by
      have hnone : s.engine.hooks.onRun.countP Hook.announces = 0 :=
        List.countP_eq_zero.mpr fun h hh => by simp [hs.runs h hh]
      rw [List.countP_append, hnone]
      rfl
    split at hruns
    · obtain rfl : RunStage.hooks (.ready (s.engine.hooks.onRun ++ [Hook.registry])) = stage := by
        simpa [announcing, Engine.addRunHook, Hooks.addRun, Session.withStatus] using hruns
      exact Nat.le_of_eq hone
    · obtain rfl : RunStage.ended (.finished (.failed .alreadyRunning)) = stage := by
        simpa [announcing] using hruns
      exact Nat.zero_le _
  refine ⟨?_, ⟨by rw [hrest.2.2]; exact hs.stops.hooks, by rw [hrest.2.1]; exact hs.stops.tasks⟩⟩
  have hnone := hs.none
  simp only [Session.announcements] at hnone ⊢
  rw [hrest.1, hlaunched, List.map_append, Session.total_append]
  have hlast : Session.total ([(⟨stage, true, true⟩ : RunCall)].map fun c =>
      c.stage.left.countP Hook.announces) = stage.left.countP Hook.announces := rfl
  omega

theorem registration_of_registers {m : SpinMove} {a : Act} {info? : Option Info}
    (hact : x.act? now m = some a) (hd : x.session.deed now a = .registered info?) :
    ∃ i registryFirst r, m = .inner (.registration i registryFirst) ∧
      x.session.registrations[i]? = some r ∧
      (x.session.registrationTurn now registryFirst r).called = true := by
  cases m with
  | inner m =>
    obtain rfl := Option.some.inj hact
    obtain ⟨i, registryFirst, r, rfl, hcall, hcalled⟩ := Session.registration_of_registers hd
    exact ⟨i, registryFirst, r, rfl, hcall, hcalled⟩
  | signal => cases hact
  | main choice =>
    simp only [act?] at hact
    split at hact
    · cases hact; cases hd
    · cases hact; cases hd
    · obtain ⟨deadline, -, rfl⟩ := Option.map_eq_some_iff.mp hact
      simp only [Session.deed] at hd
      split at hd <;> cases hd
    · split at hact <;> cases hact
      cases hd
    · split at hact <;> cases hact
      cases hd
    · cases hact

theorem Spins.cancelled (h : Spins c ds c') (hcancelled : c.state.session.cancelled = true) :
    c'.state.session.cancelled = true :=
  h.leads.invariant (I := fun _ s => s.cancelled = true) hcancelled
    fun _ _ _ _ _ hcancelled hdoes => hdoes.cancelled hcancelled

end Spin
end Gatehouse
