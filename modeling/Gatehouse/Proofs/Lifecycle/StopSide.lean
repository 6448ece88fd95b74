/-
# What a server calls for

A server that leaves calls for the end of its engine: it has the engine closed, or has it shut down.
These calls and what they ask of the collaborators are the stop side.  No move makes such a call,
and the server makes one only, so that what stands on the stop side is told by the stage of the
server.

* `Session.ending_of_step?`: what a move makes of the shutdowns and closes that have been called
  for;
* `Spin.Spins.trail`: **what has been called for is told by the stage** of the server;
* `Spin.Trail.way`: **what is done on the stop side is what the outcome asks for**, in order, as far
  as the server has come, and all of it once the server has left.
-/
import Gatehouse.Proofs.Lifecycle.Reporting

namespace Gatehouse

/-! ## 1. The stop side -/

namespace Deed

variable {ds : List Deed} {d : Deed} {k : Nat}

/-- A call for the end of an engine, or what such a call asks of a collaborator. -/
def onStopSide : Deed → Bool
  | stopTaken _ _ _ | stopRefused _ | deregistered _ _ | drained _ _ | closeCalled | closed => true
  | _ => false

/-- All that has been done on the stop side, in order. -/
def stopSide (ds : List Deed) : List Deed := ds.filter onStopSide

theorem stopSide_concat_other (hd : d.onStopSide = false) : stopSide (ds ++ [d]) = stopSide ds := by
  simp [stopSide, hd]

theorem stopSide_concat_self (hd : d.onStopSide = true) :
    stopSide (ds ++ [d]) = stopSide ds ++ [d] := by
  simp [stopSide, hd]

theorem onStopSide_of_stop? (hd : d.stop? = some k) : d.onStopSide = true := by
  cases d <;> first | rfl | cases hd

/-- Where one shutdown alone has been called for, the stop side is its history. -/
theorem stopSide_eq_only (hown : ∀ d ∈ ds, d.onStopSide = true → d.stop? = some k) :
    stopSide ds = only stop? k ds := by
  refine List.filter_congr fun d hd => ?_
  cases hside : d.onStopSide with
  | true => exact (decide_eq_true (hown d hd hside)).symm
  | false =>
    refine (decide_eq_false fun hstop => ?_).symm
    rw [onStopSide_of_stop? hstop] at hside
    cases hside

end Deed

open Deed in
/-- A shutdown that has been taken and has ended has asked for everything. -/
theorem StopTells.whole {info? : Option Info} {reply : RegistryReply} {k : Nat} {ds : List Deed}
    {c : StopCall} {e : CallEnd} (h : StopTells info? reply k ds c) (hend : c.ending? = some e)
    {deadline : Instant} {hooks : List Hook} (htaken : .stopTaken k deadline hooks ∈ ds) :
    ds = .stopTaken k deadline hooks :: toRegistry k info? ++ [.drained k deadline] := by
  have heq : ∀ {deadline' : Instant} {hooks' : List Hook},
      .stopTaken k deadline hooks ∈
        .stopTaken k deadline' hooks' :: toRegistry k info? ++ [.drained k deadline'] →
      deadline = deadline' ∧ hooks = hooks' := by
    intro deadline' hooks' hmem
    simpa [toRegistry] using hmem
  cases h with
  | refused => simp at htaken
  | returned =>
    obtain ⟨rfl, rfl⟩ := heq htaken
    rfl
  | panicked =>
    obtain ⟨rfl, rfl⟩ := heq htaken
    rfl
  | _ => cases hend

/-! ## 2. Moves -/

namespace Session

variable {now : Instant} {s s' : Session} {d : Deed} {ds : List Deed} {m : Move}

/-- What a move makes of the shutdowns and closes that have been called for: nothing, or one of them
goes on that has not ended. -/
inductive Ending (s : Session) (d : Deed) (s' : Session) : Prop
  | untouched (hd : d.onStopSide = false) (hstops : s'.stops = s.stops)
      (hcloses : s'.closes = s.closes)
  | stop {i : Nat} {c c' : StopCall} (hcall : s.stops[i]? = some c) (hgoing : c.ending? = none)
      (hstops : s'.stops = s.stops.set i c') (hcloses : s'.closes = s.closes)
      (hd : d.onStopSide = true → d.stop? = some i)
  | close {i : Nat} {e : CallEnd} (hcall : s.closes[i]? = some ⟨none⟩) (hstops : s'.stops = s.stops)
      (hcloses : s'.closes = s.closes.set i ⟨some e⟩) (hd : d = .closed)

theorem RunTurn.ending {i : Nat} {c : RunCall} (h : s.RunTurn now i c d s') :
    s'.engine.status = s.engine.status ∧ d.halts = false ∧ Ending s d s' := by
  cases h with
  | hookStarted hstage =>
    exact ⟨congrArg Engine.status (note_engine _ _), rfl,
      .untouched rfl (note_stops _ _) (note_closes _ _)⟩
  | hookEnded hstage hdue =>
    exact ⟨congrArg Engine.status (note_engine _ _), rfl,
      .untouched rfl (note_stops _ _) (note_closes _ _)⟩
  | _ => exact ⟨rfl, rfl, .untouched rfl rfl rfl⟩

/-- A shutdown that has a turn has not ended. -/
theorem StopTurn.going {i : Nat} {c : StopCall} (h : s.StopTurn now i c d s') :
    c.ending? = none := by
  obtain ⟨deadline, stage⟩ := c
  cases h with
  | _ hstage =>
    cases hstage
    rfl

theorem StopTurn.ending {i : Nat} {c : StopCall} (hcall : s.stops[i]? = some c)
    (h : s.StopTurn now i c d s') :
    s'.engine.status = s.engine.status ∧ d.halts = false ∧ Ending s d s' := by
  have hgoing := h.going
  cases h with
  | deregistered hstage hinfo => exact ⟨rfl, rfl, .stop hcall hgoing rfl rfl fun _ => rfl⟩
  | drained hstage => exact ⟨rfl, rfl, .stop hcall hgoing rfl rfl fun _ => rfl⟩
  | _ => exact ⟨rfl, rfl, .stop hcall hgoing rfl rfl nofun⟩

/-- **What a move makes of what has been called for.**  No move calls for the end of the engine. -/
theorem ending_of_step? (h : s.step? now m = some s') :
    s'.engine.status = s.engine.status ∧ (s.deed now (.move m)).halts = false ∧
      Ending s (s.deed now (.move m)) s' := by
  cases m with
  | run i =>
    obtain ⟨c, -, -, hturn⟩ := turn_of_stepRun? h
    exact hturn.ending
  | stop i =>
    obtain ⟨c, hcall, hturn⟩ := turn_of_stepStop? h
    exact hturn.ending hcall
  | close i =>
    simp only [step?, stepClose?] at h
    split at h
    · rename_i hcall
      cases h
      exact ⟨rfl, rfl, .close hcall rfl rfl rfl⟩
    · cases h
  | drain i =>
    simp only [step?, stepDrain?] at h
    split at h
    · split at h <;> cases h
      exact ⟨rfl, rfl, .untouched rfl rfl rfl⟩
    · cases h
  | hook i =>
    obtain ⟨t, -, hturn⟩ := turn_of_stepHook? h
    show _ ∧ (s.taskDeed i).halts = false ∧ Ending s (s.taskDeed i) s'
    generalize s.taskDeed i = d at hturn
    cases hturn <;>
      exact ⟨congrArg Engine.status (note_engine _ _), rfl,
        .untouched rfl (note_stops _ _) (note_closes _ _)⟩
  | registration i registryFirst =>
    obtain ⟨r, hcall, -, rfl⟩ := turned_of_stepRegistration? h
    have hdeed : s.deed now (.move (.registration i registryFirst)) =
        s.registrationDeed (s.registrationTurn now registryFirst r) := by
      simp only [deed, hcall, Option.map_some, Option.getD_some]
    rw [hdeed, registrationDeed]
    split <;> exact ⟨rfl, rfl, .untouched rfl rfl rfl⟩

/-! ## 3. What has been called for -/

open Deed (stopSide)

/-- The engine runs, and nothing has been called for. -/
structure NotCalled (ds : List Deed) (s : Session) : Prop where
  running : s.engine.status = .running
  stops : s.stops = []
  closes : s.closes = []
  done : stopSide ds = []

/-- The engine has been told to close, and nothing else. -/
structure ClosedOnce (ds : List Deed) (s : Session) (ending? : Option CallEnd) : Prop where
  stops : s.stops = []
  closes : s.closes = [⟨ending?⟩]
  done : stopSide ds = .closeCalled :: (ending?.map fun _ => Deed.closed).toList

/-- The engine has been told to shut down, and nothing else. -/
structure StoppedOnce (ds : List Deed) (s : Session) (call : StopCall) : Prop where
  stops : s.stops = [call]
  closes : s.closes = []
  taken : ∃ deadline hooks, .stopTaken 0 deadline hooks ∈ ds
  own : ∀ d ∈ ds, d.onStopSide = true → d.stop? = some 0

theorem NotCalled.keep (h : NotCalled ds s) (hd : d.onStopSide = false)
    (hstatus : s'.engine.status = s.engine.status) (hstops : s'.stops = s.stops)
    (hcloses : s'.closes = s.closes) : NotCalled (ds ++ [d]) s' where
  running := hstatus.trans h.running
  stops := hstops.trans h.stops
  closes := hcloses.trans h.closes
  done := (Deed.stopSide_concat_other hd).trans h.done

theorem ClosedOnce.keep {ending? : Option CallEnd} (h : ClosedOnce ds s ending?)
    (hd : d.onStopSide = false) (hstops : s'.stops = s.stops) (hcloses : s'.closes = s.closes) :
    ClosedOnce (ds ++ [d]) s' ending? where
  stops := hstops.trans h.stops
  closes := hcloses.trans h.closes
  done := (Deed.stopSide_concat_other hd).trans h.done

/-- A shutdown goes on or stays as it is, and what is done on the stop side is its own. -/
theorem StoppedOnce.keep {call call' : StopCall} (h : StoppedOnce ds s call)
    (hd : d.onStopSide = true → d.stop? = some 0) (hstops : s'.stops = [call'])
    (hcloses : s'.closes = s.closes) : StoppedOnce (ds ++ [d]) s' call' where
  stops := hstops
  closes := hcloses.trans h.closes
  taken := by
    obtain ⟨deadline, hooks, htaken⟩ := h.taken
    exact ⟨deadline, hooks, List.mem_append_left _ htaken⟩
  own := by
    intro d' hd'
    rcases List.mem_append.mp hd' with hmem | hmem
    · exact h.own d' hmem
    · obtain rfl := List.mem_singleton.mp hmem
      exact hd

/-- Before anything has been called for, nothing is there to go on. -/
theorem NotCalled.move (h : NotCalled ds s) (hstep : s.step? now m = some s') :
    NotCalled (ds ++ [s.deed now (.move m)]) s' := by
  obtain ⟨hstatus, -, hending⟩ := ending_of_step? hstep
  cases hending with
  | untouched hd hstops hcloses => exact h.keep hd hstatus hstops hcloses
  | stop hcall =>
    rw [h.stops] at hcall
    cases hcall
  | close hcall =>
    rw [h.closes] at hcall
    cases hcall

/-- A close goes on until it has ended. -/
theorem ClosedOnce.move {ending? : Option CallEnd} (h : ClosedOnce ds s ending?)
    (hstep : s.step? now m = some s') :
    ∃ ending?', ClosedOnce (ds ++ [s.deed now (.move m)]) s' ending?' ∧
      ∀ e, ending? = some e → ending?' = some e := by
  obtain ⟨-, -, hending⟩ := ending_of_step? hstep
  cases hending with
  | untouched hd hstops hcloses => exact ⟨ending?, h.keep hd hstops hcloses, fun _ => id⟩
  | stop hcall =>
    rw [h.stops] at hcall
    cases hcall
  | @close i e hcall hstops hcloses hd =>
    rw [h.closes, List.getElem?_singleton] at hcall
    obtain ⟨rfl, hcall⟩ := Option.ite_none_right_eq_some.mp hcall
    cases hcall
    rw [h.closes] at hcloses
    refine ⟨some e, ⟨hstops.trans h.stops, hcloses, ?_⟩, nofun⟩
    rw [hd, Deed.stopSide_concat_self rfl, h.done]
    rfl

/-- A shutdown goes on until it has ended. -/
theorem StoppedOnce.move {call : StopCall} (h : StoppedOnce ds s call)
    (hstep : s.step? now m = some s') :
    ∃ call', StoppedOnce (ds ++ [s.deed now (.move m)]) s' call' ∧
      ∀ e, call.ending? = some e → call'.ending? = some e := by
  obtain ⟨-, -, hending⟩ := ending_of_step? hstep
  cases hending with
  | untouched hd hstops hcloses =>
    refine ⟨call, h.keep (fun hside => ?_) (hstops.trans h.stops) hcloses, fun _ => id⟩
    rw [hd] at hside
    cases hside
  | stop hcall hgoing hstops hcloses hd =>
    rw [h.stops, List.getElem?_singleton] at hcall
    obtain ⟨rfl, hcall⟩ := Option.ite_none_right_eq_some.mp hcall
    cases hcall
    rw [h.stops] at hstops
    refine ⟨_, h.keep hd hstops hcloses, fun e hend => ?_⟩
    rw [hgoing] at hend
    cases hend
  | close hcall =>
    rw [h.closes] at hcall
    cases hcall

end Session

/-! ## 4. Stages -/

namespace SpinStage

def outcome? : SpinStage → Option Finish
  | waiting => none
  | resolved f | leaving f => some f
  | closing _ cause | exited (.forced cause) | panicked (.forced cause) _ => some (.failed cause)
  | stopping _ | exited .graceful | panicked .graceful _ | crashed => some .well

/-- The end of the engine has been called for. -/
def hasCalled : SpinStage → Bool
  | closing _ _ | stopping _ | exited _ | panicked _ _ => true
  | _ => false

/-- The stages behind the call that is to lead to an exit. -/
inductive Behind (e : Exit) : SpinStage → Prop
  | exited : Behind e (.exited e)
  | panicked {p : Panic} : Behind e (.panicked e p)

theorem Behind.hasCalled {e : Exit} {stage : SpinStage} (h : stage.Behind e) :
    stage.hasCalled = true := by
  cases h <;> rfl

/-- The end is called for behind an outcome alone. -/
theorem hasCalled_eq_false {stage : SpinStage} (h : stage.outcome? = none) :
    stage.hasCalled = false := by
  cases stage with
  | exited e => cases e <;> cases h
  | panicked e p => cases e <;> cases h
  | closing call cause => cases h
  | stopping call => cases h
  | _ => rfl

end SpinStage

/-- All that is done on the stop side for an outcome: what there is to deregister, and what a
shutdown is called with. -/
def Finish.way (info? : Option Info) (deadline : Instant) (hooks : List Hook) : Finish → List Deed
  | .failed _ => [.closeCalled, .closed]
  | .well => .stopTaken 0 deadline hooks :: Deed.toRegistry 0 info? ++ [.drained 0 deadline]

namespace Spin

open Session (NotCalled ClosedOnce StoppedOnce StopsTell)
open Deed (stopSide)

variable {now : Instant} {x x' : Spin} {c c' : Clocked Spin} {ds ds' : List Deed} {f : Finish}
  {stage : SpinStage} {s s' : Session} {d : Deed}

/-- What has been called for, at each stage. -/
inductive Trail (ds : List Deed) (s : Session) : SpinStage → Prop
  | notCalled {stage : SpinStage} (hstage : stage.hasCalled = false) (h : NotCalled ds s) :
      Trail ds s stage
  | closing {cause : ServiceFault} {ending? : Option CallEnd} (h : ClosedOnce ds s ending?) :
      Trail ds s (.closing 0 cause)
  | closed {cause : ServiceFault} {stage : SpinStage} {e : CallEnd}
      (hstage : stage.Behind (.forced cause)) (h : ClosedOnce ds s (some e)) : Trail ds s stage
  | stopping {call : StopCall} (h : StoppedOnce ds s call) : Trail ds s (.stopping 0)
  | stopped {call : StopCall} {stage : SpinStage} {e : CallEnd} (hstage : stage.Behind .graceful)
      (hend : call.ending? = some e) (h : StoppedOnce ds s call) : Trail ds s stage

/-- A move leaves the stage as it is. -/
theorem Trail.move {m : Move} (h : Trail ds s stage) (hstep : s.step? now m = some s') :
    Trail (ds ++ [s.deed now (.move m)]) s' stage := by
  cases h with
  | notCalled hstage h => exact .notCalled hstage (h.move hstep)
  | closing h =>
    obtain ⟨ending?, h, -⟩ := h.move hstep
    exact .closing h
  | closed hstage h =>
    obtain ⟨ending?, h, hkept⟩ := h.move hstep
    rw [hkept _ rfl] at h
    exact .closed hstage h
  | stopping h =>
    obtain ⟨call, h, -⟩ := h.move hstep
    exact .stopping h
  | stopped hstage hend h =>
    obtain ⟨call, h, hkept⟩ := h.move hstep
    exact .stopped hstage (hkept _ hend) h

/-- Before the call for the end, nothing has been called for. -/
theorem Trail.of_not_hasCalled (h : Trail ds s stage) (hstage : stage.hasCalled = false) :
    NotCalled ds s := by
  cases h with
  | notCalled _ h => exact h
  | closed hbehind h => exact absurd (hstage.symm.trans hbehind.hasCalled) nofun
  | stopped hbehind hend h => exact absurd (hstage.symm.trans hbehind.hasCalled) nofun
  | _ => cases hstage

/-- While the engine is being closed, the close is what has been called for. -/
theorem Trail.of_closing {call : Nat} {cause : ServiceFault}
    (h : Trail ds s (.closing call cause)) :
    call = 0 ∧ ∃ ending?, ClosedOnce ds s ending? := by
  cases h with
  | notCalled hnot => cases hnot
  | closing h => exact ⟨rfl, _, h⟩
  | closed hbehind h => cases hbehind
  | stopped hbehind hend h => cases hbehind

/-- While the engine is being shut down, the shutdown is what has been called for. -/
theorem Trail.of_stopping {k : Nat} (h : Trail ds s (.stopping k)) :
    k = 0 ∧ ∃ call, StoppedOnce ds s call := by
  cases h with
  | notCalled hnot => cases hnot
  | closed hbehind h => cases hbehind
  | stopping h => exact ⟨rfl, _, h⟩
  | stopped hbehind hend h => cases hbehind

/-- The first call to close. -/
theorem closedOnce_callClose (h : NotCalled ds s) :
    ClosedOnce (ds ++ [.closeCalled]) s.callClose none where
  stops := h.stops
  closes := by simp [Session.callClose, h.closes]
  done := by
    rw [Deed.stopSide_concat_self rfl, h.done]
    rfl

/-- The first call to shut down, of an engine that runs. -/
theorem stoppedOnce_callStop (h : NotCalled ds s) (deadline : Instant) :
    StoppedOnce (ds ++ [s.deed now (.callStop deadline)]) (s.callStop deadline)
      ⟨deadline, .begun⟩ := by
  have hdeed : s.deed now (.callStop deadline) =
      .stopTaken 0 deadline s.engine.hooks.onShutdown := by
    simp [Session.deed, h.running, h.stops]
  have hcalled : s.callStop deadline = { s.withStatus .shutdown with
      stops := [⟨deadline, .begun⟩]
      hookTasks := HookTasks.spawn s.engine.hooks.onShutdown } := by
    simp [Session.callStop, h.running, h.stops]
  rw [hdeed, hcalled]
  refine ⟨rfl, h.closes, ⟨deadline, _, List.mem_append_right _ (List.mem_singleton_self _)⟩, ?_⟩
  intro d hd hside
  rcases List.mem_append.mp hd with hmem | hmem
  · have hnone := List.filter_eq_nil_iff.mp h.done d hmem
    exact absurd hside hnone
  · obtain rfl := List.mem_singleton.mp hmem
    rfl

/-- **Every turn keeps what has been called for in step with the stage.** -/
theorem Turn.trail {a? : Option Act} (h : x.Turn now a? x')
    (htrail : Trail ds x.session x.stage) :
    Trail (ds ++ (a?.map (x.session.deed now)).toList) x'.session x'.stage := by
  cases h with
  | inner hstep => exact htrail.move hstep
  | signalled hcomes => simpa using htrail
  | resolved hstage hoffer =>
    rw [hstage] at htrail
    simpa using Trail.notCalled rfl (htrail.of_not_hasCalled rfl)
  | cancelled hstage =>
    rw [hstage] at htrail
    exact .notCalled rfl ((htrail.of_not_hasCalled rfl).keep rfl rfl rfl rfl)
  | closing hstage =>
    rw [hstage] at htrail
    -- no close has been called for, so that this one has the number 0
    have hbefore := htrail.of_not_hasCalled rfl
    have hcall : x.session.closes.length = 0 := by rw [hbefore.closes]; rfl
    rw [hcall]
    exact .closing (closedOnce_callClose hbefore)
  | stopping hstage hdeadline =>
    rw [hstage] at htrail
    have hbefore := htrail.of_not_hasCalled rfl
    have hcall : x.session.stops.length = 0 := by rw [hbefore.stops]; rfl
    rw [hcall]
    exact .stopping (stoppedOnce_callStop hbefore _)
  | crashed hstage hdeadline =>
    rw [hstage] at htrail
    simpa using Trail.notCalled rfl (htrail.of_not_hasCalled rfl)
  | closed hstage hcall =>
    rw [hstage] at htrail
    obtain ⟨rfl, ending?, hclosed⟩ := htrail.of_closing
    rw [hclosed.closes] at hcall
    obtain rfl : ending? = some _ := hcall
    exact .closed .exited (hclosed.keep rfl rfl rfl)
  | closePanicked hstage hcall =>
    rw [hstage] at htrail
    obtain ⟨rfl, ending?, hclosed⟩ := htrail.of_closing
    rw [hclosed.closes] at hcall
    obtain rfl : ending? = some _ := hcall
    simpa using Trail.closed .panicked hclosed
  | stopped hstage hcall =>
    rw [hstage] at htrail
    obtain ⟨rfl, call, hstopped⟩ := htrail.of_stopping
    rw [hstopped.stops] at hcall
    exact .stopped .exited hcall (hstopped.keep nofun hstopped.stops rfl)
  | stopPanicked hstage hcall =>
    rw [hstage] at htrail
    obtain ⟨rfl, call, hstopped⟩ := htrail.of_stopping
    rw [hstopped.stops] at hcall
    simpa using Trail.stopped .panicked hcall hstopped

/-- An engine that has not been run runs from the beginning of its server on. -/
theorem notCalled_launch {e : Engine} {r : Registry} {t : Transport} (hinit : e.status = .init) :
    NotCalled [] (launch (Session.new e r t)) := by
  obtain ⟨stage, -, hlaunch, -⟩ := launch_eq (Session.new e r t)
  have hcalled : (announcing (Session.new e r t)).callRun.engine.status = .running ∧
      (announcing (Session.new e r t)).callRun.stops = [] ∧
      (announcing (Session.new e r t)).callRun.closes = [] := by
    simp [Session.callRun, announcing, Engine.addRunHook, Session.new, hinit, Session.withStatus]
  rw [hlaunch]
  exact ⟨hcalled.1, hcalled.2.1, hcalled.2.2, rfl⟩

/-- **What has been called for is told by the stage**, from the beginning of a server whose engine
has not been run. -/
theorem Spins.trail {e : Engine} {r : Registry} {t : Transport} {waiter : Waiter}
    {start : Instant} {upcoming : List (Instant × ProcessSignal)} (hinit : e.status = .init)
    (h : Spins ⟨start, begin (Session.new e r t) waiter start upcoming⟩ ds c) :
    Trail ds c.state.session c.state.stage := by
  refine h.invariant_deeds (I := fun ds x => Trail ds x.session x.stage) ?_
    fun _ _ _ _ _ htrail hturn => hturn.trail htrail
  exact .notCalled rfl (notCalled_launch hinit)

/-- Before the call for the end the stop side is empty, and from then on it is not. -/
theorem Trail.hasCalled_iff {s : Session} {stage : SpinStage} (h : Trail ds s stage) :
    stage.hasCalled = true ↔ stopSide ds ≠ [] := by
  have hstopped : ∀ {call : StopCall}, StoppedOnce ds s call → stopSide ds ≠ [] := by
    intro call h
    obtain ⟨deadline, hooks, htaken⟩ := h.taken
    exact List.ne_nil_of_mem (List.mem_filter.mpr ⟨htaken, rfl⟩)
  cases h with
  | notCalled hstage h => simp [hstage, h.done]
  | closing h => simp [SpinStage.hasCalled, h.done]
  | closed hbehind h => simp [hbehind.hasCalled, h.done]
  | stopping h => exact ⟨fun _ => hstopped h, fun _ => rfl⟩
  | stopped hbehind hend h => exact ⟨fun _ => hstopped h, fun _ => hbehind.hasCalled⟩

/-- **What is done on the stop side is what the outcome asks for.** -/
theorem Trail.way {s : Session} {stage : SpinStage} (h : Trail ds s stage)
    (htell : StopsTell ds s) (hf : stage.outcome? = some f) :
    ∃ deadline hooks, stopSide ds <+: f.way s.engine.options.info? deadline hooks ∧
      ∀ e, stage.Behind e → stopSide ds = f.way s.engine.options.info? deadline hooks := by
  cases h with
  | notCalled hstage h =>
    refine ⟨0, [], ?_, ?_⟩
    · rw [h.done]
      exact List.nil_prefix
    · intro e hbehind
      exact absurd (hstage.symm.trans hbehind.hasCalled) nofun
  | @closing cause ending? h =>
    cases hf
    refine ⟨0, [], ?_, nofun⟩
    rw [h.done]
    cases ending? with
    | none => exact ⟨[.closed], rfl⟩
    | some e => exact List.prefix_rfl
  | @closed cause stage e hbehind h =>
    obtain rfl : f = .failed cause := by
      cases hbehind <;> exact (Option.some.inj hf).symm
    exact ⟨0, [], by rw [h.done]; exact List.prefix_rfl, fun _ _ => h.done⟩
  | stopping h =>
    cases hf
    -- one shutdown alone has been called for, so its history is all there is on the stop side
    obtain ⟨deadline, hooks, htaken⟩ := h.taken
    have htells := htell.tells 0 _ (by rw [h.stops]; rfl)
    rw [Deed.stopSide_eq_only h.own]
    have hown : .stopTaken 0 deadline hooks ∈ Deed.only Deed.stop? 0 ds :=
      Deed.mem_only_iff.mpr ⟨htaken, rfl⟩
    rcases htells.order with honly | ⟨deadline', hooks', before, honly, hbefore⟩
    · -- it has been taken, so that it has not been refused
      rw [honly] at hown
      simp at hown
    · refine ⟨deadline', hooks', ?_, nofun⟩
      rw [honly]
      exact List.cons_prefix_cons.mpr ⟨rfl, hbefore⟩
  | stopped hbehind hend h =>
    obtain rfl : f = .well := by
      cases hbehind <;> exact (Option.some.inj hf).symm
    obtain ⟨deadline, hooks, htaken⟩ := h.taken
    have htells := htell.tells 0 _ (by rw [h.stops]; rfl)
    have hown : .stopTaken 0 deadline hooks ∈ Deed.only Deed.stop? 0 ds :=
      Deed.mem_only_iff.mpr ⟨htaken, rfl⟩
    have hwhole := htells.whole hend hown
    rw [Deed.stopSide_eq_only h.own]
    exact ⟨deadline, hooks, by rw [hwhole]; exact List.prefix_rfl, fun _ _ => hwhole⟩

end Spin
end Gatehouse
