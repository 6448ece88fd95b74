/-
# What shutdowns do

The deeds of a shutdown are in step with its stage, as those of a run are.  A shutdown that is taken
has the instance deregistered if there is something to deregister, and then drains the transport
until its deadline, whatever the registry has answered; it does either once.  A shutdown that is
refused does nothing more, and one that is given up does nothing more from then on.

The tasks of the on-shutdown hooks are handed over when a shutdown is taken, and each starts its
hook once.

* `Session.Leads.stopsTell`: **what a shutdown has done is told by its stage**;
* `Session.Leads.tasksTell`: **what a task has done is told by its stage**, and the tasks are those
  of the shutdown that was taken.
-/
import Gatehouse.Proofs.Lifecycle.Executions
import Gatehouse.Proofs.Lifecycle.Histories

namespace Gatehouse

/-! ## 1. The deeds of one shutdown and of one task -/

namespace Deed

def stop? : Deed → Option Nat
  | stopTaken k _ _ => some k
  | stopRefused k => some k
  | deregistered k _ => some k
  | drained k _ => some k
  | _ => none

def task? : Deed → Option Nat
  | taskStarted j _ => some j
  | taskEnded j _ => some j
  | _ => none

/-- What a shutdown asks of the registry. -/
def toRegistry (k : Nat) (info? : Option Info) : List Deed := (info?.map (deregistered k)).toList

theorem stop_quiet (k : Nat) : only stop? k [quiet] = [] := rfl

end Deed

/-! ## 2. What a stage tells -/

/-- What a shutdown makes of the registry's answer, if it asks. -/
def RegistryReply.forInfo (reply : RegistryReply) : Option Info → Finish
  | some _ => reply.finish
  | none => .well

open Deed in
/-- All that a shutdown at some stage has done, and what it has made of the answers.  The parameters
are what there is to deregister and how the registry answers. -/
inductive StopTells (info? : Option Info) (reply : RegistryReply) (k : Nat) :
    List Deed → StopCall → Prop
  | refused {deadline : Instant} :
      StopTells info? reply k [.stopRefused k] ⟨deadline, .returned (.failed .notRunning)⟩
  | begun {deadline : Instant} {hooks : List Hook} :
      StopTells info? reply k [.stopTaken k deadline hooks] ⟨deadline, .begun⟩
  | deregistering {deadline : Instant} {hooks : List Hook} {due : Due} {info : Info}
      (hinfo : info? = some info) :
      StopTells info? reply k (.stopTaken k deadline hooks :: toRegistry k info?)
        ⟨deadline, .deregistering due (reply.forInfo info?)⟩
  | deregistered {deadline : Instant} {hooks : List Hook} :
      StopTells info? reply k (.stopTaken k deadline hooks :: toRegistry k info?)
        ⟨deadline, .deregistered (reply.forInfo info?)⟩
  | draining {deadline : Instant} {hooks : List Hook} {d : Drain} :
      StopTells info? reply k
        (.stopTaken k deadline hooks :: toRegistry k info? ++ [.drained k deadline])
        ⟨deadline, .draining d (reply.forInfo info?)⟩
  | joining {deadline : Instant} {hooks : List Hook} {d : Finish} :
      StopTells info? reply k
        (.stopTaken k deadline hooks :: toRegistry k info? ++ [.drained k deadline])
        ⟨deadline, .joining (reply.forInfo info?) d⟩
  | returned {deadline : Instant} {hooks : List Hook} {d : Finish} :
      StopTells info? reply k
        (.stopTaken k deadline hooks :: toRegistry k info? ++ [.drained k deadline])
        ⟨deadline, .returned ((reply.forInfo info?).and d)⟩
  | panicked {deadline : Instant} {hooks : List Hook} {p : Panic} :
      StopTells info? reply k
        (.stopTaken k deadline hooks :: toRegistry k info? ++ [.drained k deadline])
        ⟨deadline, .panicked p⟩
  | abandoned {ds : List Deed} {deadline : Instant} {stage : StopStage}
      (h : StopTells info? reply k ds ⟨deadline, stage⟩) :
      StopTells info? reply k ds ⟨deadline, .abandoned⟩

/-- A shutdown that nobody waits for has done what it had done. -/
theorem StopTells.abandon {info? : Option Info} {reply : RegistryReply} {k : Nat} {ds : List Deed}
    {c : StopCall} (h : StopTells info? reply k ds c) : StopTells info? reply k ds c.abandon := by
  obtain ⟨deadline, stage⟩ := c
  cases stage <;> first | exact h | exact .abandoned h

open Deed in
/-- All that the task of a hook has done. -/
inductive TaskTells (j : Nat) : List Deed → HookTask → Prop
  | spawned {h : Hook} : TaskTells j [] ⟨h, .spawned⟩
  | waiting {h : Hook} {due : Due} : TaskTells j [.taskStarted j h] ⟨h, .waiting due⟩
  | ended {h : Hook} : TaskTells j [.taskStarted j h, .taskEnded j h] ⟨h, .ended⟩

/-! ## 3. Turns -/

namespace Session

open Deed

variable {now : Instant} {s s' : Session} {i : Nat} {d : Deed} {ds : List Deed}

theorem StopTurn.stop?_eq {c : StopCall} (h : s.StopTurn now i c d s') :
    d.stop? = none ∨ d.stop? = some i := by
  cases h <;> first | exact Or.inl rfl | exact Or.inr rfl

/-- **A turn of a shutdown keeps its deeds in step with its stage.** -/
theorem StopTurn.stopTells {c : StopCall} (h : s.StopTurn now i c d s')
    (hbefore : StopTells s.engine.options.info? s.registry.deregister i ds c) :
    ∃ c', s'.stops = s.stops.set i c' ∧
      StopTells s.engine.options.info? s.registry.deregister i (ds ++ only stop? i [d]) c' := by
  obtain ⟨deadline, stage⟩ := c
  -- a turn that asks a collaborator adds that one deed, and a turn that waits adds none
  cases h with
  | deregistered hstage hinfo =>
    cases hstage
    refine ⟨_, rfl, ?_⟩
    rw [only_self rfl, hinfo]
    cases hbefore with
    | begun => exact .deregistering rfl
  | unregistered hstage hinfo =>
    cases hstage
    refine ⟨_, rfl, ?_⟩
    rw [stop_quiet, List.append_nil, hinfo]
    cases hbefore with
    | begun => exact .deregistered
  | answered hstage hdue =>
    cases hstage
    refine ⟨_, rfl, ?_⟩
    rw [stop_quiet, List.append_nil]
    cases hbefore with
    | deregistering hinfo => exact .deregistered
  | drained hstage =>
    cases hstage
    refine ⟨_, rfl, ?_⟩
    rw [only_self rfl]
    cases hbefore with
    | deregistered => exact .draining
  | @idle drain f hstage hdue =>
    cases hstage
    refine ⟨_, rfl, ?_⟩
    rw [stop_quiet, List.append_nil]
    cases hbefore with
    | draining =>
      cases drain.ending with
      | finished drained => exact .joining
      | panicked p => exact .panicked
  | joined hstage hend =>
    cases hstage
    refine ⟨_, rfl, ?_⟩
    rw [stop_quiet, List.append_nil]
    cases hbefore with
    | joining => exact .returned

theorem TaskTurn.task?_eq {t : HookTask} (h : s.TaskTurn now i t d s') : d.task? = some i := by
  cases h <;> rfl

/-- **A turn of a task keeps its deeds in step with its stage**, and the task keeps its hook. -/
theorem TaskTurn.taskTells {t : HookTask} (h : s.TaskTurn now i t d s')
    (hbefore : TaskTells i ds t) :
    ∃ t', s'.hookTasks.tasks = s.hookTasks.tasks.set i t' ∧ t'.hook = t.hook ∧
      TaskTells i (ds ++ only task? i [d]) t' := by
  obtain ⟨hook, stage⟩ := t
  cases h with
  | started hstage =>
    cases hstage
    refine ⟨_, congrArg HookTasks.tasks (note_hookTasks _ _), rfl, ?_⟩
    rw [only_self rfl]
    cases hbefore with
    | spawned => exact .waiting
  | ended hstage hdue =>
    cases hstage
    refine ⟨_, congrArg HookTasks.tasks (note_hookTasks _ _), rfl, ?_⟩
    rw [only_self rfl]
    cases hbefore with
    | waiting => exact .ended

/-! ## 4. All shutdowns of an execution -/

/-- Every shutdown tells what it has done. -/
abbrev StopsTell (ds : List Deed) (s : Session) : Prop :=
  Histories stop? (StopTells s.engine.options.info? s.registry.deregister) ds s.stops

/-- **Every deed keeps all shutdowns in step.** -/
theorem Does.stopsTell (hdoes : Does now s d s') (h : StopsTell ds s) :
    StopsTell (ds ++ [d]) s' := by
  rw [StopsTell, hdoes.options_eq.1, hdoes.options_eq.2]
  cases hdoes with
  | stopTaken hstatus deadline => exact h.concat rfl .begun
  | stopRefused hstatus deadline => exact h.concat rfl .refused
  | stopAbandoned hcall =>
    refine h.set hcall (Or.inl rfl) ?_
    rw [stop_quiet, List.append_nil]
    exact (h.tells _ _ hcall).abandon
  | stop hcall hturn =>
    obtain ⟨c', hstops, htells⟩ := hturn.stopTells (h.tells _ _ hcall)
    rw [hstops]
    exact h.set hcall hturn.stop?_eq htells
  | run hcall hstarted hturn =>
    cases hturn <;> first | exact h.keep rfl | rw [note_stops]; exact h.keep rfl
  | task htask hturn => cases hturn <;> rw [note_stops] <;> exact h.keep rfl
  | registration hcall hready registryFirst hdeed =>
    refine h.keep ?_
    rw [← hdeed, registrationDeed]
    split <;> rfl
  | _ => exact h.keep rfl

/-- **What a shutdown has done is told by its stage**, in every execution that starts without
shutdowns. -/
theorem Leads.stopsTell {c c' : Clocked Session} (h : Leads c ds c') (hfresh : c.state.stops = []) :
    StopsTell ds c'.state :=
  h.invariant (I := StopsTell) (by rw [StopsTell, hfresh]; exact .nil)
    fun _ _ _ _ _ htell hdoes => hdoes.stopsTell htell

/-! ## 5. All tasks of an execution -/

/-- Every task tells what it has done; the tasks are those of the shutdown that was taken, and there
are none before. -/
structure TasksTell (ds : List Deed) (s : Session) : Prop where
  histories : Histories task? TaskTells ds s.hookTasks.tasks
  /-- No shutdown has been taken yet. -/
  idle : s.engine.status.rank ≤ 1 →
    s.hookTasks.tasks = [] ∧ ∀ k deadline hooks, .stopTaken k deadline hooks ∉ ds
  taken : s.hookTasks.tasks ≠ [] →
    ∃ k deadline, .stopTaken k deadline (s.hookTasks.tasks.map HookTask.hook) ∈ ds

/-- A deed that neither takes a shutdown nor is done by a task. -/
theorem TasksTell.keep (h : TasksTell ds s) (hdoes : Does now s d s')
    (htasks : s'.hookTasks.tasks = s.hookTasks.tasks) (hd : d.task? = none)
    (htaken : ∀ k deadline hooks, d ≠ .stopTaken k deadline hooks) : TasksTell (ds ++ [d]) s' := by
  refine ⟨htasks ▸ h.histories.keep hd, fun hrank => ?_, fun hsome => ?_⟩
  · obtain ⟨hnone, hnever⟩ := h.idle (Nat.le_trans hdoes.rank_le hrank)
    refine ⟨htasks.trans hnone, fun k deadline hooks hmem => ?_⟩
    rcases List.mem_append.mp hmem with hmem | hmem
    · exact hnever k deadline hooks hmem
    · exact htaken k deadline hooks (List.mem_singleton.mp hmem).symm
  · rw [htasks] at hsome ⊢
    obtain ⟨k, deadline, hmem⟩ := h.taken hsome
    exact ⟨k, deadline, List.mem_append_left _ hmem⟩

/-- A shutdown is taken, and its hooks are handed to tasks. -/
theorem TasksTell.spawn (h : TasksTell ds s) (hdoes : Does now s d s')
    (hstatus : s.engine.status = .running) {k : Nat} {deadline : Instant} {hooks : List Hook}
    (hd : d = .stopTaken k deadline hooks) (htasks : s'.hookTasks = HookTasks.spawn hooks) :
    TasksTell (ds ++ [d]) s' := by
  obtain ⟨hnone, -⟩ := h.idle (by rw [hstatus]; exact Nat.le_refl 1)
  have hsilent : ∀ j, only task? j (ds ++ [d]) = [] := by
    intro j
    rw [only_concat_other (by rw [hd]; exact nofun)]
    exact h.histories.silent j (by rw [hnone]; exact Nat.zero_le j)
  refine ⟨⟨fun j t ht => ?_, fun j _ => hsilent j⟩, fun hrank => ?_, fun _ => ?_⟩
  · rw [htasks] at ht
    rw [hsilent, HookTasks.spawned_of_mem_spawn (List.mem_of_getElem? ht)]
    exact .spawned
  · rw [hdoes.status_eq, hd] at hrank
    exact absurd hrank (Nat.not_le.mpr (Nat.lt_succ_self 1))
  · refine ⟨k, deadline, ?_⟩
    rw [htasks, HookTasks.map_hook_spawn, hd]
    exact List.mem_append_right _ (List.mem_singleton_self _)

theorem TasksTell.turn (h : TasksTell ds s) {t : HookTask} (hdoes : Does now s d s')
    (htask : s.hookTasks.tasks[i]? = some t) (hturn : s.TaskTurn now i t d s') :
    TasksTell (ds ++ [d]) s' := by
  obtain ⟨t', htasks, hhook, htells⟩ := hturn.taskTells (h.histories.tells _ _ htask)
  have hhooks : s'.hookTasks.tasks.map HookTask.hook = s.hookTasks.tasks.map HookTask.hook := by
    rw [htasks, HookTasks.map_hook_set htask hhook]
  have hsome : s.hookTasks.tasks ≠ [] := by
    intro hnone
    rw [hnone] at htask
    cases htask
  refine ⟨?_, fun hrank => ?_, fun _ => ?_⟩
  · rw [htasks]
    exact h.histories.set htask (Or.inr hturn.task?_eq) htells
  · exact absurd (h.idle (Nat.le_trans hdoes.rank_le hrank)).1 hsome
  · obtain ⟨k, deadline, hmem⟩ := h.taken hsome
    rw [hhooks]
    exact ⟨k, deadline, List.mem_append_left _ hmem⟩

/-- **Every deed keeps all tasks in step.** -/
theorem Does.tasksTell (hdoes : Does now s d s') (h : TasksTell ds s) :
    TasksTell (ds ++ [d]) s' := by
  have hdoes' := hdoes
  cases hdoes with
  | stopTaken hstatus deadline => exact h.spawn hdoes' hstatus rfl rfl
  | task htask hturn => exact h.turn hdoes' htask hturn
  | run hcall hstarted hturn =>
    cases hturn <;> first
      | exact h.keep hdoes' rfl rfl (by simp)
      | exact h.keep hdoes' (congrArg HookTasks.tasks (note_hookTasks _ _)) rfl (by simp)
  | stop hcall hturn => cases hturn <;> exact h.keep hdoes' rfl rfl (by simp)
  | registration hcall hready registryFirst hdeed =>
    have hquiet : d.task? = none ∧ ∀ k deadline hooks, d ≠ .stopTaken k deadline hooks := by
      rw [← hdeed, registrationDeed]
      split <;> exact ⟨rfl, by simp⟩
    exact h.keep hdoes' rfl hquiet.1 hquiet.2
  | _ => exact h.keep hdoes' rfl rfl (by simp)

/-- **What a task has done is told by its stage**, in every execution that starts without tasks and
before which no shutdown has been taken. -/
theorem Leads.tasksTell {c c' : Clocked Session} (h : Leads c ds c')
    (hfresh : c.state.hookTasks.tasks = []) : TasksTell ds c'.state := by
  refine h.invariant (I := TasksTell) ?_ fun _ _ _ _ _ htell hdoes => hdoes.tasksTell htell
  refine ⟨?_, fun _ => ⟨hfresh, nofun⟩, fun hsome => absurd hfresh hsome⟩
  rw [hfresh]
  exact .nil

end Session
end Gatehouse
