/-
# What a shutdown comes to

A shutdown of a running engine hands its hooks to tasks and goes its way: it has the instance
deregistered, drains the transport, waits for the hooks until the deadline, and returns.  Nothing
that the hooks do gets in its way, and nothing that they come to is seen in what it returns.

* `Session.Does.stop_cases`: **what a deed makes of a shutdown**: nothing, unless it gives the
  shutdown up or is a turn of it;
* `Session.Stands.does`, `Session.Stands.starts`: the tasks of the hooks stand for the rest of an
  execution, and each can start its hook as long as it has not;
* `Session.Leads.outcome`: what a shutdown returns is told by the registry's answer and the drain
  that it has begun;
* `Session.Leads.canReturn`: **a shutdown that is not given up can return by itself**, wherever it
  stands, if the registry answers;
* `Session.leads_drains`: **a shutdown always drains and does not depend on its hooks**.
-/
import Gatehouse.Proofs.Lifecycle.Deadline
import Gatehouse.Proofs.Lifecycle.StopSide

namespace Gatehouse

/-! ## 1. Turns of a shutdown -/

namespace StopCall

/-- What a shutdown returns: a failed deregistration comes first, and a drain that runs out of time
counts as one that ends well. -/
def outcome : Finish → Finish → Finish
  | .failed fault, _ => .failed fault
  | .well, .failed .shutdownTimeout => .well
  | .well, drained => drained

theorem and_forgive (deregistered drained : Finish) :
    deregistered.and (forgive drained) = outcome deregistered drained := by
  cases deregistered with
  | failed fault => rfl
  | well =>
    cases drained with
    | well => rfl
    | failed fault => cases fault <;> rfl

theorem ending?_of_result? {c : StopCall} {f : Finish} (h : c.result? = some f) :
    c.ending? = some (.finished f) := by
  unfold result? at h
  unfold ending?
  split at h
  · rename_i hstage
    rw [hstage, Option.some.inj h]
  · cases h

end StopCall

/-- Every drain comes to something. -/
def Transport.Drainable (t : Transport) : Prop :=
  ∀ now deadline, ∃ due drained, (t.drain now deadline).1 = ⟨some due, .finished drained⟩

theorem Transport.Alike.drainable {t t' : Transport} (h : t.Alike t') (ht : t'.Drainable) :
    t.Drainable := by
  intro now deadline
  rw [← h.drain]
  exact ht now deadline

/-- The stages of a shutdown from the drain on that it has begun. -/
inductive StopStage.Follows (drain : Drain) (deregistered : Finish) : StopStage → Prop
  | draining : Follows drain deregistered (.draining drain deregistered)
  | joining {drained : Finish} (hend : drain.ending = .finished drained) :
      Follows drain deregistered (.joining deregistered (StopCall.forgive drained))
  | returned {drained : Finish} (hend : drain.ending = .finished drained) :
      Follows drain deregistered (.returned (StopCall.outcome deregistered drained))
  | panicked {p : Panic} (hend : drain.ending = .panicked p) :
      Follows drain deregistered (.panicked p)
  | abandoned : Follows drain deregistered .abandoned

/-- What a shutdown that has been taken does, as far as it has come; all of it when it has
returned. -/
theorem StopTells.behind_taken {info? : Option Info} {reply : RegistryReply} {k : Nat}
    {deadline : Instant} {hooks : List Hook} {own : List Deed} {call : StopCall}
    (h : StopTells info? reply k (.stopTaken k deadline hooks :: own) call) :
    own <+: Deed.toRegistry k info? ++ [.drained k deadline] ∧
      ∀ f, call.result? = some f → own = Deed.toRegistry k info? ++ [.drained k deadline] := by
  refine ⟨?_, fun f hreturned => ?_⟩
  · rcases h.order with hrefused | ⟨deadline', hooks', asked, hasked, hprefix⟩
    · cases hrefused
    · obtain ⟨htaken, rfl⟩ := List.cons.inj hasked
      obtain ⟨-, rfl, -⟩ := Deed.stopTaken.inj htaken
      exact hprefix
  · have hend := StopCall.ending?_of_result? hreturned
    exact (List.cons.inj (h.whole hend List.mem_cons_self)).2

namespace Session

open Deed (only)

variable {now : Instant} {s s' : Session} {k : Nat} {call : StopCall} {d : Deed} {ds : List Deed}
  {drain : Drain} {f : Finish} {c c' : Clocked Session}

/-- A turn of a shutdown changes that shutdown alone and brings it nearer to its return. -/
theorem StopTurn.work_lt (h : s.StopTurn now k call d s') :
    ∃ call', s'.stops = s.stops.set k call' ∧ call'.work < call.work ∧
      call'.stage ≠ .abandoned := by
  obtain ⟨deadline, stage⟩ := call
  cases h with
  | deregistered hstage hinfo =>
    cases hstage
    exact ⟨_, rfl, Nat.lt_succ_self 4, nofun⟩
  | unregistered hstage hinfo =>
    cases hstage
    exact ⟨_, rfl, (by decide : 3 < 5), nofun⟩
  | answered hstage hdue =>
    cases hstage
    exact ⟨_, rfl, Nat.lt_succ_self 3, nofun⟩
  | drained hstage =>
    cases hstage
    exact ⟨_, rfl, Nat.lt_succ_self 2, nofun⟩
  | @idle drain f hstage hdue =>
    cases hstage
    refine ⟨_, rfl, ?_⟩
    cases drain.ending with
    | finished drained => exact ⟨Nat.lt_succ_self 1, nofun⟩
    | panicked p => exact ⟨Nat.zero_lt_succ 1, nofun⟩
  | joined hstage hend =>
    cases hstage
    exact ⟨_, rfl, Nat.lt_succ_self 0, nofun⟩

/-- From its drain on a shutdown follows it. -/
theorem StopTurn.follows (h : s.StopTurn now k call d s')
    (hbefore : call.stage.Follows drain f) :
    ∃ call', s'.stops = s.stops.set k call' ∧ call'.stage.Follows drain f := by
  obtain ⟨deadline, stage⟩ := call
  cases h with
  | idle hstage hdue =>
    cases hstage
    cases hbefore
    refine ⟨_, rfl, ?_⟩
    cases hend : drain.ending with
    | finished drained => exact .joining hend
    | panicked p => exact .panicked hend
  | joined hstage hdone =>
    cases hstage
    cases hbefore with
    | joining hend =>
      refine ⟨_, rfl, ?_⟩
      rw [StopCall.and_forgive]
      exact .returned hend
  | _ hstage =>
    cases hstage
    cases hbefore

theorem follows_abandon (h : call.stage.Follows drain f) :
    call.abandon.stage.Follows drain f := by
  obtain ⟨deadline, stage⟩ := call
  cases h with
  | returned hend => exact .returned hend
  | panicked hend => exact .panicked hend
  | _ => exact .abandoned

/-- **What a deed makes of a shutdown**: nothing, unless it gives the shutdown up or is a turn of
it. -/
theorem Does.stop_cases (h : Does now s d s') (hcall : s.stops[k]? = some call) :
    s'.stops[k]? = some call ∨ s'.stops[k]? = some call.abandon ∨ s.StopTurn now k call d s' := by
  obtain ⟨hk, -⟩ := List.getElem?_eq_some_iff.mp hcall
  have hkept : s'.stops = s.stops → s'.stops[k]? = some call := fun hstops => by
    rw [hstops, hcall]
  have hadded : ∀ {call'}, s'.stops = s.stops ++ [call'] → s'.stops[k]? = some call :=
    fun hstops => by rw [hstops, List.getElem?_append_left hk, hcall]
  have hother : ∀ {j call'}, j ≠ k → s'.stops = s.stops.set j call' → s'.stops[k]? = some call :=
    fun hj hstops => by rw [hstops, List.getElem?_set_ne hj, hcall]
  cases h with
  | stopTaken hstatus deadline => exact Or.inl (hadded rfl)
  | stopRefused hstatus deadline => exact Or.inl (hadded rfl)
  | @stopAbandoned j call' hcall' =>
    rcases Decidable.em (j = k) with rfl | hj
    · cases hcall.symm.trans hcall'
      exact Or.inr (Or.inl (List.getElem?_set_self hk))
    · exact Or.inl (hother hj rfl)
  | @stop j call' _ _ hcall' hturn =>
    rcases Decidable.em (j = k) with rfl | hj
    · cases hcall.symm.trans hcall'
      exact Or.inr (Or.inr hturn)
    · obtain ⟨call'', hstops, -⟩ := hturn.work_lt
      exact Or.inl (hother hj hstops)
  | run hcall' hstarted hturn =>
    cases hturn <;> first | exact Or.inl (hkept rfl) | exact Or.inl (hkept (note_stops _ _))
  | task htask hturn => cases hturn <;> exact Or.inl (hkept (note_stops _ _))
  | _ => exact Or.inl (hkept rfl)

/-- A drain is begun by a shutdown that has done with the registry. -/
theorem Does.drained {deadline : Instant} (h : Does now s (.drained k deadline) s') :
    ∃ f, s.stops[k]? = some ⟨deadline, .deregistered f⟩ ∧
      s'.stops[k]? = some ⟨deadline, .draining (s.transport.drain now deadline).1 f⟩ := by
  generalize hd : Deed.drained k deadline = d at h
  cases h with
  | @stop i call _ _ hcall hturn =>
    obtain ⟨hi, -⟩ := List.getElem?_eq_some_iff.mp hcall
    obtain ⟨deadline', stage⟩ := call
    cases hturn with
    | drained hstage =>
      cases hd
      cases hstage
      exact ⟨_, hcall, List.getElem?_set_self hi⟩
    | _ => cases hd
  | run hcall hstarted hturn => cases hturn <;> cases hd
  | task htask hturn => cases hturn <;> cases hd
  | registration hcall hready registryFirst hdeed =>
    rw [← hd, registrationDeed] at hdeed
    split at hdeed <;> cases hdeed
  | _ => cases hd

/-! ## 2. What a shutdown returns -/

/-- From its drain on, a shutdown follows it through all that is done. -/
theorem Leads.follows (h : Leads c ds c')
    (hstart : ∃ call, c.state.stops[k]? = some call ∧ call.stage.Follows drain f) :
    ∃ call, c'.state.stops[k]? = some call ∧ call.stage.Follows drain f := by
  refine h.invariant
    (I := fun _ s => ∃ call, s.stops[k]? = some call ∧ call.stage.Follows drain f) hstart ?_
  rintro now ds s d s' ⟨call, hcall, hfollows⟩ hdoes
  rcases hdoes.stop_cases hcall with hkept | hgiven | hturn
  · exact ⟨call, hkept, hfollows⟩
  · exact ⟨_, hgiven, follows_abandon hfollows⟩
  · obtain ⟨call', hstops, hfollows'⟩ := hturn.follows hfollows
    obtain ⟨hk, -⟩ := List.getElem?_eq_some_iff.mp hcall
    exact ⟨call', by rw [hstops, List.getElem?_set_self hk], hfollows'⟩

/-- **What a shutdown returns is told by the drain that it has begun**, which has not panicked, and
by what the registry has answered. -/
theorem Leads.outcome {fresh : Clocked Session} {ds₀ : List Deed} (hfresh : Leads fresh ds₀ c)
    (hstops : fresh.state.stops = []) (h : Leads c ds c') {deadline : Instant}
    (hdrained : .drained k deadline ∈ ds) (hcall : c'.state.stops[k]? = some call)
    (hreturned : call.result? = some f) :
    ∃ before after c₁ drained, ds = before ++ .drained k deadline :: after ∧
      Leads c before c₁ ∧
      (c₁.state.transport.drain c₁.now deadline).1.ending = .finished drained ∧
      f = StopCall.outcome
        (fresh.state.registry.deregister.forInfo fresh.state.engine.options.info?) drained := by
  obtain ⟨before, after, rfl⟩ := List.append_of_mem hdrained
  obtain ⟨c₁, s₁, hbefore, hdoes, hafter⟩ := h.split
  obtain ⟨answer, hasked, hdraining⟩ := hdoes.drained
  obtain ⟨call', hcall', hfollows⟩ := hafter.follows ⟨_, hdraining, .draining⟩
  obtain rfl : call = call' := Option.some.inj (hcall.symm.trans hcall')
  have hwhole := hfresh.trans hbefore
  have htells := (hwhole.stopsTell hstops).tells k _ hasked
  rw [hwhole.options_eq.1, hwhole.options_eq.2] at htells
  obtain rfl : answer =
      fresh.state.registry.deregister.forInfo fresh.state.engine.options.info? := by
    generalize only Deed.stop? k (ds₀ ++ before) = history at htells
    cases htells with
    | deregistered => rfl
  obtain ⟨deadline', stage⟩ := call
  cases hfollows with
  | @returned drained hend =>
    exact ⟨before, after, c₁, drained, rfl, hbefore, hend, (Option.some.inj hreturned).symm⟩
  | _ => cases hreturned

/-! ## 3. The tasks of the hooks -/

/-- What a deed makes of the tasks: nothing, or it hands the hooks to tasks, or it is a turn of
one. -/
theorem Does.task_cases (h : Does now s d s') :
    (d.task? = none ∧ s'.hookTasks.tasks = s.hookTasks.tasks) ∨ s.engine.status = .running ∨
      ∃ i t, s.hookTasks.tasks[i]? = some t ∧ s.TaskTurn now i t d s' := by
  cases h with
  | stopTaken hstatus deadline => exact Or.inr (Or.inl hstatus)
  | task htask hturn => exact Or.inr (Or.inr ⟨_, _, htask, hturn⟩)
  | run hcall hstarted hturn =>
    cases hturn <;> first
      | exact Or.inl ⟨rfl, rfl⟩
      | exact Or.inl ⟨rfl, congrArg HookTasks.tasks (note_hookTasks _ _)⟩
  | stop hcall hturn => cases hturn <;> exact Or.inl ⟨rfl, rfl⟩
  | registration hcall hready registryFirst hdeed =>
    refine Or.inl ⟨?_, rfl⟩
    rw [← hdeed, registrationDeed]
    split <;> rfl
  | _ => exact Or.inl ⟨rfl, rfl⟩

/-- The tasks are those of the hooks that a shutdown has handed over, and tell what they have done
since. -/
structure Stands (hooks : List Hook) (since : List Deed) (s : Session) : Prop where
  taken : 2 ≤ s.engine.status.rank
  hooks_eq : s.hookTasks.tasks.map HookTask.hook = hooks
  histories : Histories Deed.task? TaskTells since s.hookTasks.tasks

/-- **Every deed keeps the tasks standing.** -/
theorem Stands.does {hooks : List Hook} (h : Stands hooks ds s) (hdoes : Does now s d s') :
    Stands hooks (ds ++ [d]) s' := by
  have htaken : 2 ≤ s'.engine.status.rank := Nat.le_trans h.taken hdoes.rank_le
  rcases hdoes.task_cases with ⟨hd, htasks⟩ | hrunning | ⟨i, t, htask, hturn⟩
  · refine ⟨htaken, htasks ▸ h.hooks_eq, ?_⟩
    rw [htasks]
    exact h.histories.keep hd
  · have hrank := h.taken
    rw [hrunning] at hrank
    exact absurd hrank (by decide)
  · obtain ⟨t', htasks, hhook, htells⟩ := hturn.taskTells (h.histories.tells i t htask)
    refine ⟨htaken, ?_, ?_⟩
    · rw [htasks, HookTasks.map_hook_set htask hhook, h.hooks_eq]
    · rw [htasks]
      exact h.histories.set htask (Or.inr hturn.task?_eq) htells

/-- When a shutdown is taken, a task for each hook is there that has done nothing. -/
theorem stands_callStop (hrunning : s.engine.status = .running) (deadline : Instant) :
    Stands s.engine.hooks.onShutdown [] (s.callStop deadline) := by
  unfold callStop
  rw [hrunning]
  refine ⟨Nat.le_refl 2, HookTasks.map_hook_spawn _, fun j t ht => ?_, fun _ _ => rfl⟩
  rw [HookTasks.spawned_of_mem_spawn (List.mem_of_getElem? ht)]
  exact .spawned

/-- **A task starts its hook, once**: it has done so, or it can and has not. -/
theorem Stands.starts {hooks : List Hook} (h : Stands hooks ds s) {j : Nat} {hook : Hook}
    (hhook : hooks[j]? = some hook) :
    .taskStarted j hook ∈ ds ∧ ds.countP (Deed.startsTask j) = 1 ∨
      ds.countP (Deed.startsTask j) = 0 ∧
        s.deed now (.move (.hook j)) = .taskStarted j hook ∧
        (s.act? now (.move (.hook j))).isSome = true := by
  rw [← h.hooks_eq, List.getElem?_map] at hhook
  obtain ⟨t, ht, rfl⟩ := Option.map_eq_some_iff.mp hhook
  have howner : ∀ d ∈ ds, Deed.startsTask j d = true → d.task? = some j := by
    intro d _ hstarts
    cases d with
    | taskStarted i hook => exact congrArg some (of_decide_eq_true hstarts)
    | _ => cases hstarts
  rw [← Deed.countP_only howner]
  have htells := h.histories.tells j t ht
  have hmem : ∀ {hook}, .taskStarted j hook ∈ only Deed.task? j ds → .taskStarted j hook ∈ ds :=
    fun hown => (Deed.mem_only_iff.mp hown).1
  generalize only Deed.task? j ds = history at htells hmem
  cases htells with
  | spawned =>
    refine Or.inr ⟨rfl, ?_, ?_⟩
    · simp only [deed, taskDeed, ht]
    · simp only [act?, step?, stepHook?, HookTasks.stepAt?, ht, Option.map_some, Option.isSome_some]
  | waiting => exact Or.inl ⟨hmem List.mem_cons_self, by simp [Deed.startsTask]⟩
  | ended => exact Or.inl ⟨hmem List.mem_cons_self, by simp [Deed.startsTask]⟩

/-! ## 4. The status behind a shutdown -/

/-- Behind a shutdown that has been taken the status changes by a call to close alone. -/
theorem Leads.status_eq (h : Leads c ds c') (hstart : c.state.engine.status = .shutdown) :
    c'.state.engine.status = if .closeCalled ∈ ds then .closed else .shutdown := by
  refine h.invariant
    (I := fun ds s => s.engine.status = if .closeCalled ∈ ds then .closed else .shutdown)
    hstart ?_
  intro now ds s d s' hstatus hdoes
  have hnot : s.engine.status ≠ .init ∧ s.engine.status ≠ .running := by
    rw [hstatus]
    split <;> exact ⟨nofun, nofun⟩
  obtain ⟨hrun, hstop⟩ := hdoes.taken_at
  rw [hdoes.status_eq]
  cases d with
  | closeCalled => exact (if_pos (List.mem_append_right _ (List.mem_singleton_self _))).symm
  | runTaken run hooks => exact absurd (hrun rfl) hnot.1
  | stopTaken stop deadline hooks => exact absurd (hstop rfl) hnot.2
  | _ => simpa [Deed.status] using hstatus

/-! ## 5. A shutdown comes to its return -/

/-- A cue that only waits or lets one shutdown go on. -/
def Cue.OnlyStop (k : Nat) : Cue → Prop
  | .wait _ => True
  | .act a => a = .move (.stop k)

/-- A shutdown can return by itself: nothing else has to be done, but to wait. -/
def CanReturn (k : Nat) (c : Clocked Session) : Prop :=
  ∃ cues ds c' call f, (∀ cue ∈ cues, Cue.OnlyStop k cue) ∧ follow? c cues = some (ds, c') ∧
    c'.state.stops[k]? = some call ∧ call.result? = some f

theorem CanReturn.wait {t : Instant} (h : CanReturn k ⟨t, s⟩) (hlater : now ≤ t) :
    CanReturn k ⟨now, s⟩ := by
  obtain ⟨cues, ds, c', call, f, hcues, hfollow, hreturned⟩ := h
  refine ⟨.wait t :: cues, ds, c', call, f, List.forall_mem_cons.mpr ⟨trivial, hcues⟩, ?_,
    hreturned⟩
  simp only [follow?, if_pos hlater, hfollow]

theorem CanReturn.move (h : CanReturn k ⟨now, s'⟩) (hstep : s.stepStop? now k = some s') :
    CanReturn k ⟨now, s⟩ := by
  obtain ⟨cues, ds, c', call, f, hcues, hfollow, hreturned⟩ := h
  refine ⟨.act (.move (.stop k)) :: cues, s.deed now (.move (.stop k)) :: ds, c', call, f,
    List.forall_mem_cons.mpr ⟨rfl, hcues⟩, ?_, hreturned⟩
  have hact : s.act? now (.move (.stop k)) = some s' := hstep
  simp only [follow?, hact, hfollow, Option.map_some]

/-- **Every wait of a shutdown comes to its end** if the registry answers and drains do not go on
for ever. -/
theorem WaitsTimed.exists_unblocked {info? : Option Info} {reply : RegistryReply} {t : Transport}
    (h : WaitsTimed reply t now call) (htells : StopTells info? reply k ds call)
    (hanswers : info? ≠ none → reply.latency ≠ none) (ht : t.Drainable) (tasks : HookTasks) :
    ∃ later, now ≤ later ∧ call.blockedOn? later tasks = none := by
  obtain ⟨deadline, stage⟩ := call
  have hreached : ∀ due : Instant, Due.reached (some due) (max now due) = true := fun due =>
    decide_eq_true (Nat.le_max_right now due)
  cases stage with
  | deregistering due f =>
    obtain ⟨asked, -, rfl⟩ := h
    have hinfo : info? ≠ none := by
      cases htells with
      | deregistering hinfo =>
        rw [hinfo]
        exact nofun
    obtain ⟨latency, hlatency⟩ := Option.ne_none_iff_exists'.mp (hanswers hinfo)
    refine ⟨_, Nat.le_max_left now (Instant.timer asked latency), ?_⟩
    have hdue : reply.latency.due asked = some (Instant.timer asked latency) := by
      rw [hlatency]
      rfl
    simp only [StopCall.blockedOn?, hdue, hreached, if_true]
  | draining d f =>
    obtain ⟨asked, -, hdrain⟩ := h
    obtain ⟨due, drained, hends⟩ := ht asked deadline
    refine ⟨_, Nat.le_max_left now due, ?_⟩
    simp only [StopCall.blockedOn?, hdrain.trans hends, hreached, if_true]
  | joining f d =>
    refine ⟨_, Nat.le_max_left now (Instant.tick deadline), ?_⟩
    have hrung : Instant.tick deadline ≤ max now (Instant.tick deadline) := Nat.le_max_right _ _
    simp only [StopCall.blockedOn?, hrung, decide_true, Bool.or_true, if_true]
  | _ => exact ⟨now, Nat.le_refl now, rfl⟩

/-- **A shutdown that is not given up can return by itself**, wherever it stands, if the registry
answers what it is asked and the transport can be drained. -/
theorem Leads.canReturn (h : Leads c ds c') (hstops : c.state.stops = [])
    (hanswers : c.state.engine.options.info? ≠ none →
      c.state.registry.deregister.latency ≠ none)
    (hdrains : c.state.transport.Drainable)
    (hcall : c'.state.stops[k]? = some call) (hwanted : call.stage ≠ .abandoned) :
    CanReturn k c' := by
  induction hwork : call.work using Nat.strongRecOn generalizing ds c' call with
  | _ work ih =>
    obtain ⟨now, s⟩ := c'
    cases hresult : call.result? with
    | some f => exact ⟨[], [], _, call, f, List.forall_mem_nil _, rfl, hcall, hresult⟩
    | none =>
      have hwaits := h.waitsTimed hstops call (List.mem_of_getElem? hcall)
      have htells := (h.stopsTell hstops).tells k call hcall
      rw [h.options_eq.2] at hwaits htells
      rw [h.options_eq.1] at htells
      obtain ⟨t, hlater, hfree⟩ := hwaits.exists_unblocked htells hanswers hdrains s.hookTasks
      have hgoing : call.isOver = false := by
        obtain ⟨deadline, stage⟩ := call
        cases stage with
        | returned f => cases hresult
        | panicked p =>
          -- a drain that comes to something has not panicked
          obtain ⟨asked, hend⟩ := hwaits
          obtain ⟨due, drained, hends⟩ := hdrains asked deadline
          rw [hends] at hend
          cases hend
        | abandoned => exact absurd rfl hwanted
        | _ => rfl
      have hstep : s.stepStop? t k ≠ none := by
        rw [Ne, stepStop?_eq_none_iff hcall, hgoing, hfree]
        simp
      obtain ⟨s', hstep⟩ := Option.ne_none_iff_exists'.mp hstep
      obtain ⟨call₁, hcall₁, hturn⟩ := turn_of_stepStop? hstep
      obtain rfl := Option.some.inj (hcall.symm.trans hcall₁)
      obtain ⟨call', hstops', hless, hwanted'⟩ := hturn.work_lt
      have hnext : s'.stops[k]? = some call' := by
        rw [hstops', List.getElem?_set_self (List.getElem?_eq_some_iff.mp hcall).1]
      have hmoved := (h.wait hlater).act (a := .move (.stop k)) hstep
      exact ((ih _ (hwork ▸ hless) hmoved hnext hwanted' rfl).move hstep).wait hlater

/-! ## 6. Shutdowns of a running engine -/

section

variable (h : Leads c ds c') (hstops : c.state.stops = []) {deadline : Instant} {hooks : List Hook}
  (htaken : .stopTaken k deadline hooks ∈ ds)
include h hstops htaken

/-- Whatever shutdowns ask of the registry and of the transport, the one that is taken asks. -/
theorem Leads.stop?_of_asks {p : Deed → Bool} (hp : p = Deed.deregisters ∨ p = Deed.beginsDrain)
    (hd : d ∈ ds) (hasks : p d = true) : d.stop? = some k := by
  have hstop : ∃ j, d.stop? = some j ∧ d ≠ .stopRefused j := by
    cases d with
    | deregistered j info => exact ⟨j, rfl, nofun⟩
    | drained j deadline => exact ⟨j, rfl, nofun⟩
    | _ => rcases hp with rfl | rfl <;> cases hasks
  obtain ⟨j, hj, hrefused⟩ := hstop
  obtain ⟨call, -, htells, hown⟩ := (h.stopsTell hstops).exists_entry hd hj
  obtain ⟨deadline', hooks', htaken'⟩ := htells.taken_of_asks hown hrefused
  have honce := Deed.eq_of_countP_le_one h.stop_once htaken rfl (Deed.mem_only_iff.mp htaken').1 rfl
  rw [hj, (Deed.stopTaken.inj honce).1]

/-- So they ask as often as it does. -/
theorem Leads.countP_asks {p : Deed → Bool} (hp : p = Deed.deregisters ∨ p = Deed.beginsDrain)
    {since : List Deed} (hsince : since ⊆ ds) :
    since.countP p = (only Deed.stop? k since).countP p :=
  (Deed.countP_only fun _ hd hasks => h.stop?_of_asks hstops htaken hp (hsince hd) hasks).symm

end

/-- What can be told of a shutdown at a moment behind the one at which it has been taken.  The
parameters are what there is to deregister, how the registry answers, the hooks, the number of the
shutdown and its deadline, the moment at which it is taken, and what is done since. -/
structure Drains (info? : Option Info) (reply : RegistryReply) (hooks : List Hook) (k : Nat)
    (deadline : Instant) (taken : Clocked Session) (since : List Deed) (c : Clocked Session) :
    Prop where
  /-- Each hook has been started, once, or its task can start it and has not. -/
  starts : ∀ j hook, hooks[j]? = some hook →
    .taskStarted j hook ∈ since ∧ since.countP (Deed.startsTask j) = 1 ∨
      since.countP (Deed.startsTask j) = 0 ∧
        c.state.deed c.now (.move (.hook j)) = .taskStarted j hook ∧
        (c.state.act? c.now (.move (.hook j))).isSome = true
  status : c.state.engine.status = if .closeCalled ∈ since then .closed else .shutdown
  /-- It asks the registry, if there is something to deregister, and then drains. -/
  order : only Deed.stop? k since <+: Deed.toRegistry k info? ++ [.drained k deadline]
  /-- It is never stuck, as long as the registry answers and the transport can be drained. -/
  canReturn : (∀ call, c.state.stops[k]? = some call → call.stage ≠ .abandoned) →
    (info? ≠ none → reply.latency ≠ none) → taken.state.transport.Drainable → CanReturn k c
  /-- When it has returned, the registry and the transport have each been asked once, and it has
  returned what they have answered. -/
  returned : ∀ call f, c.state.stops[k]? = some call → call.result? = some f →
    only Deed.stop? k since = Deed.toRegistry k info? ++ [.drained k deadline] ∧
      since.countP Deed.deregisters = (if info?.isSome then 1 else 0) ∧
      since.countP Deed.beginsDrain = 1 ∧
      ∃ before after c₁ drained, since = before ++ .drained k deadline :: after ∧
        Leads taken before c₁ ∧
        (c₁.state.transport.drain c₁.now deadline).1.ending = .finished drained ∧
        f = StopCall.outcome (reply.forInfo info?) drained

/-- **A shutdown always drains, and does not depend on its hooks.**  Whatever has been done before
and is done meanwhile, a call to shut down an engine that is running is taken and hands every hook
to a task.  At every moment from there on

* each of the hooks has been started, once, or its task can start it;
* the status is the one of shutting down, unless a call to close has been made;
* the shutdown has asked the registry if there is something to deregister, and has then drained the
  transport with the deadline it was given, as far as it has come;
* as long as it is not given up it can return by itself, if the registry answers and the transport
  can be drained, whatever the hooks do and whatever the registry's answer is;
* and when it has returned, it has done all of this, each once, and returns the fault of the
  registry, else that of the drain unless that ran out of time, else that all is well. -/
theorem leads_drains {e : Engine} {r : Registry} {t : Transport} {start : Instant}
    {before : List Deed} (h : Leads ⟨start, new e r t⟩ before c)
    (hrunning : c.state.engine.status = .running) (deadline : Instant) :
    c.state.deed c.now (.callStop deadline) =
        .stopTaken c.state.stops.length deadline c.state.engine.hooks.onShutdown ∧
      (c.state.callStop deadline).hookTasks =
        HookTasks.spawn c.state.engine.hooks.onShutdown ∧
      ∀ since c', Leads ⟨c.now, c.state.callStop deadline⟩ since c' →
        Drains e.options.info? r.deregister c.state.engine.hooks.onShutdown c.state.stops.length
          deadline ⟨c.now, c.state.callStop deadline⟩ since c' := by
  have hdeed : c.state.deed c.now (.callStop deadline) =
      .stopTaken c.state.stops.length deadline c.state.engine.hooks.onShutdown :=
    if_pos hrunning
  have hcalled : c.state.callStop deadline = { c.state.withStatus .shutdown with
      stops := c.state.stops ++ [⟨deadline, .begun⟩]
      hookTasks := HookTasks.spawn c.state.engine.hooks.onShutdown } := by
    rw [callStop, hrunning]
  refine ⟨hdeed, by rw [hcalled], fun since c' hsince => ?_⟩
  generalize hk : c.state.stops.length = k at hdeed ⊢
  generalize hhooks : c.state.engine.hooks.onShutdown = hooks at hdeed ⊢
  -- the whole execution, with the call in its middle
  have hwhole : Leads ⟨start, new e r t⟩ (before ++ .stopTaken k deadline hooks :: since) c' := by
    have hact := (h.act (a := .callStop deadline) rfl).trans hsince
    rwa [hdeed, List.append_assoc] at hact
  have htaken : .stopTaken k deadline hooks ∈ before ++ .stopTaken k deadline hooks :: since :=
    List.mem_append_right _ List.mem_cons_self
  have hhistory : only Deed.stop? k (before ++ .stopTaken k deadline hooks :: since) =
      .stopTaken k deadline hooks :: only Deed.stop? k since := by
    have hsilent := (h.stopsTell rfl).silent k (Nat.le_of_eq hk)
    rw [Deed.only_append, hsilent, List.nil_append]
    simp [only, Deed.stop?]
  obtain ⟨call, hcall, htells⟩ : ∃ call, c'.state.stops[k]? = some call ∧
      StopTells e.options.info? r.deregister k
        (.stopTaken k deadline hooks :: only Deed.stop? k since) call := by
    obtain ⟨call, hcall, htells, -⟩ := (hwhole.stopsTell rfl).exists_entry htaken rfl
    rw [hwhole.options_eq.1, hwhole.options_eq.2, hhistory] at htells
    exact ⟨call, hcall, htells⟩
  have halike : t.Alike (c.state.callStop deadline).transport :=
    (h.act (a := .callStop deadline) rfl).alike
  have hstands : Stands hooks since c'.state := by
    have hstart := stands_callStop hrunning deadline
    rw [hhooks] at hstart
    exact hsince.invariant (I := Stands hooks) hstart fun _ _ _ _ _ hstands hdoes =>
      hstands.does hdoes
  refine ⟨fun j hook hhook => hstands.starts hhook, hsince.status_eq (by rw [hcalled]; rfl),
    htells.behind_taken.1,
    fun hwanted hanswers hdrains => hwhole.canReturn rfl hanswers (halike.drainable hdrains) hcall
      (hwanted call hcall), ?_⟩
  intro call' f hcall' hreturned
  obtain rfl := Option.some.inj (hcall.symm.trans hcall')
  have hall := htells.behind_taken.2 f hreturned
  have hasked : ∀ {p : Deed → Bool}, p = Deed.deregisters ∨ p = Deed.beginsDrain →
      since.countP p = (Deed.toRegistry k e.options.info? ++ [Deed.drained k deadline]).countP p :=
    fun hp => hall ▸ hwhole.countP_asks rfl htaken hp fun _ hd =>
      List.mem_append_right _ (List.mem_cons_of_mem _ hd)
  refine ⟨hall, ?_, ?_, ?_⟩
  · rw [hasked (Or.inl rfl)]
    cases e.options.info? <;> rfl
  · rw [hasked (Or.inr rfl)]
    cases e.options.info? <;> rfl
  · have hown : Deed.drained k deadline ∈ only Deed.stop? k since := by
      rw [hall]
      exact List.mem_append_right _ (List.mem_singleton_self _)
    have hdrained := (Deed.mem_only_iff.mp hown).1
    exact Leads.outcome (h.act (a := .callStop deadline) rfl) rfl hsince hdrained hcall hreturned

/-- An engine with an instance to announce, and with hooks of which one fails, one panics and one
never ends. -/
def troubled : Engine :=
  { Engine.new { Options.standard with info? := some (.named "orders" "10.0.0.7:80") } with
    hooks := ⟨[], [⟨"flush", .call (some ⟨0⟩) (.failed (.failed "disk full" none))⟩,
      ⟨"trace", .call (some ⟨0⟩) (.panicked .other)⟩, ⟨"sync", .call none .passed⟩]⟩ }

/-- A registry that does not let go of an instance. -/
def clinging : Registry := ⟨⟨some ⟨0⟩, none⟩, ⟨some ⟨0⟩, some (.unavailable "no quorum")⟩⟩

/-- A transport that takes longer to drain than it is given. -/
def crowded : Transport :=
  .scripted { TransportScript.smooth with drainTime := some (.ofMillis 50) } false

/-- A shutdown within ten milliseconds, with a call to close in its middle.  The last of the hooks
is not started before the shutdown has returned. -/
def troubledStop : List Cue :=
  [.act (.move (.hook 1)), .act (.move (.stop 0)), .act (.move (.hook 0)), .act (.move (.hook 1)),
    .act (.move (.stop 0)), .act (.move (.stop 0)), .act .callClose, .wait 10000000,
    .act (.move (.stop 0)), .act (.move (.hook 0)), .act (.move (.stop 0))]

/-- The drain has run out of time and the registry has refused; the shutdown returns what the
registry has answered, and the hook that is left can still be started. -/
theorem leads_drains_troubled : ∃ before c since c' call,
    follow? ⟨0, new troubled clinging crowded⟩ [.act .callRun] = some (before, c) ∧
      c.state.engine.status = .running ∧
      follow? ⟨c.now, c.state.callStop 10000000⟩ troubledStop = some (since, c') ∧
      c'.state.stops[c.state.stops.length]? = some call ∧
      call.result? = some (.failed (.registry (.unavailable "no quorum"))) ∧
      since.countP Deed.deregisters = 1 ∧ since.countP Deed.beginsDrain = 1 ∧
      c'.state.engine.status = .closed ∧
      (c'.state.act? c'.now (.move (.hook 2))).isSome = true := by
  have hday : ∃ before c since c' call f,
      follow? ⟨0, new troubled clinging crowded⟩ [.act .callRun] = some (before, c) ∧
        c.state.engine.status = .running ∧
        c.state.engine.hooks.onShutdown[2]? = some ⟨"sync", .call none .passed⟩ ∧
        follow? ⟨c.now, c.state.callStop 10000000⟩ troubledStop = some (since, c') ∧
        .closeCalled ∈ since ∧ Deed.taskStarted 2 ⟨"sync", .call none .passed⟩ ∉ since ∧
        c'.state.stops[c.state.stops.length]? = some call ∧ call.result? = some f := by
    refine ⟨_, _, _, _, _, _, rfl, rfl, rfl, rfl, ?_, ?_, rfl, rfl⟩ <;> decide
  obtain ⟨before, c, since, c', call, f, hbegin, hrunning, hhook, hend, hclose, hleft, hcall,
    hresult⟩ := hday
  obtain ⟨-, -, hdrains⟩ := leads_drains (leads_of_follow? hbegin) hrunning 10000000
  have htold := hdrains since c' (leads_of_follow? hend)
  obtain ⟨-, hderegistered, hdrained, -, -, c₁, drained, -, -, -, hf⟩ :=
    htold.returned call f hcall hresult
  refine ⟨before, c, since, c', call, hbegin, hrunning, hend, hcall, ?_, hderegistered, hdrained,
    ?_, ?_⟩
  · rw [hresult, hf]
    rfl
  · rw [htold.status, if_pos hclose]
  · rcases htold.starts 2 _ hhook with ⟨hstarted, -⟩ | ⟨-, -, hcan⟩
    · exact absurd hstarted hleft
    · exact hcan

end Session

end Gatehouse
