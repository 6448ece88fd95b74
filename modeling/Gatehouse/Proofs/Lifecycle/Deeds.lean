/-
# What happens in a session

Callers add hooks, begin calls and give them up; calls and tasks go on by moves.  An `Act` is any of
these.  Each act does one thing that its caller, a collaborator or another call can tell, its
`Deed`, or nothing of the kind.

* `Session.does_of_act?`: **all that an act can do**: each case with what makes it possible, its
  deed and the session behind it;
* `Session.Does.journal_eq`: **the journal is what was done**: no deed that asks something of a
  collaborator is left out of it, and nothing else is in it;
* `Session.Does.alike`: a transport behaves as it did, whatever is done;
* `Session.Does.rank_le`: **an engine's status never goes back**.
-/
import Gatehouse.Lifecycle.Session.Move

namespace Gatehouse

/-! ## 1. Acts -/

/-- Something that is done to a session from outside, or by one of its calls and tasks. -/
inductive Act
  | addRunHook (h : Hook)
  | addShutdownHook (h : Hook)
  | callRun
  /-- Starts a call to run that has not been started. -/
  | start (i : Nat) (reports : Bool)
  | callStop (deadline : Instant)
  | abandonStop (i : Nat)
  | callClose
  /-- Registrations that are not through are given up. -/
  | cancel
  /-- Nobody reads reports any more. -/
  | deafen
  | move (m : Move)

namespace Session

/-- The session behind an act, if the act is possible. -/
def act? (now : Instant) (s : Session) : Act → Option Session
  | .addRunHook h => some { s with engine := s.engine.addRunHook h }
  | .addShutdownHook h => some { s with engine := s.engine.addShutdownHook h }
  | .callRun => some s.callRun
  | .start i reports =>
    match s.runs[i]? with
    | some c => if c.started then none else some (s.start i reports)
    | none => none
  | .callStop deadline => some (s.callStop deadline)
  | .abandonStop i => if i < s.stops.length then some (s.abandonStop i) else none
  | .callClose => some s.callClose
  | .cancel => some { s with cancelled := true }
  | .deafen => some { s with collector := s.collector.close }
  | .move m => s.step? now m

end Session

/-! ## 2. Deeds -/

/-- What others can tell of an act.  Runs, shutdowns and the tasks of hooks are numbered. -/
inductive Deed
  /-- A call to run has been taken, with the hooks that it runs. -/
  | runTaken (run : Nat) (hooks : List Hook)
  | runRefused (run : Nat)
  | hookStarted (run : Nat) (h : Hook)
  | hookEnded (run : Nat) (h : Hook)
  /-- A run behind its hooks has looked at the status. -/
  | looked (run : Nat) (status : Status)
  | served (run : Nat)
  | reported (run : Nat) (f : Finish)
  /-- A call to shut down has been taken, with the hooks that are handed to tasks. -/
  | stopTaken (stop : Nat) (deadline : Instant) (hooks : List Hook)
  | stopRefused (stop : Nat)
  | deregistered (stop : Nat) (info : Info)
  | drained (stop : Nat) (deadline : Instant)
  | taskStarted (task : Nat) (h : Hook)
  | taskEnded (task : Nat) (h : Hook)
  | closeCalled
  | closed
  | registered (info? : Option Info)
  /-- Nothing that others can tell. -/
  | quiet
deriving DecidableEq, Repr

namespace Deed

def event? : Deed → Option Event
  | hookStarted _ h => some (.hook (.started h))
  | hookEnded _ h => some (.hook (.ended h))
  | served _ => some .served
  | deregistered _ info => some (.deregistered info)
  | drained _ deadline => some (.drained deadline)
  | taskStarted _ h => some (.hook (.started h))
  | taskEnded _ h => some (.hook (.ended h))
  | closed => some .closed
  | registered info? => some (.registered info?)
  | _ => none

def status (before : Status) : Deed → Status
  | runTaken _ _ => .running
  | stopTaken _ _ _ => .shutdown
  | closeCalled => .closed
  | _ => before

end Deed

namespace Session

def runDeed (s : Session) (i : Nat) : Deed :=
  match s.runs[i]?.map RunCall.stage with
  | some (.hooks (.ready (h :: _))) => .hookStarted i h
  | some (.hooks (.waiting h _ _)) => .hookEnded i h
  | some (.hooks (.ended .passed)) => .looked i s.engine.status
  | some .cleared => .served i
  | some (.ended (.finished f)) => .reported i f
  | _ => .quiet

def stopDeed (s : Session) (i : Nat) : Deed :=
  match s.stops[i]? with
  | some ⟨_, .begun⟩ => (s.engine.options.info?.map (Deed.deregistered i)).getD .quiet
  | some ⟨deadline, .deregistered _⟩ => .drained i deadline
  | _ => .quiet

def taskDeed (s : Session) (i : Nat) : Deed :=
  match s.hookTasks.tasks[i]? with
  | some ⟨h, .spawned⟩ => .taskStarted i h
  | some ⟨h, .waiting _⟩ => .taskEnded i h
  | _ => .quiet

def registrationTurn (now : Instant) (s : Session) (registryFirst : Bool) (r : RegistrationStage) :
    RegistrationTurn :=
  r.turn now s.engine.options.registerDelay s.registry.register s.cancelled registryFirst

def registrationDeed (s : Session) (t : RegistrationTurn) : Deed :=
  if t.called then .registered s.engine.options.info? else .quiet

/-- What is collected behind a turn of a registration: a refusal is reported. -/
def refusalReported (s : Session) (t : RegistrationTurn) : Collector :=
  match t.answered, s.registry.register.finish with
  | true, .failed f => (s.collector.report? (.failed f)).getD s.collector
  | _, _ => s.collector

/-- A session behind a turn of its `i`-th registration. -/
def turned (s : Session) (i : Nat) (t : RegistrationTurn) : Session :=
  { s with
    registrations := s.registrations.set i t.stage
    journal := s.journal ++ (s.registrationDeed t).event?.toList
    collector := s.refusalReported t }

/-- What an act does. -/
def deed (now : Instant) (s : Session) : Act → Deed
  | .callRun =>
    if s.engine.status = .init then .runTaken s.runs.length s.engine.hooks.onRun
    else .runRefused s.runs.length
  | .callStop deadline =>
    if s.engine.status = .running then
      .stopTaken s.stops.length deadline s.engine.hooks.onShutdown
    else .stopRefused s.stops.length
  | .callClose => .closeCalled
  | .move (.run i) => s.runDeed i
  | .move (.stop i) => s.stopDeed i
  | .move (.close _) => .closed
  | .move (.hook i) => s.taskDeed i
  | .move (.registration i registryFirst) =>
    (s.registrations[i]?.map fun r =>
      s.registrationDeed (s.registrationTurn now registryFirst r)).getD .quiet
  | _ => .quiet

end Session

/-! ## 3. What a task can do -/

namespace HookTasks

/-- What the task that has a turn does: it starts its hook, or the hook has waited and ends. -/
inductive Goes (now : Instant) (ts : HookTasks) (i : Nat) : HookNote → HookTasks → Prop
  | started {t : HookTask} (htask : ts.tasks[i]? = some t) (hstage : t.stage = .spawned) :
      Goes now ts i (.started t.hook)
        ⟨ts.tasks.set i { t with stage := .waiting (t.hook.latency.due now) }, ts.failures⟩
  | ended {t : HookTask} {due : Due} (htask : ts.tasks[i]? = some t)
      (hstage : t.stage = .waiting due) (hdue : due.reached now = true) :
      Goes now ts i (.ended t.hook)
        ⟨ts.tasks.set i { t with stage := .ended }, ts.failures ++ (failure? t.hook).toList⟩

/-- **All that a turn of a task can be.** -/
theorem stepAt?_eq_some_iff {now : Instant} {ts ts' : HookTasks} {i : Nat} {n : HookNote} :
    ts.stepAt? now i = some (ts', n) ↔ Goes now ts i n ts' := by
  constructor
  · intro h
    unfold stepAt? at h
    split at h
    · cases h
    · rename_i t htask
      split at h
      · rename_i hstage
        cases h
        exact .started htask hstage
      · rename_i due hstage
        split at h
        · rename_i hdue
          cases h
          exact .ended htask hstage hdue
        · cases h
      · cases h
  · intro h
    cases h with
    | started htask hstage => simp only [stepAt?, htask, hstage]
    | ended htask hstage hdue => simp only [stepAt?, htask, hstage, hdue, if_true]

theorem map_hook_set {tasks : List HookTask} {i : Nat} {t t' : HookTask}
    (htask : tasks[i]? = some t) (hhook : t'.hook = t.hook) :
    (tasks.set i t').map HookTask.hook = tasks.map HookTask.hook := by
  have hsame : (tasks.map HookTask.hook)[i]? = some t.hook := by
    rw [List.getElem?_map, htask]
    rfl
  obtain ⟨hi, hget⟩ := List.getElem?_eq_some_iff.mp hsame
  rw [List.map_set, hhook, ← hget, List.set_getElem_self hi]

theorem map_hook_spawn (hooks : List Hook) : (spawn hooks).tasks.map HookTask.hook = hooks :=
  (List.map_map ..).trans (List.map_id _)

/-- A task that has just been spawned has not started its hook. -/
theorem spawned_of_mem_spawn {hooks : List Hook} {t : HookTask} (ht : t ∈ (spawn hooks).tasks) :
    t = ⟨t.hook, .spawned⟩ := by
  obtain ⟨hook, -, rfl⟩ := List.mem_map.mp ht
  rfl

end HookTasks

/-! ## 4. What a transport keeps to -/

namespace Transport

/-- What serving and draining come to is the same for both. -/
structure Alike (t t' : Transport) : Prop where
  serve : ∀ now, (t'.serve now).1 = (t.serve now).1
  drain : ∀ now deadline, (t'.drain now deadline).1 = (t.drain now deadline).1

variable (t : Transport)

theorem Alike.rfl {t : Transport} : t.Alike t := ⟨fun _ => Eq.refl _, fun _ _ => Eq.refl _⟩

theorem Alike.trans {t t₁ t₂ : Transport} (h : t.Alike t₁) (h₁ : t₁.Alike t₂) : t.Alike t₂ :=
  ⟨fun now => (h₁.serve now).trans (h.serve now),
    fun now deadline => (h₁.drain now deadline).trans (h.drain now deadline)⟩

theorem alike_serve (now : Instant) : t.Alike (t.serve now).2 := by
  cases t <;> exact ⟨fun _ => rfl, fun _ _ => rfl⟩

theorem alike_drain (now deadline : Instant) : t.Alike (t.drain now deadline).2 := by
  cases t <;> exact ⟨fun _ => rfl, fun _ _ => rfl⟩

theorem alike_close : t.Alike t.close.2 := by
  cases t <;> exact ⟨fun _ => rfl, fun _ _ => rfl⟩

end Transport

/-! ## 5. What a turn can do -/

/-- A shutdown that nobody waits for any more. -/
def StopCall.abandon (c : StopCall) : StopCall :=
  match c.stage with
  | .returned _ => c
  | .panicked _ => c
  | _ => { c with stage := .abandoned }

namespace Session

/-- What a started run can do: each case with its deed and the session behind it. -/
inductive RunTurn (now : Instant) (s : Session) (i : Nat) (c : RunCall) : Deed → Session → Prop
  | hooksDone (hstage : c.stage = .hooks (.ready [])) :
      RunTurn now s i c .quiet (s.setRun i { c with stage := .hooks (.ended .passed) })
  | hookStarted {h : Hook} {left : List Hook} (hstage : c.stage = .hooks (.ready (h :: left))) :
      RunTurn now s i c (.hookStarted i h)
        ((s.setRun i { c with stage := .hooks (.waiting h (h.latency.due now) left) }).note
          (.started h))
  | hookEnded {h : Hook} {due : Due} {left : List Hook}
      (hstage : c.stage = .hooks (.waiting h due left)) (hdue : due.reached now = true) :
      RunTurn now s i c (.hookEnded i h)
        ((s.setRun i { c with stage := .hooks (HookRun.after h left) }).note (.ended h))
  | looked (hstage : c.stage = .hooks (.ended .passed)) :
      RunTurn now s i c (.looked i s.engine.status)
        (s.setRun i { c with stage := s.behindHooks .passed })
  | failed {f : HookFault} (hstage : c.stage = .hooks (.ended (.failed f))) :
      RunTurn now s i c .quiet
        (s.setRun i { c with stage := .ended (.finished (.failed (.hook f))) })
  | panicked {p : Panic} (hstage : c.stage = .hooks (.ended (.panicked p))) :
      RunTurn now s i c .quiet (s.setRun i { c with stage := .ended (.panicked p) })
  | served (hstage : c.stage = .cleared) :
      RunTurn now s i c (.served i)
        { (s.record .served).setRun i { c with stage := .serving (s.transport.serve now).1 } with
          transport := (s.transport.serve now).2 }
  | servingEnded {v : Serving} {e : CallEnd} (hstage : c.stage = .serving v)
      (hend : s.afterServing now v = some e) :
      RunTurn now s i c .quiet (s.setRun i { c with stage := .ended e })
  | reported {f : Finish} {collector : Collector} (hstage : c.stage = .ended (.finished f))
      (howes : c.owesReport = true) (hreport : s.collector.report? f = some collector) :
      RunTurn now s i c (.reported i f) { s.setRun i { c with owesReport := false } with collector }

inductive StopTurn (now : Instant) (s : Session) (i : Nat) (c : StopCall) : Deed → Session → Prop
  | deregistered {info : Info} (hstage : c.stage = .begun)
      (hinfo : s.engine.options.info? = some info) :
      StopTurn now s i c (.deregistered i info)
        ((s.record (.deregistered info)).setStop i { c with
          stage := .deregistering (s.registry.deregister.latency.due now)
            s.registry.deregister.finish })
  | unregistered (hstage : c.stage = .begun) (hinfo : s.engine.options.info? = none) :
      StopTurn now s i c .quiet (s.setStop i { c with stage := .deregistered .well })
  | answered {due : Due} {f : Finish} (hstage : c.stage = .deregistering due f)
      (hdue : due.reached now = true) :
      StopTurn now s i c .quiet (s.setStop i { c with stage := .deregistered f })
  | drained {f : Finish} (hstage : c.stage = .deregistered f) :
      StopTurn now s i c (.drained i c.deadline)
        (({ s.record (.drained c.deadline) with
          transport := (s.transport.drain now c.deadline).2 } : Session).setStop i
            { c with stage := .draining (s.transport.drain now c.deadline).1 f })
  | idle {d : Drain} {f : Finish} (hstage : c.stage = .draining d f)
      (hdue : d.due.reached now = true) :
      StopTurn now s i c .quiet
        (s.setStop i { c with stage := StopCall.behindDrain f d.ending })
  | joined {f d : Finish} (hstage : c.stage = .joining f d)
      (hend : s.hookTasks.allEnded = true ∨ Instant.tick c.deadline ≤ now) :
      StopTurn now s i c .quiet (s.setStop i { c with stage := .returned (f.and d) })

inductive TaskTurn (now : Instant) (s : Session) (i : Nat) (t : HookTask) : Deed → Session → Prop
  | started (hstage : t.stage = .spawned) :
      TaskTurn now s i t (.taskStarted i t.hook)
        (({ s with hookTasks := { s.hookTasks with
            tasks := s.hookTasks.tasks.set i
              { t with stage := .waiting (t.hook.latency.due now) } } } : Session).note
          (.started t.hook))
  | ended {due : Due} (hstage : t.stage = .waiting due) (hdue : due.reached now = true) :
      TaskTurn now s i t (.taskEnded i t.hook)
        (({ s with hookTasks :=
            ⟨s.hookTasks.tasks.set i { t with stage := .ended },
              s.hookTasks.failures ++ (HookTasks.failure? t.hook).toList⟩ } : Session).note
          (.ended t.hook))

/-! ## 6. What an act can do -/

/-- What can happen in a session: each case with its deed and the session behind it. -/
inductive Does (now : Instant) (s : Session) : Deed → Session → Prop
  | addRunHook (h : Hook) : Does now s .quiet { s with engine := s.engine.addRunHook h }
  | addShutdownHook (h : Hook) : Does now s .quiet { s with engine := s.engine.addShutdownHook h }
  | cancel : Does now s .quiet { s with cancelled := true }
  | deafen : Does now s .quiet { s with collector := s.collector.close }
  | runTaken (hstatus : s.engine.status = .init) :
      Does now s (.runTaken s.runs.length s.engine.hooks.onRun)
        { s.withStatus .running with
          runs := s.runs ++ [⟨.hooks (.ready s.engine.hooks.onRun), false, false⟩] }
  | runRefused (hstatus : s.engine.status ≠ .init) :
      Does now s (.runRefused s.runs.length)
        { s with
          runs := s.runs ++ [⟨.ended (.finished (.failed .alreadyRunning)), false, false⟩] }
  | runStarted {i : Nat} {c : RunCall} (hcall : s.runs[i]? = some c) (hstarted : c.started = false)
      (reports : Bool) :
      Does now s .quiet (s.setRun i { c with started := true, owesReport := reports })
  | run {i : Nat} {c : RunCall} {d : Deed} {s' : Session} (hcall : s.runs[i]? = some c)
      (hstarted : c.started = true) (hturn : s.RunTurn now i c d s') : Does now s d s'
  | stopTaken (hstatus : s.engine.status = .running) (deadline : Instant) :
      Does now s (.stopTaken s.stops.length deadline s.engine.hooks.onShutdown)
        { s.withStatus .shutdown with
          stops := s.stops ++ [⟨deadline, .begun⟩]
          hookTasks := HookTasks.spawn s.engine.hooks.onShutdown }
  | stopRefused (hstatus : s.engine.status ≠ .running) (deadline : Instant) :
      Does now s (.stopRefused s.stops.length)
        { s with stops := s.stops ++ [⟨deadline, .returned (.failed .notRunning)⟩] }
  | stopAbandoned {i : Nat} {c : StopCall} (hcall : s.stops[i]? = some c) :
      Does now s .quiet (s.setStop i c.abandon)
  | stop {i : Nat} {c : StopCall} {d : Deed} {s' : Session} (hcall : s.stops[i]? = some c)
      (hturn : s.StopTurn now i c d s') : Does now s d s'
  | closeCalled :
      Does now s .closeCalled { s.withStatus .closed with closes := s.closes ++ [⟨none⟩] }
  | closed {i : Nat} (hcall : s.closes[i]? = some ⟨none⟩) :
      Does now s .closed
        { s.record .closed with
          transport := s.transport.close.2
          closes := s.closes.set i ⟨some s.transport.close.1⟩ }
  | drainEnded (drains : List DrainCall) : Does now s .quiet { s with drains }
  | task {i : Nat} {t : HookTask} {d : Deed} {s' : Session}
      (htask : s.hookTasks.tasks[i]? = some t) (hturn : s.TaskTurn now i t d s') : Does now s d s'
  | registration {i : Nat} {r : RegistrationStage} (hcall : s.registrations[i]? = some r)
      (hready : r.isReady now s.cancelled = true) (registryFirst : Bool) {d : Deed}
      (hdeed : s.registrationDeed (s.registrationTurn now registryFirst r) = d) :
      Does now s d (s.turned i (s.registrationTurn now registryFirst r))

variable {now : Instant} {s s' : Session}

/-- A move of a run is one of the turns that a run can take. -/
theorem turn_of_stepRun? {i : Nat} (h : s.stepRun? now i = some s') :
    ∃ c, s.runs[i]? = some c ∧ c.started = true ∧ s.RunTurn now i c (s.runDeed i) s' := by
  unfold stepRun? at h
  cases hcall : s.runs[i]? with
  | none => simp only [hcall] at h; cases h
  | some c =>
    obtain ⟨stage, started, owes⟩ := c
    simp only [hcall] at h
    cases started with
    | false => cases h
    | true =>
      refine ⟨_, rfl, rfl, ?_⟩
      simp only [runDeed, hcall, Option.map_some]
      cases stage with
      | hooks r =>
        cases r with
        | ready left =>
          cases left with
          | nil => cases h; exact .hooksDone rfl
          | cons hook left => cases h; exact .hookStarted rfl
        | waiting hook due left =>
          obtain ⟨p, hstep, rfl⟩ := Option.map_eq_some_iff.mp h
          simp only [HookRun.step?] at hstep
          split at hstep
          · cases hstep; exact .hookEnded rfl ‹_›
          · cases hstep
        | ended e =>
          cases h
          cases e with
          | passed => exact .looked rfl
          | failed f => exact .failed rfl
          | panicked p => exact .panicked rfl
      | cleared => cases h; exact .served rfl
      | serving v =>
        obtain ⟨e, hend, rfl⟩ := Option.map_eq_some_iff.mp h
        exact .servingEnded rfl hend
      | ended e =>
        cases e with
        | finished f =>
          cases owes with
          | false => cases h
          | true =>
            obtain ⟨collector, hreport, rfl⟩ := Option.map_eq_some_iff.mp h
            exact .reported rfl rfl hreport
        | panicked p => cases h

theorem turn_of_stepStop? {i : Nat} (h : s.stepStop? now i = some s') :
    ∃ c, s.stops[i]? = some c ∧ s.StopTurn now i c (s.stopDeed i) s' := by
  unfold stepStop? at h
  cases hcall : s.stops[i]? with
  | none => simp only [hcall] at h; cases h
  | some c =>
    obtain ⟨deadline, stage⟩ := c
    simp only [hcall] at h
    refine ⟨_, rfl, ?_⟩
    simp only [stopDeed, hcall]
    cases stage with
    | begun =>
      simp only at h
      cases hinfo : s.engine.options.info? with
      | none => simp only [hinfo] at h; cases h; exact .unregistered rfl hinfo
      | some info => simp only [hinfo] at h; cases h; exact .deregistered rfl hinfo
    | deregistering due f =>
      simp only at h
      split at h
      · cases h; exact .answered rfl ‹_›
      · cases h
    | deregistered f => cases h; exact .drained rfl
    | draining d f =>
      simp only at h
      split at h
      · cases h; exact .idle rfl ‹_›
      · cases h
    | joining f d =>
      simp only at h
      split at h
      · rename_i hend
        cases h
        exact .joined rfl (by simpa using hend)
      · cases h
    | returned f => cases h
    | panicked p => cases h
    | abandoned => cases h

theorem turn_of_stepHook? {i : Nat} (h : s.stepHook? now i = some s') :
    ∃ t, s.hookTasks.tasks[i]? = some t ∧ s.TaskTurn now i t (s.taskDeed i) s' := by
  obtain ⟨⟨tasks, n⟩, hstep, rfl⟩ := Option.map_eq_some_iff.mp h
  cases HookTasks.stepAt?_eq_some_iff.mp hstep with
  | @started t htask hstage =>
    obtain ⟨hook, stage⟩ := t
    cases hstage
    refine ⟨_, htask, ?_⟩
    simp only [taskDeed, htask]
    exact .started rfl
  | @ended t due htask hstage hdue =>
    obtain ⟨hook, stage⟩ := t
    cases hstage
    refine ⟨_, htask, ?_⟩
    simp only [taskDeed, htask]
    exact .ended rfl hdue

theorem turned_eq (s : Session) (i : Nat) (t : RegistrationTurn) :
    (let moved : Session := { s with registrations := s.registrations.set i t.stage }
      let called := if t.called then moved.record (.registered s.engine.options.info?) else moved
      match t.answered, s.registry.register.finish with
      | true, .failed f =>
        let collector := (called.collector.report? (.failed f)).getD called.collector
        some ({ called with collector } : Session)
      | _, _ => some called) = some (s.turned i t) := by
  obtain ⟨stage, called, answered⟩ := t
  unfold turned refusalReported registrationDeed
  cases called <;> cases answered <;> cases s.registry.register.finish <;>
    simp [record, Deed.event?]

theorem turned_of_stepRegistration? {i : Nat} {registryFirst : Bool}
    (h : s.stepRegistration? now i registryFirst = some s') :
    ∃ r, s.registrations[i]? = some r ∧ r.isReady now s.cancelled = true ∧
      s' = s.turned i (s.registrationTurn now registryFirst r) := by
  unfold stepRegistration? at h
  cases hcall : s.registrations[i]? with
  | none => simp only [hcall] at h; cases h
  | some r =>
    simp only [hcall] at h
    split at h
    · cases h
    · rename_i hready
      have hturned := turned_eq s i (s.registrationTurn now registryFirst r)
      exact ⟨r, rfl, by simpa using hready, Option.some.inj (h.symm.trans hturned)⟩

theorem does_callRun : Does now s (s.deed now .callRun) s.callRun := by
  unfold callRun deed
  cases hstatus : s.engine.status with
  | init => exact .runTaken hstatus
  | _ => exact .runRefused (by rw [hstatus]; exact nofun)

theorem does_callStop (deadline : Instant) :
    Does now s (s.deed now (.callStop deadline)) (s.callStop deadline) := by
  unfold callStop deed
  cases hstatus : s.engine.status with
  | running => exact .stopTaken hstatus deadline
  | _ => exact .stopRefused (by rw [hstatus]; exact nofun) deadline

/-- Changing an entry of a list is putting the changed entry in its place. -/
theorem modify_eq_set_of_getElem? {α : Type} {l : List α} {i : Nat} {a : α} (h : l[i]? = some a)
    (f : α → α) : l.modify i f = l.set i (f a) := by
  obtain ⟨hi, rfl⟩ := List.getElem?_eq_some_iff.mp h
  refine List.ext_getElem? fun j => ?_
  rw [List.getElem?_modify, List.getElem?_set]
  split
  · subst j
    simp [hi]
  · simp

/-- **All that an act can do.** -/
theorem does_of_act? {a : Act} (h : s.act? now a = some s') : Does now s (s.deed now a) s' := by
  cases a with
  | addRunHook hook => cases h; exact .addRunHook hook
  | addShutdownHook hook => cases h; exact .addShutdownHook hook
  | callRun => cases h; exact does_callRun
  | start i reports =>
    simp only [act?] at h
    split at h
    · rename_i c hcall
      split at h
      · cases h
      · rename_i hstarted
        cases h
        have hset := modify_eq_set_of_getElem? hcall fun c =>
          { c with started := true, owesReport := reports }
        rw [start, hset]
        exact .runStarted hcall (Bool.eq_false_iff.mpr hstarted) reports
    · cases h
  | callStop deadline => cases h; exact does_callStop deadline
  | abandonStop i =>
    simp only [act?] at h
    split at h
    · rename_i hi
      cases h
      have hcall : s.stops[i]? = some s.stops[i] := List.getElem?_eq_getElem hi
      rw [abandonStop, modify_eq_set_of_getElem? hcall]
      exact .stopAbandoned hcall
    · cases h
  | callClose => cases h; exact .closeCalled
  | cancel => cases h; exact .cancel
  | deafen => cases h; exact .deafen
  | move m =>
    cases m with
    | run i =>
      obtain ⟨c, hcall, hstarted, hturn⟩ := turn_of_stepRun? h
      exact .run hcall hstarted hturn
    | stop i =>
      obtain ⟨c, hcall, hturn⟩ := turn_of_stepStop? h
      exact .stop hcall hturn
    | close i =>
      simp only [act?, step?, stepClose?] at h
      split at h
      · rename_i hcall
        cases h
        exact .closed hcall
      · cases h
    | drain i =>
      simp only [act?, step?, stepDrain?] at h
      split at h
      · split at h
        · cases h; exact .drainEnded _
        · cases h
      · cases h
    | hook i =>
      obtain ⟨t, htask, hturn⟩ := turn_of_stepHook? h
      exact .task htask hturn
    | registration i registryFirst =>
      obtain ⟨r, hcall, hready, rfl⟩ := turned_of_stepRegistration? h
      refine .registration hcall hready registryFirst ?_
      simp only [deed, hcall, Option.map_some, Option.getD_some]

/-! ## 7. What every deed leaves alone -/

theorem note_eq (s : Session) (n : HookNote) :
    s.note n = { s with
      journal := s.journal ++ [.hook n]
      registrations := (s.note n).registrations } := by
  cases n with
  | started h =>
    simp only [note, record]
    split <;> rfl
  | ended h => rfl

section

variable (s : Session) (n : HookNote)

theorem note_engine : (s.note n).engine = s.engine := by rw [note_eq]
theorem note_registry : (s.note n).registry = s.registry := by rw [note_eq]
theorem note_transport : (s.note n).transport = s.transport := by rw [note_eq]
theorem note_runs : (s.note n).runs = s.runs := by rw [note_eq]
theorem note_stops : (s.note n).stops = s.stops := by rw [note_eq]
theorem note_closes : (s.note n).closes = s.closes := by rw [note_eq]
theorem note_cancelled : (s.note n).cancelled = s.cancelled := by rw [note_eq]
theorem note_hookTasks : (s.note n).hookTasks = s.hookTasks := by rw [note_eq]
theorem note_collector : (s.note n).collector = s.collector := by rw [note_eq]
theorem note_journal : (s.note n).journal = s.journal ++ [.hook n] := by rw [note_eq]

end

/-- **The journal is what was done.** -/
theorem Does.journal_eq {d : Deed} (h : Does now s d s') :
    s'.journal = s.journal ++ d.event?.toList := by
  cases h with
  | run hcall hstarted hturn =>
    cases hturn <;> first | exact note_journal _ _ | rfl | exact (List.append_nil _).symm
  | stop hcall hturn => cases hturn <;> first | rfl | exact (List.append_nil _).symm
  | task htask hturn => cases hturn <;> exact note_journal _ _
  | closed hcall => rfl
  | registration hcall hready registryFirst hdeed => rw [← hdeed]; rfl
  | _ => exact (List.append_nil _).symm

theorem Does.options_eq {d : Deed} (h : Does now s d s') :
    s'.engine.options = s.engine.options ∧ s'.registry = s.registry := by
  have hnote : ∀ (s : Session) (n : HookNote), (s.note n).engine.options = s.engine.options ∧
      (s.note n).registry = s.registry := fun s n =>
    ⟨by rw [note_engine], note_registry s n⟩
  cases h with
  | run hcall hstarted hturn => cases hturn <;> first | exact hnote _ _ | exact ⟨rfl, rfl⟩
  | stop hcall hturn => cases hturn <;> exact ⟨rfl, rfl⟩
  | task htask hturn => cases hturn <;> exact hnote _ _
  | _ => exact ⟨rfl, rfl⟩

/-- **The transport behaves as it did**, whatever is done. -/
theorem Does.alike {d : Deed} {t : Transport} (h : Does now s d s') (ht : t.Alike s.transport) :
    t.Alike s'.transport := by
  have hnote : ∀ (s₁ : Session) (n : HookNote), s₁.transport = s.transport →
      t.Alike (s₁.note n).transport := by
    intro s₁ n hsame
    rw [note_transport, hsame]
    exact ht
  cases h with
  | run hcall hstarted hturn =>
    cases hturn with
    | served hstage => exact ht.trans (s.transport.alike_serve now)
    | hookStarted hstage => exact hnote _ _ rfl
    | hookEnded hstage hdue => exact hnote _ _ rfl
    | _ => exact ht
  | @stop _ call _ _ hcall hturn =>
    cases hturn with
    | drained hstage => exact ht.trans (s.transport.alike_drain now call.deadline)
    | _ => exact ht
  | task htask hturn => cases hturn <;> exact hnote _ _ rfl
  | closed hcall => exact ht.trans s.transport.alike_close
  | _ => exact ht

/-- Three deeds set the status, and all others leave it alone. -/
theorem Does.status_eq {d : Deed} (h : Does now s d s') :
    s'.engine.status = d.status s.engine.status := by
  cases h with
  | run hcall hstarted hturn =>
    cases hturn <;> first | exact congrArg Engine.status (note_engine _ _) | rfl
  | stop hcall hturn => cases hturn <;> rfl
  | task htask hturn => cases hturn <;> exact congrArg Engine.status (note_engine _ _)
  | registration hcall hready registryFirst hdeed =>
    rw [← hdeed, registrationDeed]
    split <;> rfl
  | _ => rfl

/-- **The status never goes back.** -/
theorem Does.rank_le {d : Deed} (h : Does now s d s') :
    s.engine.status.rank ≤ s'.engine.status.rank := by
  have hstatus := h.status_eq
  cases h with
  | runTaken hinit => rw [hinit]; exact Nat.zero_le _
  | stopTaken hrunning deadline =>
    rw [hrunning]
    exact Nat.le_succ 1
  | closeCalled =>
    show s.engine.status.rank ≤ 3
    cases s.engine.status <;> decide
  | run hcall hstarted hturn =>
    rw [hstatus]
    cases hturn <;> exact Nat.le_refl _
  | stop hcall hturn =>
    rw [hstatus]
    cases hturn <;> exact Nat.le_refl _
  | task htask hturn =>
    rw [hstatus]
    cases hturn <;> exact Nat.le_refl _
  | _ => exact Nat.le_refl _

end Session
end Gatehouse
