/-
# On-shutdown hooks

Every on-shutdown hook gets a task of its own, so that none waits for another.  What fails is
collected in the order in which the tasks end, a panic under a name that stands for any hook.
-/
import Gatehouse.Lifecycle.Hook

namespace Gatehouse

/-- How far the task of one hook has come. -/
inductive TaskStage
  | spawned
  | waiting (due : Due)
  | ended
deriving DecidableEq, Repr

/-- The task of one hook. -/
structure HookTask where
  hook : Hook
  stage : TaskStage
deriving DecidableEq, Repr

/-- The tasks of all hooks, in the order of registration, and the failures collected so far. -/
structure HookTasks where
  tasks : List HookTask
  failures : List (String × HookFault)
deriving DecidableEq, Repr

namespace HookTasks

/-- The name under which panics are collected. -/
def panickedName : String := "<panicked>"

/-- What is said underneath a hook that panicked.  The number of the task, which the runtime says as
well, is left out: it is not the same from one start of the program to the next. -/
def panicText : Panic → String
  | .text s => "task panicked with message " ++ Text.quote s
  | .other => "task panicked"

/-- What is collected of the end of a hook. -/
def failure? (h : Hook) : Option (String × HookFault) :=
  match h.ending with
  | .passed => none
  | .failed f => some (h.name, f)
  | .panicked p => some (panickedName, .failed "hook panicked" (some (panicText p)))

def spawn (hooks : List Hook) : HookTasks := ⟨hooks.map (⟨·, .spawned⟩), []⟩

def idle : HookTasks := ⟨[], []⟩

def stepAt? (now : Instant) (i : Nat) (ts : HookTasks) : Option (HookTasks × HookNote) :=
  match ts.tasks[i]? with
  | none => none
  | some t =>
    match t.stage with
    | .spawned =>
      let stage := TaskStage.waiting (t.hook.latency.due now)
      some ({ ts with tasks := ts.tasks.set i { t with stage } }, .started t.hook)
    | .waiting due =>
      if due.reached now then
        some (⟨ts.tasks.set i { t with stage := .ended },
          ts.failures ++ (failure? t.hook).toList⟩, .ended t.hook)
      else none
    | .ended => none

/-- The first task that can goes on. -/
def step? (now : Instant) (ts : HookTasks) : Option (HookTasks × HookNote) :=
  (List.range ts.tasks.length).findSome? fun i => ts.stepAt? now i

def allEnded (ts : HookTasks) : Bool := ts.tasks.all fun t => t.stage = .ended

def dues (ts : HookTasks) : List Instant :=
  ts.tasks.filterMap fun t =>
    match t.stage with
    | .waiting due => due
    | _ => none

def work (ts : HookTasks) : Nat := 2 * ts.tasks.length

/-- Tasks by themselves, with the notes taken so far. -/
structure Solo where
  tasks : HookTasks
  notes : List HookNote

def solo : Machine Solo where
  front? _ _ := none
  back? now s := (s.tasks.step? now).map fun p => ⟨p.1, s.notes ++ [p.2]⟩
  dues s := s.tasks.dues
  work s := s.tasks.work

end HookTasks
end Gatehouse
