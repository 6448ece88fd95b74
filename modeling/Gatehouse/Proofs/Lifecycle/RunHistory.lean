/-
# What runs do

The deeds of a run are in step with its stage: from the stage of a run one can tell all that it has
done, in order.  A run that is taken runs its hooks one after the other, each to its end; behind the
last it looks at the status once, and only if the engine is running then it serves, once.  How it
finishes is reported at most once, and nothing comes after that.

* `RunTells`: the deeds of a run, for every stage that it can be at;
* `Session.Leads.runsTell`: **what a run has done is told by its stage**, in every execution.
-/
import Gatehouse.Proofs.Lifecycle.Executions
import Gatehouse.Proofs.Lifecycle.Histories

namespace Gatehouse

/-! ## 1. The deeds of one run -/

namespace Deed

def run? : Deed → Option Nat
  | runTaken i _ => some i
  | runRefused i => some i
  | hookStarted i _ => some i
  | hookEnded i _ => some i
  | looked i _ => some i
  | served i => some i
  | reported i _ => some i
  | _ => none

theorem run_quiet (i : Nat) : only run? i [quiet] = [] := rfl

/-- A run that is taken, with the first of its hooks run to their ends. -/
def upTo (i : Nat) (hooks done : List Hook) : List Deed :=
  .runTaken i hooks :: done.flatMap fun h => [.hookStarted i h, .hookEnded i h]

theorem mem_upTo_iff {i : Nat} {hooks done : List Hook} {d : Deed} :
    d ∈ upTo i hooks done ↔
      d = .runTaken i hooks ∨ ∃ h ∈ done, d = .hookStarted i h ∨ d = .hookEnded i h := by
  simp [upTo]

theorem upTo_concat (i : Nat) (hooks done : List Hook) (h : Hook) :
    upTo i hooks (done ++ [h]) = upTo i hooks done ++ [.hookStarted i h, .hookEnded i h] := by
  simp [upTo]

end Deed

/-! ## 2. What a stage tells -/

/-- Every hook of a list passes. -/
def Hook.AllPass (hooks : List Hook) : Prop := ∀ h ∈ hooks, h.ending = .passed

theorem Hook.AllPass.concat {done : List Hook} {h : Hook} (hdone : AllPass done)
    (hend : h.ending = .passed) : AllPass (done ++ [h]) := by
  intro h' hmem
  rcases List.mem_append.mp hmem with hmem | hmem
  · exact hdone h' hmem
  · rw [List.mem_singleton.mp hmem]
    exact hend

/-- The stages of a run behind a hook that did not pass. -/
inductive HookBreaks (h : Hook) : RunStage → Prop
  | failing {f : HookFault} (hend : h.ending = .failed f) :
      HookBreaks h (.hooks (.ended (.failed (.run h.name f.message))))
  | failed {f : HookFault} (hend : h.ending = .failed f) :
      HookBreaks h (.ended (.finished (.failed (.hook (.run h.name f.message)))))
  | panicking {p : Panic} (hend : h.ending = .panicked p) :
      HookBreaks h (.hooks (.ended (.panicked p)))
  | panicked {p : Panic} (hend : h.ending = .panicked p) : HookBreaks h (.ended (.panicked p))

open Deed in
/-- All that a run at some stage has done, reports left out. -/
inductive StageTells (i : Nat) : List Deed → RunStage → Prop
  | refused : StageTells i [.runRefused i] (.ended (.finished (.failed .alreadyRunning)))
  | ready {done left : List Hook} (hdone : Hook.AllPass done) :
      StageTells i (upTo i (done ++ left) done) (.hooks (.ready left))
  | waiting {done left : List Hook} {h : Hook} {due : Due} (hdone : Hook.AllPass done) :
      StageTells i (upTo i (done ++ h :: left) done ++ [.hookStarted i h])
        (.hooks (.waiting h due left))
  | broken {done left : List Hook} {h : Hook} {stage : RunStage} (hdone : Hook.AllPass done)
      (hbreaks : HookBreaks h stage) :
      StageTells i (upTo i (done ++ h :: left) (done ++ [h])) stage
  | passed {hooks : List Hook} (hpass : Hook.AllPass hooks) :
      StageTells i (upTo i hooks hooks) (.hooks (.ended .passed))
  | stopped {hooks : List Hook} {status : Status} (hpass : Hook.AllPass hooks)
      (hstatus : status ≠ .running) :
      StageTells i (upTo i hooks hooks ++ [.looked i status]) (.ended (.finished .well))
  | cleared {hooks : List Hook} (hpass : Hook.AllPass hooks) :
      StageTells i (upTo i hooks hooks ++ [.looked i .running]) .cleared
  | serving {hooks : List Hook} {v : Serving} (hpass : Hook.AllPass hooks) :
      StageTells i (upTo i hooks hooks ++ [.looked i .running, .served i]) (.serving v)
  | served {hooks : List Hook} {e : CallEnd} (hpass : Hook.AllPass hooks) :
      StageTells i (upTo i hooks hooks ++ [.looked i .running, .served i]) (.ended e)

/-- All that a run has done.  A report comes last. -/
inductive RunTells (i : Nat) : List Deed → RunCall → Prop
  | unreported {ds : List Deed} {c : RunCall} (hstage : StageTells i ds c.stage) : RunTells i ds c
  | reported {ds : List Deed} {f : Finish} (hstage : StageTells i ds (.ended (.finished f))) :
      RunTells i (ds ++ [.reported i f]) ⟨.ended (.finished f), true, false⟩

/-- A run that has not finished has reported nothing. -/
theorem RunTells.stageTells {i : Nat} {ds : List Deed} {c : RunCall} {stage : RunStage}
    (h : RunTells i ds c) (hstage : c.stage = stage) (hends : ∀ f, stage ≠ .ended (.finished f)) :
    StageTells i ds stage := by
  cases h with
  | unreported h => exact hstage ▸ h
  | reported h => exact absurd hstage.symm (hends _)

/-- A run that owes a report has reported nothing. -/
theorem RunTells.stageTells_of_owes {i : Nat} {ds : List Deed} {c : RunCall}
    (h : RunTells i ds c) (howes : c.owesReport = true) : StageTells i ds c.stage := by
  cases h with
  | unreported h => exact h
  | reported h => cases howes

/-- Starting a run adds nothing to what it has done. -/
theorem RunTells.start {i : Nat} {ds : List Deed} {c : RunCall} (h : RunTells i ds c)
    (hstarted : c.started = false) (reports : Bool) :
    RunTells i ds { c with started := true, owesReport := reports } := by
  cases h with
  | unreported hstage => exact .unreported hstage
  | reported hstage => cases hstarted

/-! ## 3. One turn of a run -/

namespace Session

open Deed

variable {now : Instant} {s s' : Session} {i : Nat} {c : RunCall} {d : Deed} {ds : List Deed}

theorem deed_callRun (s : Session) (now : Instant) :
    s.deed now .callRun = .runTaken s.runs.length s.engine.hooks.onRun ∨
      s.deed now .callRun = .runRefused s.runs.length := by
  simp only [Session.deed]
  split
  · exact Or.inl rfl
  · exact Or.inr rfl

theorem RunTurn.run?_eq (h : s.RunTurn now i c d s') : d.run? = none ∨ d.run? = some i := by
  cases h <;> first | exact Or.inl rfl | exact Or.inr rfl

/-- **A deed of a run** begins it, or is one of its turns. -/
theorem Does.runTurn (h : Does now s d s') (hd : d.run? = some i) :
    (∃ hooks, d = .runTaken i hooks) ∨ d = .runRefused i ∨
      ∃ c, s.runs[i]? = some c ∧ c.started = true ∧ s.RunTurn now i c d s' := by
  cases h with
  | runTaken hstatus =>
    cases hd
    exact Or.inl ⟨_, rfl⟩
  | runRefused hstatus =>
    cases hd
    exact Or.inr (Or.inl rfl)
  | run hcall hstarted hturn =>
    rcases hturn.run?_eq with hnobody | hown
    · rw [hnobody] at hd
      cases hd
    · cases hown.symm.trans hd
      exact Or.inr (Or.inr ⟨_, hcall, hstarted, hturn⟩)
  | stop hcall hturn => cases hturn <;> cases hd
  | task htask hturn => cases hturn <;> cases hd
  | registration hcall hready registryFirst hdeed =>
    rw [← hdeed, registrationDeed] at hd
    split at hd <;> cases hd
  | _ => cases hd

/-- A turn of a run changes that run alone.  The run stays started, and owes its report until it has
made it. -/
theorem RunTurn.owes (h : s.RunTurn now i c d s') :
    ∃ c', s'.runs = s.runs.set i c' ∧ c'.started = c.started ∧
      (c'.owesReport = c.owesReport ∨ ∃ f, d = .reported i f) := by
  cases h with
  | hookStarted hstage => exact ⟨_, note_runs _ _, rfl, Or.inl rfl⟩
  | hookEnded hstage hdue => exact ⟨_, note_runs _ _, rfl, Or.inl rfl⟩
  | reported hstage howes hreport => exact ⟨_, rfl, rfl, Or.inr ⟨_, rfl⟩⟩
  | _ => exact ⟨_, rfl, rfl, Or.inl rfl⟩

/-- **What a deed makes of a run**: nothing, unless it starts the run or is a turn of it. -/
theorem Does.run_cases (h : Does now s d s') (hcall : s.runs[i]? = some c) :
    s'.runs[i]? = some c ∨
      (c.started = false ∧ ∃ reports,
        s'.runs[i]? = some { c with started := true, owesReport := reports }) ∨
      (c.started = true ∧ s.RunTurn now i c d s') := by
  obtain ⟨hi, -⟩ := List.getElem?_eq_some_iff.mp hcall
  have hkept : s'.runs = s.runs → s'.runs[i]? = some c := fun hruns => by rw [hruns, hcall]
  have hadded : ∀ {c'}, s'.runs = s.runs ++ [c'] → s'.runs[i]? = some c := fun hruns => by
    rw [hruns, List.getElem?_append_left hi, hcall]
  have hother : ∀ {j c'}, j ≠ i → s'.runs = s.runs.set j c' → s'.runs[i]? = some c :=
    fun hj hruns => by rw [hruns, List.getElem?_set_ne hj, hcall]
  cases h with
  | runTaken hstatus => exact Or.inl (hadded rfl)
  | runRefused hstatus => exact Or.inl (hadded rfl)
  | @runStarted j c' hcall' hstarted reports =>
    rcases Decidable.em (j = i) with rfl | hj
    · cases hcall.symm.trans hcall'
      exact Or.inr (Or.inl ⟨hstarted, reports, List.getElem?_set_self hi⟩)
    · exact Or.inl (hother hj rfl)
  | @run j c' _ _ hcall' hstarted hturn =>
    rcases Decidable.em (j = i) with rfl | hj
    · cases hcall.symm.trans hcall'
      exact Or.inr (Or.inr ⟨hstarted, hturn⟩)
    · obtain ⟨c'', hruns, -⟩ := hturn.owes
      exact Or.inl (hother hj hruns)
  | stop hcall' hturn => cases hturn <;> exact Or.inl (hkept rfl)
  | task htask hturn => cases hturn <;> exact Or.inl (hkept (note_runs _ _))
  | _ => exact Or.inl (hkept rfl)

/-- **A turn of a run keeps its deeds in step with its stage.** -/
theorem RunTurn.runTells (h : s.RunTurn now i c d s') (hstarted : c.started = true)
    (hbefore : RunTells i ds c) :
    ∃ c', s'.runs = s.runs.set i c' ∧ RunTells i (ds ++ only run? i [d]) c' := by
  -- by the kind of turn: the stage in front of it says what has been done so far, and a run that a
  -- hook has broken off has nothing left but its end and its report
  cases h with
  | hooksDone hstage =>
    refine ⟨_, rfl, .unreported ?_⟩
    rw [run_quiet, List.append_nil]
    cases hbefore.stageTells hstage nofun with
    | ready hdone =>
      rw [List.append_nil]
      exact .passed hdone
    | broken hdone hbreaks => cases hbreaks
  | hookStarted hstage =>
    refine ⟨_, note_runs _ _, .unreported ?_⟩
    rw [only_self rfl]
    cases hbefore.stageTells hstage nofun with
    | ready hdone => exact .waiting hdone
    | broken hdone hbreaks => cases hbreaks
  | @hookEnded h due left hstage hdue =>
    refine ⟨_, note_runs _ _, .unreported ?_⟩
    rw [only_self rfl]
    cases hbefore.stageTells hstage nofun with
    | @waiting done _ _ _ hdone =>
      rw [List.append_assoc, List.singleton_append, ← upTo_concat]
      -- how the hook ends decides between the hooks that are left and the end of the run
      show StageTells i _ (.hooks (HookRun.after h left))
      unfold HookRun.after
      cases hend : h.ending with
      | passed =>
        have hready : StageTells i (upTo i (done ++ [h] ++ left) (done ++ [h])) _ :=
          .ready (hdone.concat hend)
        rwa [List.append_assoc, List.singleton_append] at hready
      | failed f => exact .broken hdone (.failing hend)
      | panicked p => exact .broken hdone (.panicking hend)
    | broken hdone hbreaks => cases hbreaks
  | looked hstage =>
    refine ⟨_, rfl, .unreported ?_⟩
    rw [only_self rfl]
    cases hbefore.stageTells hstage nofun with
    | passed hpass =>
      simp only [behindHooks]
      split
      · rename_i hstatus
        rw [hstatus]
        exact .cleared hpass
      · rename_i hstatus
        exact .stopped hpass hstatus
    | broken hdone hbreaks => cases hbreaks
  | failed hstage =>
    refine ⟨_, rfl, .unreported ?_⟩
    rw [run_quiet, List.append_nil]
    cases hbefore.stageTells hstage nofun with
    | broken hdone hbreaks =>
      cases hbreaks with
      | failing hend => exact .broken hdone (.failed hend)
  | panicked hstage =>
    refine ⟨_, rfl, .unreported ?_⟩
    rw [run_quiet, List.append_nil]
    cases hbefore.stageTells hstage nofun with
    | broken hdone hbreaks =>
      cases hbreaks with
      | panicking hend => exact .broken hdone (.panicked hend)
  | served hstage =>
    refine ⟨_, rfl, .unreported ?_⟩
    rw [only_self rfl]
    cases hbefore.stageTells hstage nofun with
    | cleared hpass =>
      rw [List.append_assoc, List.singleton_append]
      exact .serving hpass
    | broken hdone hbreaks => cases hbreaks
  | servingEnded hstage hend =>
    refine ⟨_, rfl, .unreported ?_⟩
    rw [run_quiet, List.append_nil]
    cases hbefore.stageTells hstage nofun with
    | serving hpass => exact .served hpass
    | broken hdone hbreaks => cases hbreaks
  | reported hstage howes hreport =>
    have htells := hbefore.stageTells_of_owes howes
    rw [hstage] at htells
    obtain ⟨stage, started, owes⟩ := c
    cases hstage
    cases hstarted
    refine ⟨_, rfl, ?_⟩
    rw [only_self rfl]
    exact .reported htells

/-! ## 4. All runs of an execution -/

/-- Every run tells what it has done. -/
abbrev RunsTell (ds : List Deed) (s : Session) : Prop := Histories run? RunTells ds s.runs

/-- **Every deed keeps all runs in step.** -/
theorem Does.runsTell (hdoes : Does now s d s') (h : RunsTell ds s) : RunsTell (ds ++ [d]) s' := by
  cases hdoes with
  | runTaken hstatus => exact h.concat rfl (.unreported (@StageTells.ready _ [] _ nofun))
  | runRefused hstatus => exact h.concat rfl (.unreported .refused)
  | runStarted hcall hstarted reports =>
    refine h.set hcall (Or.inl rfl) ?_
    rw [run_quiet, List.append_nil]
    exact (h.tells _ _ hcall).start hstarted reports
  | run hcall hstarted hturn =>
    obtain ⟨c', hruns, htells⟩ := hturn.runTells hstarted (h.tells _ _ hcall)
    rw [RunsTell, hruns]
    exact h.set hcall hturn.run?_eq htells
  | stop hcall hturn => cases hturn <;> exact h.keep rfl
  | task htask hturn => cases hturn <;> rw [RunsTell, note_runs] <;> exact h.keep rfl
  | registration hcall hready registryFirst hdeed =>
    refine h.keep ?_
    rw [← hdeed, registrationDeed]
    split <;> rfl
  | _ => exact h.keep rfl

/-- **What a run has done is told by its stage**, in every execution that starts without runs. -/
theorem Leads.runsTell {c c' : Clocked Session} (h : Leads c ds c') (hfresh : c.state.runs = []) :
    RunsTell ds c'.state :=
  h.invariant (I := RunsTell) (by rw [RunsTell, hfresh]; exact .nil)
    fun _ _ _ _ _ htell hdoes => hdoes.runsTell htell

end Session
end Gatehouse
