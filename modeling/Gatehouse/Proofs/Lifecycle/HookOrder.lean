/-
# Hooks of a run

A run that is taken starts its hooks one after the other, each behind the end of the one before, and
no hook behind one that has not passed.

* `StageTells.exists_started`: what a run has done about its hooks, at every stage;
* `StageTells.broken_of_ended`: how a run ends behind a hook that fails;
* `Session.Leads.hook_order`: **a hook starts when all before it have passed**;
* `Session.Leads.registrations_length`: a registration is what a hook has left behind.
-/
import Gatehouse.Proofs.Lifecycle.Cancelling
import Gatehouse.Proofs.Lifecycle.Reporting

namespace Gatehouse

/-! ## 1. What is done about hooks -/

namespace Deed

/-- A run starts one of its hooks, or sees it end. -/
def ofHook : Deed → Bool
  | hookStarted _ _ | hookEnded _ _ => true
  | _ => false

def hookDeeds (ds : List Deed) : List Deed := ds.filter ofHook

/-- Hooks that a run starts one after the other, each behind the end of the one before. -/
def rounds (i : Nat) (hooks : List Hook) : List Deed :=
  hooks.flatMap fun h => [.hookStarted i h, .hookEnded i h]

theorem rounds_append (i : Nat) (hooks hooks' : List Hook) :
    rounds i (hooks ++ hooks') = rounds i hooks ++ rounds i hooks' := List.flatMap_append

theorem rounds_concat (i : Nat) (hooks : List Hook) (h : Hook) :
    rounds i (hooks ++ [h]) = rounds i hooks ++ [.hookStarted i h, .hookEnded i h] :=
  rounds_append i hooks [h]

theorem rounds_mono (i : Nat) {hooks hooks' : List Hook} (h : hooks <+: hooks') :
    rounds i hooks <+: rounds i hooks' := by
  obtain ⟨rest, rfl⟩ := h
  rw [rounds_append]
  exact List.prefix_append _ _

theorem hookDeeds_append (ds ds' : List Deed) :
    hookDeeds (ds ++ ds') = hookDeeds ds ++ hookDeeds ds' := List.filter_append _ _

theorem hookDeeds_rounds (i : Nat) (hooks : List Hook) :
    hookDeeds (rounds i hooks) = rounds i hooks := by
  refine List.filter_eq_self.mpr fun d hd => ?_
  obtain ⟨h, -, hd⟩ := List.mem_flatMap.mp hd
  rcases List.mem_cons.mp hd with rfl | hd
  · rfl
  · rw [List.mem_singleton.mp hd]
    rfl

theorem hookDeeds_upTo (i : Nat) (hooks done : List Hook) :
    hookDeeds (upTo i hooks done) = rounds i done := hookDeeds_rounds i done

theorem run?_of_ofHook {d : Deed} (h : d.ofHook = true) : ∃ i, d.run? = some i := by
  cases d <;> first | exact ⟨_, rfl⟩ | cases h

/-- When one run alone has done something about hooks, that is all in its history. -/
theorem hookDeeds_only {i : Nat} {ds : List Deed}
    (hown : ∀ d ∈ ds, d.ofHook = true → d.run? = some i) :
    hookDeeds (only run? i ds) = hookDeeds ds := by
  rw [hookDeeds, hookDeeds, only, List.filter_filter]
  refine List.filter_congr fun d hd => ?_
  cases hhook : d.ofHook with
  | false => rfl
  | true => simp [hown d hd hhook]

/-- A hook that leaves a registration behind is started, by a run or by a task. -/
def announces : Deed → Bool
  | hookStarted _ h | taskStarted _ h => h.announces
  | _ => false

theorem countP_announces_rounds (i : Nat) (hooks : List Hook) :
    (rounds i hooks).countP announces = hooks.countP Hook.announces := by
  induction hooks with
  | nil => rfl
  | cons h hooks ih =>
    have hcons : rounds i (h :: hooks) = .hookStarted i h :: .hookEnded i h :: rounds i hooks := rfl
    rw [hcons, List.countP_cons, List.countP_cons, List.countP_cons, ih]
    rfl

end Deed

/-! ## 2. Where hooks stop -/

section

variable {done done' left left' : List Hook} {h h' : Hook}

/-- Hooks that pass come before the first that does not. -/
theorem Hook.AllPass.prefix_of_breaks (hdone' : AllPass done')
    (heq : done' ++ left' = done ++ h :: left) (hbreaks : h.ending ≠ .passed) :
    done' <+: done := by
  rcases List.append_eq_append_iff.mp heq with ⟨rest, rfl, -⟩ | ⟨rest, hrest, hleft⟩
  · exact List.prefix_append _ _
  · cases rest with
    | nil => exact ⟨[], by simp [hrest]⟩
    | cons first rest =>
      obtain rfl : h = first := (List.cons.inj hleft).1
      refine absurd (hdone' h ?_) hbreaks
      rw [hrest]
      exact List.mem_append_right _ List.mem_cons_self

/-- There is one first hook that does not pass. -/
theorem Hook.AllPass.eq_of_breaks (hdone : AllPass done) (hdone' : AllPass done')
    (heq : done' ++ h' :: left' = done ++ h :: left) (hbreaks : h.ending ≠ .passed)
    (hbreaks' : h'.ending ≠ .passed) : done' = done ∧ h' = h := by
  obtain rfl : done' = done :=
    (hdone'.prefix_of_breaks heq hbreaks).eq_of_length_le
      (hdone.prefix_of_breaks heq.symm hbreaks').length_le
  exact ⟨rfl, (List.cons.inj (List.append_cancel_left heq)).1⟩

end

/-- A stage behind a hook that did not pass. -/
theorem HookBreaks.not_passed {h : Hook} {stage : RunStage} (hbreaks : HookBreaks h stage) :
    h.ending ≠ .passed := by
  cases hbreaks with
  | failing hend | failed hend | panicking hend | panicked hend =>
    rw [hend]
    exact nofun

section

open Deed

variable {i : Nat} {ds : List Deed} {stage : RunStage} {done left : List Hook} {h : Hook}

/-- **What a run that is taken has done about its hooks**: it has started the first of them, and of
these all but the last have passed. -/
theorem StageTells.exists_started (htells : StageTells i ds stage) :
    .runRefused i ∈ ds ∨ ∃ hooks started, .runTaken i hooks ∈ ds ∧ started <+: hooks ∧
      Hook.AllPass started.dropLast ∧ hookDeeds ds <+: rounds i started := by
  have hpassed : ∀ {hooks : List Hook} (rest : List Deed), Hook.AllPass hooks →
      hookDeeds rest = [] → ∃ hooks' started, .runTaken i hooks' ∈ upTo i hooks hooks ++ rest ∧
        started <+: hooks' ∧ Hook.AllPass started.dropLast ∧
        hookDeeds (upTo i hooks hooks ++ rest) <+: rounds i started := by
    intro hooks rest hpass hrest
    exact ⟨hooks, hooks, List.mem_cons_self, List.prefix_rfl,
      fun h hmem => hpass h (List.dropLast_subset _ hmem),
      [], by simp [hookDeeds_append, hookDeeds_upTo, hrest]⟩
  cases htells with
  | refused => exact Or.inl List.mem_cons_self
  | @ready done left hdone =>
    exact Or.inr ⟨done ++ left, done, List.mem_cons_self, List.prefix_append _ _,
      fun h hmem => hdone h (List.dropLast_subset _ hmem), [], by simp [hookDeeds_upTo]⟩
  | @waiting done left h due hdone =>
    refine Or.inr ⟨done ++ h :: left, done ++ [h], List.mem_cons_self, ⟨left, by simp⟩, ?_, ?_⟩
    · rw [List.dropLast_concat]
      exact hdone
    · rw [hookDeeds_append, hookDeeds_upTo, rounds_concat]
      exact ⟨[.hookEnded i h], List.append_assoc _ _ _⟩
  | @broken done left h _ hdone hbreaks =>
    refine Or.inr ⟨done ++ h :: left, done ++ [h], List.mem_cons_self, ⟨left, by simp⟩, ?_, ?_⟩
    · rw [List.dropLast_concat]
      exact hdone
    · exact ⟨[], by simp [hookDeeds_upTo]⟩
  | @passed hooks hpass =>
    have hnone := hpassed [] hpass rfl
    rw [List.append_nil] at hnone
    exact Or.inr hnone
  | stopped hpass hstatus => exact Or.inr (hpassed _ hpass rfl)
  | cleared hpass => exact Or.inr (hpassed _ hpass rfl)
  | serving hpass => exact Or.inr (hpassed _ hpass rfl)
  | served hpass => exact Or.inr (hpassed _ hpass rfl)

/-- A run that is at its end with a hook that fails has run no hook behind it, and has failed with
the hook's fault. -/
theorem StageTells.broken_of_ended {e : CallEnd} {f : HookFault}
    (htells : StageTells i ds (.ended e)) (htaken : .runTaken i (done ++ h :: left) ∈ ds)
    (hdone : Hook.AllPass done) (hend : h.ending = .failed f) :
    hookDeeds ds = rounds i (done ++ [h]) ∧
      e = .finished (.failed (.hook (.run h.name f.message))) := by
  have hbreaks : h.ending ≠ .passed := by
    rw [hend]
    exact nofun
  have hnotall : ¬ Hook.AllPass (done ++ h :: left) := fun hall =>
    hbreaks (hall h (List.mem_append_right _ List.mem_cons_self))
  cases htells with
  | refused => cases List.mem_singleton.mp htaken
  | @broken done' left' h' _ hdone' hbreaks' =>
    have heq : done ++ h :: left = done' ++ h' :: left' := by simpa [mem_upTo_iff] using htaken
    obtain ⟨rfl, rfl⟩ := hdone.eq_of_breaks hdone' heq.symm hbreaks hbreaks'.not_passed
    refine ⟨hookDeeds_upTo _ _ _, ?_⟩
    cases hbreaks' with
    | failed hend' =>
      cases hend.symm.trans hend'
      rfl
    | panicked hend' => cases hend.symm.trans hend'
  | @stopped hooks _ hpass hstatus =>
    obtain rfl : done ++ h :: left = hooks := by simpa [mem_upTo_iff] using htaken
    exact absurd hpass hnotall
  | @served hooks _ hpass =>
    obtain rfl : done ++ h :: left = hooks := by simpa [mem_upTo_iff] using htaken
    exact absurd hpass hnotall

/-- What a run has done is told by its stage, up to its report. -/
theorem RunTells.exists_stageTells {c : RunCall} (htells : RunTells i ds c) :
    ∃ ds', StageTells i ds' c.stage ∧ hookDeeds ds' = hookDeeds ds ∧ ds' ⊆ ds ∧
      ∀ hooks, .runTaken i hooks ∈ ds → .runTaken i hooks ∈ ds' := by
  cases htells with
  | unreported hstage => exact ⟨ds, hstage, rfl, fun _ hd => hd, fun _ hd => hd⟩
  | @reported ds f hstage =>
    refine ⟨ds, hstage, ?_, List.subset_append_left _ _, fun hooks hmem => ?_⟩
    · rw [hookDeeds_append]
      exact (List.append_nil _).symm
    · simpa using hmem

theorem RunTells.taken_of_hook {c : RunCall} {d : Deed} (htells : RunTells i ds c) (hd : d ∈ ds)
    (hhook : d.ofHook = true) : ∃ hooks, .runTaken i hooks ∈ ds := by
  cases htells with
  | unreported hstage =>
    rcases hstage.taken with htaken | ⟨rfl, -⟩
    · exact htaken
    · rw [List.mem_singleton.mp hd] at hhook
      cases hhook
  | reported hstage =>
    rcases hstage.taken with ⟨hooks, hmem⟩ | ⟨rfl, -⟩
    · exact ⟨hooks, List.mem_append_left _ hmem⟩
    · rcases List.mem_cons.mp hd with rfl | hd
      · cases hhook
      · rw [List.mem_singleton.mp hd] at hhook
        cases hhook

/-- A task that is over has seen its run end. -/
theorem RunCall.stage_of_taskOver {c : RunCall} (hover : c.taskOver = true) :
    ∃ e, c.stage = .ended e := by
  unfold RunCall.taskOver at hover
  split at hover
  · exact ⟨_, ‹_›⟩
  · exact ⟨_, ‹_›⟩
  · cases hover

end

/-! ## 3. The hooks of an execution -/

namespace Session

open Deed

variable {now : Instant} {s s' : Session} {i : Nat} {c c' : Clocked Session} {d : Deed}
  {ds : List Deed}

/-- A run that starts a hook has it to start next. -/
theorem Does.ready_of_hookStarted {hook : Hook} (h : Does now s (.hookStarted i hook) s') :
    ∃ call left, s.runs[i]? = some call ∧ call.stage = .hooks (.ready (hook :: left)) := by
  rcases h.runTurn rfl with ⟨hooks, hd⟩ | hd | ⟨call, hcall, -, hturn⟩
  · cases hd
  · cases hd
  · cases hturn with
    | hookStarted hstage => exact ⟨call, _, hcall, hstage⟩

theorem Does.task_of_taskStarted {hook : Hook} (h : Does now s (.taskStarted i hook) s') :
    ∃ t ∈ s.hookTasks.tasks, t.hook = hook := by
  generalize hd : Deed.taskStarted i hook = d at h
  cases h with
  | run hcall hstarted hturn => cases hturn <;> cases hd
  | stop hcall hturn => cases hturn <;> cases hd
  | task htask hturn =>
    cases hturn with
    | started hstage =>
      cases hd
      exact ⟨_, List.mem_of_getElem? htask, rfl⟩
    | ended hstage hdue => cases hd
  | registration hcall hready registryFirst hdeed =>
    subst hd
    unfold registrationDeed at hdeed
    split at hdeed <;> cases hdeed
  | _ => cases hd

/-- **A hook that announces leaves one registration behind, and nothing else does.** -/
theorem Does.registrations_length (h : Does now s d s') :
    s'.registrations.length = s.registrations.length + d.announces.toNat := by
  have hnote : ∀ (s : Session) (hook : Hook), (s.note (.started hook)).registrations.length =
      s.registrations.length + hook.announces.toNat := by
    intro s hook
    simp only [note, record, Hook.announces]
    split <;> simp_all
  cases h with
  | run hcall hstarted hturn =>
    cases hturn with
    | hookStarted hstage => exact hnote _ _
    | _ => rfl
  | stop hcall hturn => cases hturn <;> rfl
  | task htask hturn =>
    cases hturn with
    | started hstage => exact hnote _ _
    | ended hstage hdue => rfl
  | registration hcall hready registryFirst hdeed =>
    have hquiet : d.announces = false := by
      rw [← hdeed, registrationDeed]
      split <;> rfl
    rw [hquiet, turned, List.length_set]
    rfl
  | _ => rfl

namespace Leads

/-- Every registration has been left behind by a hook. -/
theorem registrations_length (h : Leads c ds c') :
    c'.state.registrations.length = c.state.registrations.length + ds.countP announces := by
  refine h.invariant (I := fun ds s =>
    s.registrations.length = c.state.registrations.length + ds.countP announces) rfl ?_
  intro now s ds d s' hlength hdoes
  rw [hdoes.registrations_length, hlength, List.countP_append, List.countP_singleton]
  cases d.announces <;> simp [Nat.add_assoc]

section

variable (h : Leads c ds c') (hruns : c.state.runs = [])
include h hruns

/-- What is done about hooks is done by the one run that is taken. -/
theorem hookDeeds_eq {hooks : List Hook} (htaken : .runTaken i hooks ∈ ds) :
    hookDeeds (only run? i ds) = hookDeeds ds := by
  refine hookDeeds_only fun d hd hhook => ?_
  obtain ⟨j, hj⟩ := run?_of_ofHook hhook
  obtain ⟨call, -, htells, hown⟩ := (h.runsTell hruns).exists_entry hd hj
  obtain ⟨hooks', htaken'⟩ := htells.taken_of_hook hown hhook
  have heq := eq_of_countP_le_one h.run_once htaken rfl (mem_only_iff.mp htaken').1 rfl
  cases heq
  exact hj

/-- **A hook starts when all before it have passed**, each started behind the end of the one before,
and nothing else has been done about hooks by then. -/
theorem hook_order {before after : List Deed} {hook : Hook}
    (hds : ds = before ++ .hookStarted i hook :: after) :
    ∃ done left, .runTaken i (done ++ hook :: left) ∈ before ∧ Hook.AllPass done ∧
      hookDeeds before = rounds i done := by
  subst hds
  obtain ⟨c₁, s, hbefore, hdoes, -⟩ := h.split
  obtain ⟨call, left, hcall, hstage⟩ := hdoes.ready_of_hookStarted
  have htells := ((hbefore.runsTell hruns).tells i call hcall).stageTells hstage nofun
  generalize hown : only run? i before = history at htells
  cases htells with
  | @ready done _ hdone =>
    have htaken : .runTaken i (done ++ hook :: left) ∈ only run? i before := by
      rw [hown]
      exact List.mem_cons_self
    have hmem := (mem_only_iff.mp htaken).1
    refine ⟨done, left, hmem, hdone, ?_⟩
    rw [← hbefore.hookDeeds_eq hruns hmem, hown, hookDeeds_upTo]
  | broken hdone hbreaks => cases hbreaks

/-- The hooks that have been started are the first of those that the run has been taken with, and
all but the last have passed. -/
theorem exists_started {hooks : List Hook} (htaken : .runTaken i hooks ∈ ds) :
    ∃ started, started <+: hooks ∧ Hook.AllPass started.dropLast ∧
      hookDeeds ds <+: rounds i started := by
  obtain ⟨call, -, htells, hown⟩ := (h.runsTell hruns).exists_entry htaken rfl
  obtain ⟨ds', hstage, heq, hsub, htaken'⟩ := htells.exists_stageTells
  rw [← h.hookDeeds_eq hruns htaken, ← heq]
  rcases hstage.exists_started with hrefused | ⟨hooks', started, hmem, hstarted⟩
  · exact absurd hown (htells.not_taken (hsub hrefused) hooks)
  · have hsame := eq_of_countP_le_one h.run_once htaken rfl (mem_only_iff.mp (hsub hmem)).1 rfl
    cases hsame
    exact ⟨started, hstarted⟩

end

end Leads
end Session
end Gatehouse
