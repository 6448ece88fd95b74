/-
# What on-shutdown hooks leave behind

The tasks of on-shutdown hooks take their turns in any order and end in any order.  What fails is
collected as the tasks end, so that the order in which it is collected is theirs; what is collected
is not.

* `HookTasks.Runs.tells`: **the stages of the tasks tell all that has been seen of them**, and the
  order of their ends tells what has been collected;
* `HookTasks.Tells.exists_completion`: tasks can end in any order;
* `HookTasks.run_allEnded`: **left to themselves, tasks end** if their hooks do;
* `HookTasks.collects_failures`: **each hook is started once and leaves behind what it fails with**,
  whatever order the tasks end in.
-/
import Gatehouse.Proofs.Lifecycle.Cancelling
import Mathlib.Data.List.Nodup

namespace Gatehouse

/-! ## 1. What is collected -/

namespace HookTasks

/-- What hooks fail with, each under its own name. -/
def failed (hooks : List Hook) : List (String × HookFault) :=
  hooks.filterMap fun h =>
    match h.ending with
    | .failed f => some (h.name, f)
    | _ => none

/-- What is said of hooks that panic. -/
def panicked (hooks : List Hook) : List (String × HookFault) :=
  hooks.filterMap fun h =>
    match h.ending with
    | .panicked p => some ("<panicked>", .failed "hook panicked" (some (panicText p)))
    | _ => none

/-- What there is to collect is a failure under the name of its hook, or a panic. -/
theorem filterMap_failure?_perm (hooks : List Hook) :
    (hooks.filterMap failure?).Perm (failed hooks ++ panicked hooks) := by
  induction hooks with
  | nil => exact .refl _
  | cons h hooks ih =>
    cases hend : h.ending with
    | passed => simpa [failure?, failed, panicked, hend] using ih
    | failed f => simpa [failure?, failed, panicked, hend] using ih
    | panicked p =>
      have hfailed : failed (h :: hooks) = failed hooks := by simp [failed, hend]
      have hpanicked : panicked (h :: hooks) =
          ("<panicked>", .failed "hook panicked" (some (panicText p))) :: panicked hooks := by
        simp [panicked, hend]
      have hleft : failure? h =
          some ("<panicked>", .failed "hook panicked" (some (panicText p))) := by
        simp [failure?, hend, panickedName]
      rw [hfailed, hpanicked, List.filterMap_cons_some hleft]
      exact (ih.cons _).trans List.perm_middle.symm

theorem failure?_eq_none_iff (h : Hook) : failure? h = none ↔ h.ending = .passed := by
  cases hend : h.ending <;> simp [failure?, hend]

/-- What there is to collect, hook by hook, taken by number. -/
theorem filterMap_range_failure? (hooks : List Hook) :
    ((List.range hooks.length).filterMap fun j => hooks[j]?.bind failure?) =
      hooks.filterMap failure? := by
  induction hooks with
  | nil => rfl
  | cons h hooks ih =>
    rw [List.length_cons, List.range_succ_eq_map, List.filterMap_cons, List.filterMap_map,
      List.filterMap_cons, ← ih]
    rfl

end HookTasks

/-! ## 2. Runs of the tasks -/

/-- What has been seen of a task at its stage. -/
def HookTask.notes (t : HookTask) : List HookNote :=
  match t.stage with
  | .spawned => []
  | .waiting _ => [.started t.hook]
  | .ended => [.started t.hook, .ended t.hook]

namespace HookTasks

/-- What has been seen of one task, among all that has been seen. -/
def own (j : Nat) (ns : List (Nat × HookNote)) : List HookNote :=
  (ns.filter (·.1 = j)).map Prod.snd

/-- The tasks that have ended, in the order in which they did. -/
def ends (ns : List (Nat × HookNote)) : List Nat :=
  ns.filterMap fun n =>
    match n.2 with
    | .started _ => none
    | .ended _ => some n.1

/-- What tasks do, one turn after the other, with each note under the number of its task; the clock
goes on as it likes in between. -/
inductive Runs (c : Clocked HookTasks) : List (Nat × HookNote) → Clocked HookTasks → Prop
  | here : Runs c [] c
  | turn {ns : List (Nat × HookNote)} {c₁ : Clocked HookTasks} {i : Nat} {ts : HookTasks}
      {n : HookNote} (before : Runs c ns c₁) (hstep : c₁.state.stepAt? c₁.now i = some (ts, n)) :
      Runs c (ns ++ [(i, n)]) ⟨c₁.now, ts⟩
  | wait {ns : List (Nat × HookNote)} {c₁ : Clocked HookTasks} {t : Instant}
      (before : Runs c ns c₁) (hlater : c₁.now ≤ t) : Runs c ns ⟨t, c₁.state⟩

variable {now : Instant} {ts ts' : HookTasks} {i j : Nat} {t : HookTask} {n : HookNote}
  {ns ns' : List (Nat × HookNote)} {hooks : List Hook} {c c' : Clocked HookTasks}

theorem own_append : own j (ns ++ ns') = own j ns ++ own j ns' := by
  simp [own]

theorem own_self : own i [(i, n)] = [n] := by
  simp [own]

theorem own_other (hij : i ≠ j) : own j [(i, n)] = [] := by
  simp [own, hij]

theorem ends_append : ends (ns ++ ns') = ends ns ++ ends ns' := List.filterMap_append

theorem count_ends (j : Nat) (ns : List (Nat × HookNote)) :
    (ends ns).count j = (own j ns).countP fun n =>
      match n with
      | .started _ => false
      | .ended _ => true := by
  induction ns with
  | nil => rfl
  | cons p ns ih =>
    obtain ⟨i, n⟩ := p
    have hsplit : ends ((i, n) :: ns) = ends [(i, n)] ++ ends ns := @ends_append [(i, n)] ns
    have hown : own j ((i, n) :: ns) = own j [(i, n)] ++ own j ns := @own_append j [(i, n)] ns
    rw [hsplit, hown, List.count_append, List.countP_append, ih]
    congr 1
    by_cases hij : i = j
    · subst hij
      rw [own_self]
      cases n <;> simp [ends]
    · rw [own_other hij]
      cases n <;> simp [ends, hij]

theorem Runs.trans {c₂ : Clocked HookTasks} (h : Runs c ns c') (h' : Runs c' ns' c₂) :
    Runs c (ns ++ ns') c₂ := by
  induction h' with
  | here =>
    rw [List.append_nil]
    exact h
  | turn before hstep ih =>
    rw [← List.append_assoc]
    exact .turn ih hstep
  | wait before hlater ih => exact .wait ih hlater

/-! ## 3. What the stages tell -/

/-- The tasks are those of the hooks, and tell what has been seen of them; and what has been
collected is what the tasks that have ended have left behind, in the order of their ends. -/
structure Tells (hooks : List Hook) (ns : List (Nat × HookNote)) (ts : HookTasks) : Prop where
  hooks_eq : ts.tasks.map HookTask.hook = hooks
  notes_eq : ∀ j t, ts.tasks[j]? = some t → own j ns = t.notes
  silent : ∀ j, ts.tasks.length ≤ j → own j ns = []
  failures_eq : ts.failures = (ends ns).filterMap fun j => hooks[j]?.bind failure?
  /-- A task that waits does so since it has started its hook. -/
  waits : ∀ t ∈ ts.tasks, ∀ due, t.stage = .waiting due → ∃ since, due = t.hook.latency.due since

theorem tells_spawn (hooks : List Hook) : Tells hooks [] (spawn hooks) where
  hooks_eq := map_hook_spawn hooks
  notes_eq := by
    intro j t ht
    rw [spawned_of_mem_spawn (List.mem_of_getElem? ht)]
    rfl
  silent _ _ := rfl
  failures_eq := rfl
  waits := by
    intro t ht due hstage
    rw [spawned_of_mem_spawn ht] at hstage
    cases hstage

theorem Tells.getElem? (h : Tells hooks ns ts) (j : Nat) :
    hooks[j]? = ts.tasks[j]?.map HookTask.hook := by
  rw [← h.hooks_eq, List.getElem?_map]

/-- A task that goes on keeps its hook, and is seen to. -/
theorem Tells.set (h : Tells hooks ns ts) (htask : ts.tasks[i]? = some t) (t' : HookTask)
    (hhook : t'.hook = t.hook) (hnotes : t'.notes = t.notes ++ [n])
    (hwaits : ∀ due, t'.stage = .waiting due → ∃ since, due = t'.hook.latency.due since)
    {failures : List (String × HookFault)}
    (hfailures : failures = (ends (ns ++ [(i, n)])).filterMap fun j => hooks[j]?.bind failure?) :
    Tells hooks (ns ++ [(i, n)]) ⟨ts.tasks.set i t', failures⟩ := by
  have hi : i < ts.tasks.length := (List.getElem?_eq_some_iff.mp htask).1
  refine ⟨(map_hook_set htask hhook).trans h.hooks_eq, fun j u hu => ?_, fun j hj => ?_, hfailures,
    fun u hu => ?_⟩
  · rw [own_append]
    by_cases hij : i = j
    · subst hij
      rw [List.getElem?_set_self hi] at hu
      obtain rfl := Option.some.inj hu
      rw [own_self, h.notes_eq i t htask, hnotes]
    · rw [List.getElem?_set_ne hij] at hu
      rw [own_other hij, List.append_nil]
      exact h.notes_eq j u hu
  · rw [List.length_set] at hj
    rw [own_append, own_other (Nat.ne_of_lt (Nat.lt_of_lt_of_le hi hj)), List.append_nil]
    exact h.silent j hj
  · rcases List.mem_or_eq_of_mem_set hu with hold | rfl
    · exact h.waits u hold
    · exact hwaits

/-- **Every turn keeps the tasks in step** with what is seen of them. -/
theorem Tells.goes (h : Tells hooks ns ts) (hgoes : Goes now ts i n ts') :
    Tells hooks (ns ++ [(i, n)]) ts' := by
  cases hgoes with
  | @started t htask hstage =>
    refine h.set htask ⟨t.hook, .waiting (t.hook.latency.due now)⟩ rfl ?_ ?_ ?_
    · simp [HookTask.notes, hstage]
    · intro due hdue
      exact ⟨now, (TaskStage.waiting.inj hdue).symm⟩
    · rw [h.failures_eq, ends_append]
      exact congrArg _ (List.append_nil _).symm
  | @ended t due htask hstage hdue =>
    refine h.set htask ⟨t.hook, .ended⟩ rfl ?_ (fun _ => nofun) ?_
    · simp [HookTask.notes, hstage]
    · have hhook : hooks[i]? = some t.hook := by
        rw [h.getElem?, htask]
        rfl
      rw [h.failures_eq, ends_append, List.filterMap_append]
      cases hfailure : failure? t.hook <;> simp [ends, hhook, hfailure]

/-- **The stages of the tasks tell all that has been seen of them**, in every run. -/
theorem Runs.tells (h : Runs c ns' c') (hstart : Tells hooks ns c.state) :
    Tells hooks (ns ++ ns') c'.state := by
  induction h with
  | here =>
    rw [List.append_nil]
    exact hstart
  | turn before hstep ih =>
    rw [← List.append_assoc]
    exact ih.goes (stepAt?_eq_some_iff.mp hstep)
  | wait before hlater ih => exact ih

theorem Tells.mem_ends_iff (h : Tells hooks ns ts) (j : Nat) :
    j ∈ ends ns ↔ ∃ t, ts.tasks[j]? = some t ∧ t.stage = .ended := by
  rw [← List.count_pos_iff, count_ends]
  cases htask : ts.tasks[j]? with
  | none =>
    rw [h.silent j (List.getElem?_eq_none_iff.mp htask)]
    simp
  | some t =>
    rw [h.notes_eq j t htask]
    cases hstage : t.stage <;> simp [HookTask.notes, hstage]

theorem Tells.nodup_ends (h : Tells hooks ns ts) : (ends ns).Nodup := by
  refine List.nodup_iff_count_le_one.mpr fun j => ?_
  rw [count_ends]
  cases htask : ts.tasks[j]? with
  | none =>
    rw [h.silent j (List.getElem?_eq_none_iff.mp htask)]
    exact Nat.zero_le 1
  | some t =>
    rw [h.notes_eq j t htask]
    cases hstage : t.stage <;> simp [HookTask.notes, hstage]

/-- When all tasks have ended, each has ended once. -/
theorem Tells.allEnded_iff (h : Tells hooks ns ts) :
    ts.allEnded = true ↔ (ends ns).Perm (List.range hooks.length) := by
  have hlength : hooks.length = ts.tasks.length := by rw [← h.hooks_eq, List.length_map]
  rw [List.perm_ext_iff_of_nodup h.nodup_ends List.nodup_range, allEnded, List.all_eq_true]
  constructor
  · intro hall j
    rw [h.mem_ends_iff, List.mem_range, hlength]
    constructor
    · rintro ⟨t, ht, -⟩
      exact (List.getElem?_eq_some_iff.mp ht).1
    · intro hj
      have hended := hall ts.tasks[j] (List.getElem_mem hj)
      exact ⟨_, List.getElem?_eq_getElem hj, of_decide_eq_true hended⟩
  · intro hall t ht
    obtain ⟨j, hj, rfl⟩ := List.getElem_of_mem ht
    obtain ⟨u, hu, hended⟩ :=
      (h.mem_ends_iff j).mp ((hall j).mpr (List.mem_range.mpr (hlength ▸ hj)))
    rw [List.getElem?_eq_getElem hj] at hu
    rw [Option.some.inj hu]
    exact decide_eq_true hended

/-! ## 4. Every order of ends -/

/-- A task whose hook will have waited can end. -/
theorem exists_end_of_waiting {u : Instant} (htask : ts.tasks[j]? = some t)
    (hstage : t.stage = .waiting (some u)) (now : Instant) :
    ∃ c', Runs ⟨now, ts⟩ [(j, .ended t.hook)] c' := by
  have hreached : Due.reached (some u) (max now u) = true :=
    decide_eq_true (Nat.le_max_right now u)
  have hwaited : Runs ⟨now, ts⟩ [] ⟨max now u, ts⟩ := Runs.here.wait (Nat.le_max_left now u)
  exact ⟨_, hwaited.turn (stepAt?_eq_some_iff.mpr (.ended htask hstage hreached))⟩

theorem Tells.exists_end (h : Tells hooks ns ts) (htask : ts.tasks[j]? = some t)
    (hgoing : t.stage ≠ .ended) (hends : t.hook.latency ≠ none) (now : Instant) :
    ∃ ns' c', Runs ⟨now, ts⟩ ns' c' ∧ ends ns' = [j] := by
  obtain ⟨latency, hlatency⟩ := Option.ne_none_iff_exists'.mp hends
  have hdue : ∀ since, t.hook.latency.due since = some (Instant.timer since latency) := by
    intro since
    rw [hlatency]
    rfl
  cases hstage : t.stage with
  | spawned =>
    have hstarted := (Runs.here (c := ⟨now, ts⟩)).turn
      (stepAt?_eq_some_iff.mpr (.started htask hstage))
    -- the task as it stands behind its first turn
    generalize hnext : (⟨ts.tasks.set j ⟨t.hook, .waiting (t.hook.latency.due now)⟩,
      ts.failures⟩ : HookTasks) = next at hstarted
    have hput : next.tasks[j]? = some ⟨t.hook, .waiting (some (Instant.timer now latency))⟩ := by
      rw [← hnext, ← hdue now]
      exact List.getElem?_set_self (List.getElem?_eq_some_iff.mp htask).1
    obtain ⟨c', hended⟩ := exists_end_of_waiting hput rfl now
    exact ⟨_, c', hstarted.trans hended, rfl⟩
  | waiting due =>
    obtain ⟨since, rfl⟩ := h.waits t (List.mem_of_getElem? htask) due hstage
    rw [hdue] at hstage
    obtain ⟨c', hended⟩ := exists_end_of_waiting htask hstage now
    exact ⟨_, c', hended, rfl⟩
  | ended => exact absurd hstage hgoing

/-- **Tasks can end in any order**: whatever has happened so far, those that are left can end in
whatever order they are put. -/
theorem Tells.exists_completion (h : Tells hooks ns ts) (hends : ∀ h ∈ hooks, h.latency ≠ none)
    {order : List Nat} (horder : (ends ns ++ order).Perm (List.range hooks.length))
    (now : Instant) :
    ∃ ns' c', Runs ⟨now, ts⟩ ns' c' ∧ ends ns' = order ∧ c'.state.allEnded = true := by
  induction order generalizing ns ts now with
  | nil =>
    rw [List.append_nil] at horder
    exact ⟨[], _, .here, rfl, h.allEnded_iff.mpr horder⟩
  | cons j order ih =>
    have hnodup := horder.nodup_iff.mpr List.nodup_range
    have hj : j < hooks.length :=
      List.mem_range.mp (horder.subset (List.mem_append_right _ List.mem_cons_self))
    have hnot : j ∉ ends ns := fun hmem =>
      (List.nodup_append.mp hnodup).2.2 j hmem j List.mem_cons_self rfl
    obtain ⟨t, htask, hhook⟩ : ∃ t, ts.tasks[j]? = some t ∧ t.hook = hooks[j] :=
      Option.map_eq_some_iff.mp ((h.getElem? j).symm.trans (List.getElem?_eq_getElem hj))
    have hgoing : t.stage ≠ .ended := fun hended => hnot ((h.mem_ends_iff j).mpr ⟨t, htask, hended⟩)
    have hlatency : t.hook.latency ≠ none := hhook ▸ hends _ (List.getElem_mem hj)
    obtain ⟨ns₁, ⟨now₁, ts₁⟩, hfirst, hone⟩ := h.exists_end htask hgoing hlatency now
    have hrest : (ends (ns ++ ns₁) ++ order).Perm (List.range hooks.length) := by
      rw [ends_append, hone, List.append_assoc]
      exact horder
    obtain ⟨ns₂, c', hlast, heq, hall⟩ := ih (hfirst.tells h) hrest now₁
    refine ⟨ns₁ ++ ns₂, c', hfirst.trans hlast, ?_, hall⟩
    rw [ends_append, hone, heq]
    rfl

/-! ## 5. Tasks left to themselves -/

/-- The turns that a task has left. -/
def turnsLeft (t : HookTask) : Nat :=
  match t.stage with
  | .spawned => 2
  | .waiting _ => 1
  | .ended => 0

def left (ts : HookTasks) : Nat := Session.total (ts.tasks.map turnsLeft)

theorem left_le_work (ts : HookTasks) : ts.left ≤ ts.work := by
  unfold left work
  induction ts.tasks with
  | nil => exact Nat.le_refl 0
  | cons t tasks ih =>
    have hone : turnsLeft t ≤ 2 := by
      unfold turnsLeft
      split <;> omega
    rw [List.map_cons, Session.total_cons, List.length_cons]
    omega

/-- Every turn is one less to come. -/
theorem Goes.left_eq (h : Goes now ts i n ts') : ts'.left + 1 = ts.left := by
  cases h with
  | @started t htask hstage =>
    have hset := Session.total_map_set (f := turnsLeft) htask
      ⟨t.hook, .waiting (t.hook.latency.due now)⟩
    simp only [turnsLeft, hstage] at hset
    exact Nat.add_right_cancel (m := 1) hset
  | @ended t due htask hstage hdue =>
    have hset := Session.total_map_set (f := turnsLeft) htask ⟨t.hook, .ended⟩
    simp only [turnsLeft, hstage] at hset
    exact hset

theorem goes_of_step? (h : ts.step? now = some (ts', n)) : ∃ i, Goes now ts i n ts' := by
  obtain ⟨i, -, hstep⟩ := List.exists_of_findSome?_eq_some h
  exact ⟨i, stepAt?_eq_some_iff.mp hstep⟩

theorem Goes.step?_ne_none (h : Goes now ts i n ts') : ts.step? now ≠ none := by
  have hi : i < ts.tasks.length := by
    cases h with
    | started htask hstage => exact (List.getElem?_eq_some_iff.mp htask).1
    | ended htask hstage hdue => exact (List.getElem?_eq_some_iff.mp htask).1
  intro hnone
  have hstuck := List.findSome?_eq_none_iff.mp hnone i (List.mem_range.mpr hi)
  rw [stepAt?_eq_some_iff.mpr h] at hstuck
  cases hstuck

/-- A task that waits for a moment can go on when it has come. -/
theorem step?_ne_none_of_due {u : Instant} (hu : u ∈ ts.dues) (hlater : u ≤ now) :
    ts.step? now ≠ none := by
  obtain ⟨t, ht, hdue⟩ := List.mem_filterMap.mp hu
  obtain ⟨j, hj, rfl⟩ := List.getElem_of_mem ht
  have htask : ts.tasks[j]? = some ts.tasks[j] := List.getElem?_eq_getElem hj
  cases hstage : ts.tasks[j].stage with
  | waiting due =>
    rw [hstage] at hdue
    obtain rfl : due = some u := hdue
    exact (Goes.ended htask hstage (decide_eq_true hlater)).step?_ne_none
  | _ =>
    rw [hstage] at hdue
    cases hdue

/-- When no task can go on and one has not ended, there is a moment to wait for. -/
theorem Tells.exists_due (h : Tells hooks ns ts) (hends : ∀ h ∈ hooks, h.latency ≠ none)
    (hgoing : ts.allEnded = false) (hstuck : ts.step? now = none) : ∃ u ∈ ts.dues, now < u := by
  obtain ⟨t, ht, hstage⟩ := List.all_eq_false.mp hgoing
  obtain ⟨j, hj, rfl⟩ := List.getElem_of_mem ht
  have htask : ts.tasks[j]? = some ts.tasks[j] := List.getElem?_eq_getElem hj
  have hhook : ts.tasks[j].hook ∈ hooks := by
    rw [← h.hooks_eq]
    exact List.mem_map_of_mem ht
  cases hnow : ts.tasks[j].stage with
  | spawned => exact absurd hstuck (Goes.started htask hnow).step?_ne_none
  | waiting due =>
    obtain ⟨since, rfl⟩ := h.waits _ ht due hnow
    obtain ⟨latency, hlatency⟩ := Option.ne_none_iff_exists'.mp (hends _ hhook)
    have hdue : ts.tasks[j].hook.latency.due since = some (Instant.timer since latency) := by
      rw [hlatency]
      rfl
    have hmem : Instant.timer since latency ∈ ts.dues :=
      List.mem_filterMap.mpr ⟨_, ht, by rw [hnow]; exact hdue⟩
    refine ⟨_, hmem, Nat.lt_of_not_le fun hle => ?_⟩
    exact step?_ne_none_of_due hmem hle hstuck
  | ended => exact absurd (decide_eq_true hnow) hstage

/-- Tasks by themselves have come here by a run, and what was seen of it has been noted. -/
def Noted (start : Clocked HookTasks) (c : Clocked Solo) : Prop :=
  ∃ ns, Runs start ns ⟨c.now, c.state.tasks⟩ ∧ c.state.notes = ns.map Prod.snd

/-- **What tasks do by themselves is one of their runs.** -/
theorem noted_run (found : Solo → Bool) (limit : Due) (now : Instant) (ts : HookTasks) :
    Noted ⟨now, ts⟩ (solo.run found limit ⟨now, ⟨ts, []⟩⟩) := by
  have hstart : Noted ⟨now, ts⟩ ⟨now, ⟨ts, []⟩⟩ := ⟨[], .here, rfl⟩
  refine Machine.run_keeps ?_ ?_ ?_ found limit hstart
  · intro now s s' _ hnext
    cases hnext
  · rintro now s s' ⟨ns, hruns, hnotes⟩ hnext
    obtain ⟨⟨ts', n⟩, hstep, rfl⟩ := Option.map_eq_some_iff.mp hnext
    obtain ⟨i, hgoes⟩ := goes_of_step? hstep
    refine ⟨ns ++ [(i, n)], hruns.turn (stepAt?_eq_some_iff.mpr hgoes), ?_⟩
    show s.notes ++ [n] = (ns ++ [(i, n)]).map Prod.snd
    rw [List.map_append, ← hnotes]
    rfl
  · rintro now t s ⟨ns, hruns, hnotes⟩ hlater
    exact ⟨ns, hruns.wait hlater, hnotes⟩

/-- Tasks that go on without the clock stay in step, and have no more turns left than before. -/
theorem Tells.settleFor {s : Solo} (h : Tells hooks ns s.tasks) (now : Instant) (fuel : Nat) :
    ∃ ns', Tells hooks ns' (solo.settleFor now fuel s).tasks ∧
      (solo.settleFor now fuel s).tasks.left ≤ s.tasks.left := by
  induction fuel generalizing s ns with
  | zero => exact ⟨ns, h, Nat.le_refl _⟩
  | succ fuel ih =>
    unfold Machine.settleFor
    split
    · rename_i s' hnext
      obtain ⟨⟨ts', n⟩, hstep, rfl⟩ := Option.map_eq_some_iff.mp hnext
      obtain ⟨i, hgoes⟩ := goes_of_step? hstep
      obtain ⟨ns', htells, hless⟩ := ih (s := ⟨ts', s.notes ++ [n]⟩) (h.goes hgoes)
      exact ⟨ns', htells, Nat.le_trans hless (Nat.le_of_lt (Nat.lt_of_succ_le
        (Nat.le_of_eq hgoes.left_eq)))⟩
    · exact ⟨ns, h, Nat.le_refl _⟩

/-- A run goes on until all tasks have ended.  Every two rounds of it bring a turn, and every round
in which a task can go on does. -/
theorem runFor_allEnded (hends : ∀ h ∈ hooks, h.latency ≠ none) (fuel : Nat) {c : Clocked Solo}
    (h : Tells hooks ns c.state.tasks)
    (hfuel : 2 * c.state.tasks.left < fuel ∨
      2 * c.state.tasks.left ≤ fuel ∧ c.state.tasks.step? c.now ≠ none) :
    (solo.runFor (fun s => s.tasks.allEnded) none fuel c).state.tasks.allEnded = true := by
  induction fuel generalizing c ns with
  | zero =>
    rcases hfuel with hfuel | ⟨hfuel, hcan⟩
    · omega
    · obtain ⟨⟨ts', n⟩, hstep⟩ := Option.ne_none_iff_exists'.mp hcan
      obtain ⟨i, hgoes⟩ := goes_of_step? hstep
      have hleft := hgoes.left_eq
      omega
  | succ fuel ih =>
    have hfront : solo.front? c.now c.state = none := rfl
    have hback : solo.back? c.now c.state =
      (c.state.tasks.step? c.now).map fun p => ⟨p.1, c.state.notes ++ [p.2]⟩ := rfl
    unfold Machine.runFor
    simp only [hfront]
    split
    · assumption
    · rename_i hgoing
      cases hstep : c.state.tasks.step? c.now with
      | some p =>
        obtain ⟨ts', n⟩ := p
        obtain ⟨i, hgoes⟩ := goes_of_step? hstep
        have hleft := hgoes.left_eq
        simp only [hback, hstep, Option.map_some]
        obtain ⟨ns', htells, hless⟩ := Tells.settleFor (s := ⟨ts', c.state.notes ++ [n]⟩)
          (h.goes hgoes) c.now (solo.work ⟨ts', c.state.notes ++ [n]⟩)
        have hfewer : 2 * ts'.left < fuel := by
          rcases hfuel with hfuel | ⟨hfuel, -⟩ <;> omega
        exact ih htells (Or.inl (Nat.lt_of_le_of_lt (Nat.mul_le_mul_left 2 hless) hfewer))
      | none =>
        -- the clock goes on to the nearest moment that a task waits for
        simp only [hback, hstep, Option.map_none]
        obtain ⟨u, hu, hlater⟩ :=
          h.exists_due hends (Bool.eq_false_iff.mpr hgoing) hstep
        cases hnext : solo.next? c with
        | none =>
          have hempty := List.min?_eq_none_iff.mp hnext
          have hmem : u ∈ (solo.dues c.state).filter (c.now < ·) :=
            List.mem_filter.mpr ⟨hu, decide_eq_true hlater⟩
          rw [hempty] at hmem
          cases hmem
        | some u' =>
          have hdue : u' ∈ c.state.tasks.dues := (List.mem_filter.mp (List.min?_mem hnext)).1
          have hcan := step?_ne_none_of_due hdue (Nat.le_refl u')
          have hfewer : 2 * c.state.tasks.left ≤ fuel := by
            rcases hfuel with hfuel | ⟨-, hcan⟩
            · omega
            · exact absurd hstep hcan
          exact ih (c := ⟨u', c.state⟩) h (Or.inr ⟨hfewer, hcan⟩)

/-- **Left to themselves, tasks end** if their hooks do. -/
theorem run_allEnded (hends : ∀ h ∈ hooks, h.latency ≠ none) (now : Instant) :
    (solo.run (fun s => s.tasks.allEnded) none
      ⟨now, ⟨spawn hooks, []⟩⟩).state.tasks.allEnded = true := by
  refine runFor_allEnded hends _ (tells_spawn hooks) (Or.inl ?_)
  have hwork := left_le_work (spawn hooks)
  have heq : solo.work ⟨spawn hooks, []⟩ = (spawn hooks).work := rfl
  dsimp only
  omega

/-! ## 6. What is collected in the end -/

/-- What is collected does not depend on the order of the ends, but for its own. -/
theorem Tells.failures_perm (h : Tells hooks ns ts) (hall : ts.allEnded = true) :
    ts.failures.Perm (failed hooks ++ panicked hooks) := by
  rw [h.failures_eq]
  have hnumbers := (h.allEnded_iff.mp hall).filterMap fun j => hooks[j]?.bind failure?
  rw [filterMap_range_failure?] at hnumbers
  exact hnumbers.trans (filterMap_failure?_perm hooks)

/-- **Hooks of a shutdown lose nothing and double nothing**, in whatever order their tasks take
their turns and end.  Whenever all of them have ended,

* each hook has been started once and has then ended once, and nothing else has been seen;
* what is collected stands in the order in which the tasks have ended; it is the failure of each
  hook that fails, under its name, and a panic for each hook that panics, and nothing else;
* it is empty exactly if all hooks have passed.

So what is collected in two runs is the same but for its order.  If every hook ends, the tasks can
end in every order there is, whatever has happened so far, and left to themselves they do end. -/
theorem collects_failures (hooks : List Hook) (now : Instant) :
    (∀ ns c, Runs ⟨now, spawn hooks⟩ ns c → c.state.allEnded = true →
      (∀ j, own j ns = (hooks[j]?.map fun h => [HookNote.started h, .ended h]).getD []) ∧
      (ends ns).Perm (List.range hooks.length) ∧
      c.state.failures = (ends ns).filterMap (fun j => hooks[j]?.bind failure?) ∧
      c.state.failures.Perm (failed hooks ++ panicked hooks) ∧
      (c.state.failures = [] ↔ ∀ h ∈ hooks, h.ending = .passed) ∧
      ∀ ns' c', Runs ⟨now, spawn hooks⟩ ns' c' → c'.state.allEnded = true →
        c'.state.failures.Perm c.state.failures) ∧
    ((∀ h ∈ hooks, h.latency ≠ none) →
      (∀ ns c, Runs ⟨now, spawn hooks⟩ ns c →
        ∀ order, (ends ns ++ order).Perm (List.range hooks.length) →
          ∃ ns' c', Runs c ns' c' ∧ ends ns' = order ∧ c'.state.allEnded = true) ∧
      Noted ⟨now, spawn hooks⟩ (solo.run (·.tasks.allEnded) none ⟨now, ⟨spawn hooks, []⟩⟩) ∧
      (solo.run (·.tasks.allEnded) none
        ⟨now, ⟨spawn hooks, []⟩⟩).state.tasks.allEnded = true) := by
  have htells : ∀ {ns c}, Runs ⟨now, spawn hooks⟩ ns c → Tells hooks ns c.state := fun hruns =>
    hruns.tells (tells_spawn hooks)
  refine ⟨fun ns c hruns hall => ?_, fun hends => ⟨fun ns c hruns order horder => ?_, ?_, ?_⟩⟩
  · have h := htells hruns
    refine ⟨fun j => ?_, h.allEnded_iff.mp hall, h.failures_eq, h.failures_perm hall, ?_, ?_⟩
    · rw [h.getElem?]
      cases htask : c.state.tasks[j]? with
      | none => exact h.silent j (List.getElem?_eq_none_iff.mp htask)
      | some t =>
        have hended : t.stage = .ended :=
          of_decide_eq_true (List.all_eq_true.mp hall t (List.mem_of_getElem? htask))
        rw [h.notes_eq j t htask, HookTask.notes, hended]
        rfl
    · rw [← List.length_eq_zero_iff, (h.failures_perm hall).length_eq,
        ← (filterMap_failure?_perm hooks).length_eq, List.length_eq_zero_iff,
        List.filterMap_eq_nil_iff]
      exact forall₂_congr fun hook _ => failure?_eq_none_iff hook
    · intro ns' c' hruns' hall'
      exact ((htells hruns').failures_perm hall').trans (h.failures_perm hall).symm
  · exact (htells hruns).exists_completion hends horder c.now
  · exact noted_run _ none now (spawn hooks)
  · exact run_allEnded hends now

/-- A hook that fails late, one that panics early and one that passes at once. -/
def closing : List Hook :=
  [⟨"flush", .call (some (.ofMillis 20)) (.failed (.failed "disk full" none))⟩,
    ⟨"trace", .call (some (.ofMillis 5)) (.panicked (.text "boom"))⟩,
    ⟨"audit", .call (some ⟨0⟩) .passed⟩]

/-- Left to themselves the tasks end in the order of their hooks' time; but the one that fails may
as well end before the one that panics. -/
theorem collects_failures_closing :
    (∀ h ∈ closing, h.latency ≠ none) ∧
      (solo.run (·.tasks.allEnded) none ⟨0, ⟨spawn closing, []⟩⟩).state.tasks.failures =
        [("<panicked>", .failed "hook panicked" (some "task panicked with message \"boom\"")),
          ("flush", .failed "disk full" none)] ∧
      ∃ ns c, Runs ⟨0, spawn closing⟩ ns c ∧ c.state.allEnded = true ∧ ends ns = [0, 2, 1] ∧
        c.state.failures =
          [("flush", .failed "disk full" none),
            ("<panicked>", .failed "hook panicked"
              (some "task panicked with message \"boom\""))] := by
  have hends : ∀ h ∈ closing, h.latency ≠ none := by decide
  obtain ⟨hevery, hending⟩ := collects_failures closing 0
  obtain ⟨horders, -, -⟩ := hending hends
  obtain ⟨ns, c, hruns, horder, hall⟩ := horders [] _ .here [0, 2, 1] (by decide)
  obtain ⟨-, -, hfailures, -⟩ := hevery ns c hruns hall
  refine ⟨hends, by decide +kernel, ns, c, hruns, hall, horder, ?_⟩
  rw [hfailures, horder]
  decide +kernel

end HookTasks
end Gatehouse
