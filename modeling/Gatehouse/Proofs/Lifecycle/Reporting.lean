/-
# What is reported of a run

A server that spins drives its run by a task that reports how the run has finished; behind the
report the task is over.  A panic of a hook or of the transport ends the task as well, and then
there is no report.

* `Session.Leads.serves`: a run that has begun to serve ends as serving does;
* `Session.Does.collects`: what has been reported stays in the collector;
* `Spin.run_reported`: **a run that has finished is reported exactly once**, and one that has
  panicked is not reported at all;
* `Spin.report_missing`: a server can wait for a report that does not come.
-/
import Gatehouse.Proofs.Lifecycle.Order
import Gatehouse.Proofs.Lifecycle.Spinning

namespace Gatehouse

/-! ## 1. The reports of a run -/

theorem RunCall.stage_of_result? {c : RunCall} {e : CallEnd} (h : c.result? = some e) :
    c.stage = .ended e := by
  unfold result? at h
  split at h
  · rename_i e' hstage
    rw [hstage, Option.some.inj h]
  · cases h

namespace Deed

/-- The report that a deed is, if it is one of this run. -/
def report? (i : Nat) : Deed → Option Finish
  | reported j f => if j = i then some f else none
  | _ => none

/-- How a run has been reported to finish, each time that it has. -/
def reports (i : Nat) (ds : List Deed) : List Finish := ds.filterMap (report? i)

theorem reports_append (i : Nat) (ds ds' : List Deed) :
    reports i (ds ++ ds') = reports i ds ++ reports i ds' := List.filterMap_append

theorem report?_eq_some_iff {i : Nat} {d : Deed} {f : Finish} :
    d.report? i = some f ↔ d = .reported i f := by
  cases d <;> simp [report?]

theorem mem_reports_iff {i : Nat} {ds : List Deed} {f : Finish} :
    f ∈ reports i ds ↔ .reported i f ∈ ds := by
  simp [reports, report?_eq_some_iff]

/-- The reports of a run are all in its history. -/
theorem reports_only (i : Nat) (ds : List Deed) : reports i (only run? i ds) = reports i ds := by
  have hown : (fun d => if decide (run? d = some i) = true then report? i d else none) =
      report? i := by
    funext d
    cases d <;> simp [report?, run?]
  rw [reports, only, List.filterMap_filter, hown, reports]

end Deed

section

open Deed

variable {i : Nat} {ds : List Deed}

/-- What a stage tells leaves reports out. -/
theorem StageTells.reports_eq {stage : RunStage} (h : StageTells i ds stage) :
    reports i ds = [] := by
  refine List.eq_nil_iff_forall_not_mem.mpr fun f hf => ?_
  rw [mem_reports_iff] at hf
  cases h <;> simp [mem_upTo_iff] at hf

/-- A run is reported once at most, as it has finished, and then it owes no report any more. -/
theorem RunTells.reports_eq {c : RunCall} (h : RunTells i ds c) :
    reports i ds = [] ∨ ∃ f, c = ⟨.ended (.finished f), true, false⟩ ∧ reports i ds = [f] := by
  cases h with
  | unreported h => exact Or.inl h.reports_eq
  | reported h =>
    refine Or.inr ⟨_, rfl, ?_⟩
    rw [reports_append, h.reports_eq]
    simp [reports, report?]

/-- A run that ends with a panic has a hook that panics, or has begun to serve. -/
theorem RunTells.panicked {c : RunCall} {p : Panic} (h : RunTells i ds c)
    (hresult : c.result? = some (.panicked p)) :
    (∃ hooks, .runTaken i hooks ∈ ds ∧ ∃ h ∈ hooks, h.ending = .panicked p) ∨
      .served i ∈ ds := by
  cases h.stageTells (RunCall.stage_of_result? hresult) (by exact nofun) with
  | @broken done left hook _ hdone hbreaks =>
    cases hbreaks with
    | panicked hend =>
      refine Or.inl ⟨done ++ hook :: left, List.mem_cons_self, hook, ?_, hend⟩
      exact List.mem_append_right _ List.mem_cons_self
  | served hpass => exact Or.inr (by simp)

theorem RunTells.not_taken {c : RunCall} (h : RunTells i ds c) (hrefused : .runRefused i ∈ ds)
    (hooks : List Hook) : .runTaken i hooks ∉ ds := by
  have hstages : ∀ {ds : List Deed} {stage : RunStage}, StageTells i ds stage →
      .runRefused i ∈ ds → .runTaken i hooks ∉ ds := by
    intro ds stage h hrefused
    cases h <;> simp_all [mem_upTo_iff]
  cases h with
  | unreported h => exact hstages h hrefused
  | reported h => simpa using hstages h (by simpa using hrefused)

end

/-! ## 2. Serving -/

/-- The stages of a run from serving on. -/
inductive RunStage.Serves (v : Serving) : RunStage → Prop
  | serving : Serves v (.serving v)
  | ended {e : CallEnd} (he : e ∈ v.ends) : Serves v (.ended e)

namespace Session

variable {now : Instant} {s s' : Session} {i : Nat} {call : RunCall} {d : Deed} {ds : List Deed}
  {c c' : Clocked Session} {v : Serving}

theorem mem_ends_of_afterServing {e : CallEnd} (h : s.afterServing now v = some e) :
    e ∈ v.ends := by
  unfold afterServing at h
  split at h
  · rename_i hstopped _
    exact List.mem_cons_of_mem _ (by rw [hstopped]; simpa using h.symm)
  · split at h
    · cases h
      exact List.mem_cons_self
    · cases h

/-- From serving on, a run keeps to it. -/
theorem RunTurn.serves (h : s.RunTurn now i call d s') (hbefore : call.stage.Serves v) :
    ∃ call', s'.runs = s.runs.set i call' ∧ call'.stage.Serves v := by
  obtain ⟨stage, started, owes⟩ := call
  cases h with
  | servingEnded hstage hend =>
    cases hstage
    cases hbefore
    exact ⟨_, rfl, .ended (mem_ends_of_afterServing hend)⟩
  | reported hstage howes hreport => exact ⟨_, rfl, hbefore⟩
  | _ hstage =>
    cases hstage
    cases hbefore

/-- A run that begins to serve goes on as the transport says. -/
theorem Does.served (h : Does now s (.served i) s') :
    ∃ call, s'.runs[i]? = some call ∧ call.stage = .serving (s.transport.serve now).1 := by
  rcases h.runTurn rfl with ⟨hooks, hd⟩ | hd | ⟨call, hcall, -, hturn⟩
  · cases hd
  · cases hd
  · cases hturn with
    | served hstage =>
      exact ⟨_, List.getElem?_set_self (List.getElem?_eq_some_iff.mp hcall).1, rfl⟩

/-- **A run that has begun to serve ends as serving does**, which its transport says. -/
theorem Leads.serves (h : Leads c ds c') (hserved : .served i ∈ ds)
    (hcall : c'.state.runs[i]? = some call) :
    ∃ began, call.stage.Serves (c.state.transport.serve began).1 := by
  obtain ⟨before, after, rfl⟩ := List.append_of_mem hserved
  obtain ⟨c₁, s₁, hbefore, hdoes, hafter⟩ := h.split
  obtain ⟨call₁, hcall₁, hstage₁⟩ := hdoes.served
  rw [hbefore.alike.serve] at hstage₁
  have hkept : ∃ call, c'.state.runs[i]? = some call ∧
      call.stage.Serves (c.state.transport.serve c₁.now).1 := by
    refine hafter.invariant
      (I := fun _ s => ∃ call, s.runs[i]? = some call ∧
        call.stage.Serves (c.state.transport.serve c₁.now).1)
      ⟨call₁, hcall₁, hstage₁ ▸ .serving⟩ ?_
    rintro now ds s d s' ⟨call, hcall, hserves⟩ hdoes
    rcases hdoes.run_cases hcall with hkept | ⟨-, reports, hstarted⟩ | ⟨-, hturn⟩
    · exact ⟨call, hkept, hserves⟩
    · exact ⟨_, hstarted, hserves⟩
    · obtain ⟨call', hruns, hserves'⟩ := hturn.serves hserves
      obtain ⟨hi, -⟩ := List.getElem?_eq_some_iff.mp hcall
      exact ⟨call', by rw [hruns, List.getElem?_set_self hi], hserves'⟩
  obtain ⟨call', hcall', hserves⟩ := hkept
  obtain rfl := Option.some.inj (hcall.symm.trans hcall')
  exact ⟨c₁.now, hserves⟩

end Session

/-! ## 3. The collector -/

/-- What a collector can become while nobody takes from it. -/
structure Collector.Extends (old new : Collector) : Prop where
  taken : new.taken = old.taken
  reporters : new.reporters = old.reporters
  sent : old.sent <+: new.sent
  isOpen : new.isOpen = true → old.isOpen = true

namespace Collector

variable {c c' : Collector} {f : Finish}

theorem Extends.rfl : c.Extends c := ⟨Eq.refl _, Eq.refl _, List.prefix_rfl, id⟩

theorem extends_close (c : Collector) : c.Extends c.close := ⟨rfl, rfl, List.prefix_rfl, nofun⟩

/-- A report is sent if the collector is open, and dropped if it is not. -/
theorem extends_report? (h : c.report? f = some c') :
    c.Extends c' ∧ c'.isOpen = c.isOpen ∧ (c.isOpen = true → f ∈ c'.sent) := by
  unfold report? at h
  split at h
  · cases h
  · split at h
    · cases h
      exact ⟨⟨rfl, rfl, List.prefix_append _ _, id⟩, rfl, fun _ => by simp⟩
    · rename_i hclosed
      cases h
      exact ⟨.rfl, rfl, fun hopen => absurd hopen hclosed⟩

end Collector

namespace Session

variable {now : Instant} {s s' : Session} {d : Deed} {ds : List Deed} {k : Nat}

/-- A turn of a registration may report, and leaves the collector as open as it was. -/
theorem extends_refusalReported (s : Session) (t : RegistrationTurn) :
    s.collector.Extends (s.refusalReported t) ∧
      (s.refusalReported t).isOpen = s.collector.isOpen := by
  unfold refusalReported
  split
  · cases hreport : s.collector.report? _ with
    | none => exact ⟨.rfl, rfl⟩
    | some collector =>
      obtain ⟨hextends, hopen, -⟩ := Collector.extends_report? hreport
      exact ⟨hextends, hopen⟩
  · exact ⟨.rfl, rfl⟩

/-- **What every deed makes of the collector.** -/
theorem Does.extends_collector (h : Does now s d s') : s.collector.Extends s'.collector := by
  have hsame : ∀ {collector : Collector}, collector = s.collector →
      s.collector.Extends collector := by
    rintro _ rfl
    exact .rfl
  cases h with
  | run hcall hstarted hturn =>
    cases hturn with
    | reported hstage howes hreport => exact (Collector.extends_report? hreport).1
    | hookStarted hstage => exact hsame (note_collector _ _)
    | hookEnded hstage hdue => exact hsame (note_collector _ _)
    | _ => exact .rfl
  | stop hcall hturn => cases hturn <;> exact .rfl
  | task htask hturn => cases hturn <;> exact hsame (note_collector _ _)
  | registration hcall hready registryFirst hdeed => exact (extends_refusalReported s _).1
  | deafen => exact s.collector.extends_close
  | _ => exact .rfl

/-- A run that reports to an open collector leaves its report there. -/
theorem Does.sent_of_reported {i : Nat} {f : Finish} (h : Does now s (.reported i f) s')
    (hopen : s.collector.isOpen = true) : f ∈ s'.collector.sent := by
  rcases h.runTurn rfl with ⟨hooks, hd⟩ | hd | ⟨c, -, -, hturn⟩
  · cases hd
  · cases hd
  · cases hturn with
    | reported hstage howes hreport => exact (Collector.extends_report? hreport).2.2 hopen

/-- No move stops the reading of reports. -/
theorem isOpen_of_step? {m : Move} (h : s.step? now m = some s') :
    s'.collector.isOpen = s.collector.isOpen := by
  cases m with
  | run i =>
    obtain ⟨c, -, -, hturn⟩ := turn_of_stepRun? h
    generalize s.runDeed i = d at hturn
    cases hturn with
    | reported hstage howes hreport => exact (Collector.extends_report? hreport).2.1
    | hookStarted hstage => rw [note_collector]; rfl
    | hookEnded hstage hdue => rw [note_collector]; rfl
    | _ => rfl
  | stop i =>
    obtain ⟨c, -, hturn⟩ := turn_of_stepStop? h
    generalize s.stopDeed i = d at hturn
    cases hturn <;> rfl
  | close i =>
    simp only [step?, stepClose?] at h
    split at h <;> cases h
    rfl
  | drain i =>
    simp only [step?, stepDrain?] at h
    split at h
    · split at h <;> cases h
      rfl
    · cases h
  | hook i =>
    obtain ⟨t, -, hturn⟩ := turn_of_stepHook? h
    generalize s.taskDeed i = d at hturn
    cases hturn <;> rw [note_collector]
  | registration i registryFirst =>
    obtain ⟨r, -, -, rfl⟩ := turned_of_stepRegistration? h
    exact (extends_refusalReported s _).2

/-- A run is driven by a task that reports: it has been started, and it owes its report or has made
it. -/
def Driven (k : Nat) (ds : List Deed) (s : Session) : Prop :=
  ∃ call, s.runs[k]? = some call ∧ call.started = true ∧
    (call.owesReport = true ∨ ∃ f, .reported k f ∈ ds)

/-- **Every deed leaves a driven run driven.** -/
theorem Does.driven (hdoes : Does now s d s') (h : Driven k ds s) : Driven k (ds ++ [d]) s' := by
  obtain ⟨call, hcall, hstarted, howes⟩ := h
  have howes' : call.owesReport = true ∨ ∃ f, .reported k f ∈ ds ++ [d] := by
    rcases howes with howes | ⟨f, hf⟩
    · exact Or.inl howes
    · exact Or.inr ⟨f, List.mem_append_left _ hf⟩
  rcases hdoes.run_cases hcall with hkept | ⟨hwaits, -⟩ | ⟨-, hturn⟩
  · exact ⟨call, hkept, hstarted, howes'⟩
  · rw [hstarted] at hwaits
    cases hwaits
  · obtain ⟨call', hruns, hkeeps, hreported⟩ := hturn.owes
    obtain ⟨hk, -⟩ := List.getElem?_eq_some_iff.mp hcall
    refine ⟨call', by rw [hruns, List.getElem?_set_self hk], hkeeps.trans hstarted, ?_⟩
    rcases hreported with hsame | ⟨f, rfl⟩
    · rw [hsame]
      exact howes'
    · exact Or.inr ⟨f, List.mem_append_right _ (List.mem_singleton_self _)⟩

/-- What has been reported is in the collector, as long as that is open. -/
structure Collects (ds : List Deed) (s : Session) : Prop where
  taken : s.collector.taken = 0
  reporters : s.collector.reporters = 1
  received : s.collector.isOpen = true → ∀ i f, .reported i f ∈ ds → f ∈ s.collector.sent

/-- **Every deed leaves what has been reported in the collector.** -/
theorem Does.collects (hdoes : Does now s d s') (h : Collects ds s) : Collects (ds ++ [d]) s' := by
  have hextends := hdoes.extends_collector
  refine ⟨hextends.taken.trans h.taken, hextends.reporters.trans h.reporters, ?_⟩
  intro hopen i f hmem
  rcases List.mem_append.mp hmem with hmem | hmem
  · exact hextends.sent.subset (h.received (hextends.isOpen hopen) i f hmem)
  · obtain rfl := List.mem_singleton.mp hmem
    exact hdoes.sent_of_reported (hextends.isOpen hopen)

end Session

/-! ## 4. The task of a server that spins -/

/-- The task that drives a run is over: the run has panicked, or it has finished and the task has
reported that. -/
def RunCall.taskOver (c : RunCall) : Bool :=
  match c.stage with
  | .ended (.panicked _) => true
  | .ended (.finished _) => !c.owesReport
  | _ => false

theorem RunCall.taskOver_of_finished {c : RunCall} {f : Finish}
    (h : c.result? = some (.finished f)) : c.taskOver = !c.owesReport := by
  rw [taskOver, stage_of_result? h]

theorem RunCall.taskOver_of_panicked {c : RunCall} {p : Panic}
    (h : c.result? = some (.panicked p)) : c.taskOver = true := by
  rw [taskOver, stage_of_result? h]

section

open Deed

variable {i : Nat} {ds : List Deed} {c : RunCall}

theorem RunTells.reports_of_going (h : RunTells i ds c) (hgoing : c.taskOver = false) :
    reports i ds = [] := by
  rcases h.reports_eq with hnone | ⟨f, rfl, -⟩
  · exact hnone
  · cases hgoing

/-- The one report of a run that has finished is how it has finished. -/
theorem RunTells.reports_of_finished {f f' : Finish} (h : RunTells i ds c)
    (hresult : c.result? = some (.finished f)) (hmade : f' ∈ reports i ds) :
    reports i ds = [f] := by
  rcases h.reports_eq with hnone | ⟨g, rfl, hone⟩
  · rw [hnone] at hmade
    cases hmade
  · cases hresult
    exact hone

/-- Nothing is reported of a run that has panicked. -/
theorem RunTells.reports_of_panicked {p : Panic} (h : RunTells i ds c)
    (hresult : c.result? = some (.panicked p)) : reports i ds = [] := by
  rcases h.reports_eq with hnone | ⟨f, rfl, -⟩
  · exact hnone
  · cases hresult

end

namespace Spin

open Session (Leads Driven Collects RunsTell)
open Deed (reports only run?)

variable {c c' : Clocked Spin} {ds : List Deed}

theorem exit?_eq_none {x : Spin} {stage : SpinStage} (hstage : x.stage = stage)
    (hstays : ∀ e, stage ≠ .exited e) : x.exit? = none := by
  unfold exit?
  split
  · rename_i e hexited
    exact absurd (hstage.symm.trans hexited) (hstays e)
  · rfl

/-- A turn behind which the server has not left leaves the collector as open as it was. -/
theorem Turn.isOpen_eq {now : Instant} {x x' : Spin} {a? : Option Act} (h : x.Turn now a? x')
    (hstays : x'.exit? = none) :
    x.exit? = none ∧ x'.session.collector.isOpen = x.session.collector.isOpen := by
  cases h with
  | inner hstep => exact ⟨hstays, Session.isOpen_of_step? hstep⟩
  | signalled hcomes => exact ⟨hstays, rfl⟩
  | resolved hstage hoffer => exact ⟨exit?_eq_none hstage nofun, rfl⟩
  | cancelled hstage => exact ⟨exit?_eq_none hstage nofun, rfl⟩
  | closing hstage => exact ⟨exit?_eq_none hstage nofun, rfl⟩
  | stopping hstage hdeadline =>
    refine ⟨exit?_eq_none hstage nofun, congrArg Collector.isOpen ?_⟩
    simp only [Session.callStop]
    split <;> rfl
  | crashed hstage hdeadline => exact ⟨exit?_eq_none hstage nofun, rfl⟩
  | closed hstage hcall => cases hstays
  | closePanicked hstage hcall => exact ⟨exit?_eq_none hstage nofun, rfl⟩
  | stopped hstage hcall => cases hstays
  | stopPanicked hstage hcall => exact ⟨exit?_eq_none hstage nofun, rfl⟩

theorem Spins.isOpen (h : Spins c ds c') (hopen : c.state.session.collector.isOpen = true) :
    c'.state.exit? = none → c'.state.session.collector.isOpen = true := by
  refine h.invariant
    (I := fun c => c.state.exit? = none → c.state.session.collector.isOpen = true)
    (fun _ => hopen) ?_ fun _ _ _ hreads _ => hreads
  intro now x a? x' hreads hturn hstays
  obtain ⟨hstayed, hsame⟩ := hturn.isOpen_eq hstays
  exact hsame.trans (hreads hstayed)

theorem Spins.waiter_eq (h : Spins c ds c') : c'.state.waiter = c.state.waiter := by
  refine h.invariant (I := fun c' => c'.state.waiter = c.state.waiter) rfl ?_
    fun _ _ _ hsame _ => hsame
  intro now x a? x' hsame hturn
  cases hturn <;> exact hsame

/-- A run that owes a report can make it. -/
theorem exists_step_of_owes {now : Instant} {x : Spin} {k : Nat} {call : RunCall} {f : Finish}
    (hcall : x.session.runs[k]? = some call) (hstarted : call.started = true)
    (hresult : call.result? = some (.finished f)) (howes : call.owesReport = true)
    (hreporters : x.session.collector.reporters ≠ 0) :
    ∃ x', x.step? now (.inner (.run k)) = some x' := by
  obtain ⟨stage, started, owes⟩ := call
  obtain rfl := RunCall.stage_of_result? hresult
  cases hstarted
  cases howes
  obtain ⟨session, hstep⟩ : ∃ session, x.session.step? now (.run k) = some session := by
    simp only [Session.step?, Session.stepRun?, hcall, Collector.report?, if_neg hreporters]
    exact ⟨_, rfl⟩
  exact ⟨{ x with session }, Option.map_eq_some_iff.mpr ⟨session, hstep, rfl⟩⟩

/-- A waiter that races the reports can take one that is there. -/
theorem exists_step_of_sent {now : Instant} {x : Spin} {f : Finish} (hstage : x.stage = .waiting)
    (hwaiter : x.waiter = .standard ∨ x.waiter = .reports 0)
    (htaken : x.session.collector.taken = 0) (hsent : f ∈ x.session.collector.sent) :
    ∃ x', x.step? now (.main 0) = some x' := by
  obtain ⟨first, rest, hqueue⟩ : ∃ first rest, x.session.collector.queue = first :: rest := by
    rw [Collector.queue, htaken, List.drop_zero]
    exact List.exists_cons_of_ne_nil (List.ne_nil_of_mem hsent)
  have hoffers : x.offers now ≠ [] := by
    rcases hwaiter with hwaiter | hwaiter <;>
      simp [offers, hwaiter, hqueue, Waiter.offers]
  obtain ⟨offer, hoffer⟩ : ∃ offer, (x.offers now)[0]? = some offer :=
    ⟨_, List.getElem?_eq_getElem (List.length_pos_iff.mpr hoffers)⟩
  refine ⟨{ x with stage := .resolved offer }, ?_⟩
  simp only [step?, stepMain?, hstage, hoffer, Option.map_some]

/-- A server that begins to spin drives the run that it has called for. -/
theorem driven_launch (s : Session) : Driven s.runs.length [] (launch s) := by
  obtain ⟨stage, -, -, hruns⟩ := launch_eq s
  exact ⟨⟨stage, true, true⟩, by rw [hruns]; exact List.getElem?_concat_length, rfl, Or.inl rfl⟩

theorem launch_collector (s : Session) : (launch s).collector = s.collector := by
  obtain ⟨-, -, hlaunch, -⟩ := launch_eq s
  rw [hlaunch]
  simp only [Session.start, Session.callRun]
  split <;> rfl

/-- Nothing has been reported before, and the collector is new. -/
theorem collects_launch {s : Session} (hcollector : s.collector = Collector.new) :
    Collects [] (launch s) := by
  have hnew : (launch s).collector = Collector.new := (launch_collector s).trans hcollector
  exact ⟨by rw [hnew]; rfl, by rw [hnew]; rfl, fun _ _ _ h => nomatch h⟩

section

variable {e : Engine} {r : Registry} {t : Transport} {before start : Instant} {ds₀ : List Deed}
  {s : Session} {waiter : Waiter} {upcoming : List (Instant × ProcessSignal)}

/-- All that has been done to a session before its server spins, at its launch, and since. -/
def history (before : List Deed) (s : Session) (start : Instant) (since : List Deed) : List Deed :=
  before ++ ([.quiet, (announcing s).deed start .callRun, .quiet] ++ since)

/-- A session is used before its server spins, and while it does. -/
theorem leads_history (hbefore : Leads ⟨before, Session.new e r t⟩ ds₀ ⟨start, s⟩)
    (h : Spins ⟨start, begin s waiter start upcoming⟩ ds c) :
    Leads ⟨before, Session.new e r t⟩ (history ds₀ s start ds) (inner c) :=
  hbefore.trans ((leads_launch s start).trans h.leads)

/-- The run of a server does not begin to serve before that spins. -/
theorem served_of_history (hbefore : Leads ⟨before, Session.new e r t⟩ ds₀ ⟨start, s⟩)
    (hserved : .served s.runs.length ∈ history ds₀ s start ds) : .served s.runs.length ∈ ds := by
  rcases List.mem_append.mp hserved with hold | hnew
  · have hown : .served s.runs.length ∈ only run? s.runs.length ds₀ :=
      Deed.mem_only_iff.mpr ⟨hold, rfl⟩
    rw [(hbefore.runsTell rfl).silent _ (Nat.le_refl _)] at hown
    cases hown
  · rcases List.mem_append.mp hnew with hlaunch | hsince
    · rcases Session.deed_callRun (announcing s) start with hcalled | hcalled <;>
        simp [hcalled] at hlaunch
    · exact hsince

/-- The run of a server has no reports before it spins. -/
theorem reports_history (hbefore : Leads ⟨before, Session.new e r t⟩ ds₀ ⟨start, s⟩) :
    reports s.runs.length (history ds₀ s start ds) = reports s.runs.length ds := by
  have hold : reports s.runs.length ds₀ = [] := by
    rw [← Deed.reports_only, (hbefore.runsTell rfl).silent _ (Nat.le_refl _)]
    rfl
  have hlaunch :
      reports s.runs.length [.quiet, (announcing s).deed start .callRun, .quiet] = [] := by
    rcases Session.deed_callRun (announcing s) start with hcalled | hcalled <;> rw [hcalled] <;> rfl
  rw [history, Deed.reports_append, Deed.reports_append, hold, hlaunch]
  rfl

/-- The hooks of the run of a server: those of the engine, and the one that announces. -/
theorem hooks_eq (hbefore : Leads ⟨before, Session.new e r t⟩ ds₀ ⟨start, s⟩)
    (h : Spins ⟨start, begin s waiter start upcoming⟩ ds c) {hooks : List Hook}
    (htaken : .runTaken s.runs.length hooks ∈ history ds₀ s start ds) :
    hooks = s.engine.hooks.onRun ++ [Hook.registry] := by
  have hwhole := leads_history hbefore h
  have hcalled : (announcing s).deed start .callRun ∈ history ds₀ s start ds := by simp [history]
  rcases Session.deed_callRun (announcing s) start with hdeed | hdeed <;> rw [hdeed] at hcalled
  · have heq := Deed.eq_of_countP_le_one hwhole.run_once hcalled rfl htaken rfl
    cases heq
    rfl
  · obtain ⟨call, -, htells, hown⟩ := (hwhole.runsTell rfl).exists_entry hcalled rfl
    exact absurd (Deed.mem_only_iff.mpr ⟨htaken, rfl⟩) (htells.not_taken hown hooks)

/-- **What becomes of the report of a run.**  Whatever has been done to a session before its server
spins with a new collector, and however the moves of the server, its calls and its tasks come after
each other:

* as long as the task that drives the run is not over, nothing has been reported of the run, and a
  run that has finished can make its report next;
* when it is over behind a run that has finished, the run has been reported exactly once, as it has
  finished; the report is in the collector, unless the server had left, and a waiter that takes
  the first report and still waits need not wait;
* when the run has panicked, which is what one of the engine's on-run hooks has done, or the
  transport while it served, nothing has been reported of it. -/
theorem run_reported (hbefore : Leads ⟨before, Session.new e r t⟩ ds₀ ⟨start, s⟩)
    (hcollector : s.collector = Collector.new)
    (h : Spins ⟨start, begin s waiter start upcoming⟩ ds c) :
    ∃ call, c.state.session.runs[s.runs.length]? = some call ∧
      (call.taskOver = false → reports s.runs.length ds = [] ∧
        ∀ f, call.result? = some (.finished f) →
          ∃ x, c.state.step? c.now (.inner (.run s.runs.length)) = some x) ∧
      (∀ f, call.taskOver = true → call.result? = some (.finished f) →
        reports s.runs.length ds = [f] ∧
          (c.state.exit? = none → f ∈ c.state.session.collector.sent) ∧
          (c.state.stage = .waiting → waiter = .standard ∨ waiter = .reports 0 →
            ∃ x, c.state.step? c.now (.main 0) = some x)) ∧
      ∀ p, call.result? = some (.panicked p) →
        call.taskOver = true ∧ reports s.runs.length ds = [] ∧
          ((∃ hook ∈ s.engine.hooks.onRun, hook.ending = .panicked p) ∨
            .served s.runs.length ∈ ds ∧ ∃ began, .panicked p ∈ (t.serve began).1.ends) := by
  obtain ⟨call, hcall, hstarted, howes⟩ := h.leads.invariant (I := Driven s.runs.length)
    (driven_launch s) fun _ _ _ _ _ hdriven hdoes => hdoes.driven hdriven
  have hcollects : Collects ds c.state.session := h.leads.invariant (I := Collects)
    (collects_launch hcollector) fun _ _ _ _ _ hcollects hdoes => hdoes.collects hcollects
  have htells := ((leads_history hbefore h).runsTell rfl).tells _ call hcall
  have hown : reports s.runs.length (only run? s.runs.length (history ds₀ s start ds)) =
      reports s.runs.length ds := by
    rw [Deed.reports_only, reports_history hbefore]
  refine ⟨call, hcall, fun hgoing => ⟨?_, fun f hresult => ?_⟩, fun f hover hresult => ?_,
    fun p hresult => ⟨RunCall.taskOver_of_panicked hresult, ?_, ?_⟩⟩
  · exact hown ▸ htells.reports_of_going hgoing
  · refine exists_step_of_owes hcall hstarted hresult ?_ (by simp [hcollects.reporters])
    simpa [RunCall.taskOver_of_finished hresult] using hgoing
  · -- the task is over because the report has been made
    have howed : call.owesReport = false := by
      simpa [RunCall.taskOver_of_finished hresult] using hover
    obtain ⟨f', hmade⟩ : ∃ f, .reported s.runs.length f ∈ ds := by simpa [howed] using howes
    rw [← Deed.mem_reports_iff, ← hown] at hmade
    have hreports : reports s.runs.length ds = [f] :=
      hown ▸ htells.reports_of_finished hresult hmade
    have hreported : .reported s.runs.length f ∈ ds :=
      Deed.mem_reports_iff.mp (by rw [hreports]; exact List.mem_singleton_self f)
    have hopen : (launch s).collector.isOpen = true := by
      rw [launch_collector, hcollector]
      rfl
    have hsent : c.state.exit? = none → f ∈ c.state.session.collector.sent := fun hstays =>
      hcollects.received (h.isOpen hopen hstays) _ f hreported
    refine ⟨hreports, hsent, fun hstage hwaiter => ?_⟩
    refine exists_step_of_sent hstage ?_ hcollects.taken (hsent ?_)
    · rw [h.waiter_eq]
      exact hwaiter
    · exact exit?_eq_none hstage nofun
  · exact hown ▸ htells.reports_of_panicked hresult
  · rcases htells.panicked hresult with ⟨hooks, htaken, hook, hmem, hpanics⟩ | hserved
    · rw [hooks_eq hbefore h (Deed.mem_only_iff.mp htaken).1] at hmem
      -- the hook that announces is not the one: it never panics
      rcases List.mem_append.mp hmem with hmem | hmem
      · exact Or.inl ⟨hook, hmem, hpanics⟩
      · rw [List.mem_singleton.mp hmem] at hpanics
        cases hpanics
    · have hmem := (Deed.mem_only_iff.mp hserved).1
      obtain ⟨began, hserves⟩ := (leads_history hbefore h).serves hmem hcall
      rw [RunCall.stage_of_result? hresult] at hserves
      cases hserves with
      | ended he => exact Or.inr ⟨served_of_history hbefore hmem, began, he⟩

end

/-- A session whose engine has one on-run hook, which ends so. -/
def warming (ending : HookEnd) : Session :=
  Session.new ((Engine.new Options.standard).addRunHook ⟨"warmup", .call (some ⟨0⟩) ending⟩)
    Registry.agreeable (.scripted .smooth false)

/-- A hook that fails: the run has been reported, and the waiter can take the report. -/
theorem run_reported_failing : ∃ ds c call f,
    Spins ⟨0, begin (warming (.failed (.failed "cold" none))) .standard 0 []⟩ ds c ∧
      c.state.session.runs[0]? = some call ∧ call.taskOver = true ∧
      call.result? = some (.finished f) ∧ reports 0 ds = [f] ∧
      f ∈ c.state.session.collector.sent ∧ ∃ x, c.state.step? c.now (.main 0) = some x := by
  have hspins : ∃ ds c call f,
      Spins ⟨0, begin (warming (.failed (.failed "cold" none))) .standard 0 []⟩ ds c ∧
        c.state.session.runs[0]? = some call ∧ call.taskOver = true ∧
        call.result? = some (.finished f) ∧ c.state.stage = .waiting :=
    ⟨_, _, _, _, (((Spins.here.move (m := .inner (.run 0)) rfl).move (m := .inner (.run 0))
      rfl).move (m := .inner (.run 0)) rfl).move (m := .inner (.run 0)) rfl, rfl, rfl, rfl, rfl⟩
  obtain ⟨ds, c, call, f, hspins, hcall, hover, hresult, hstage⟩ := hspins
  obtain ⟨call', hcall', -, hfinished, -⟩ := run_reported .here rfl hspins
  obtain rfl := Option.some.inj (hcall.symm.trans hcall')
  obtain ⟨hreports, hsent, hgoes⟩ := hfinished f hover hresult
  exact ⟨ds, c, call, f, hspins, hcall, hover, hresult, hreports,
    hsent (exit?_eq_none hstage nofun), hgoes hstage (Or.inl rfl)⟩

/-- **The end of a run can be missing.**  A task can be over without a report, while the server
waits for one. -/
theorem report_missing :
    ¬ ∀ (e : Engine) (r : Registry) (t : Transport) (before start : Instant) (ds₀ ds : List Deed)
        (s : Session) (upcoming : List (Instant × ProcessSignal)) (c : Clocked Spin)
        (call : RunCall), Leads ⟨before, Session.new e r t⟩ ds₀ ⟨start, s⟩ →
      s.collector = Collector.new → Spins ⟨start, begin s .standard start upcoming⟩ ds c →
        c.state.session.runs[s.runs.length]? = some call → call.taskOver = true →
          (∃ f, reports s.runs.length ds = [f]) ∨ ∃ x, c.state.step? c.now (.main 0) = some x := by
  intro hclaim
  have hspins : ∃ ds c call, Spins ⟨0, begin (warming (.panicked .other)) .standard 0 []⟩ ds c ∧
      c.state.session.runs[0]? = some call ∧ call.taskOver = true ∧
      reports 0 ds = [] ∧ c.state.step? c.now (.main 0) = none :=
    ⟨_, _, _, ((Spins.here.move (m := .inner (.run 0)) rfl).move (m := .inner (.run 0)) rfl).move
      (m := .inner (.run 0)) rfl, rfl, rfl, rfl, rfl⟩
  obtain ⟨ds, c, call, hspins, hcall, hover, hnone, hwaits⟩ := hspins
  rcases hclaim _ _ _ 0 0 [] ds _ [] c call .here rfl hspins hcall hover with ⟨f, hone⟩ | ⟨x, hgoes⟩
  · exact absurd (hnone.symm.trans hone) nofun
  · exact absurd (hwaits.symm.trans hgoes) nofun

end Spin
end Gatehouse
