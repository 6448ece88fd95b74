/-
# The start of a server

A server that starts runs the on-run hooks of its engine, and behind them one that leaves the
registration of its instance behind.  A hook that fails is the end of the start: nothing that would
have come behind it happens.

* `Spin.start_order`: the hooks start in their order, each when all before it have passed;
* `Spin.allPass_of_served`, `Spin.allPass_of_registered`: what comes behind all hooks;
* `Spin.reported_of_failing`: what is reported of a start that fails;
* `Spin.starts_in_order`: **a hook that fails prevents everything behind it**.
-/
import Gatehouse.Proofs.Lifecycle.HookOrder

namespace Gatehouse

/-! ## 1. Hooks of a server -/

namespace Spin

open Session (Leads StopsPlain Driven Collects)
open Deed (reports hookDeeds rounds announces only run? ofHook)

variable {c c' : Clocked Spin} {ds : List Deed}

/-- While a server spins, no task leaves a registration behind. -/
theorem Spins.taskStarted_plain (h : Spins c ds c') (hplain : c.state.session.StopsPlain) {i : Nat}
    {hook : Hook} (hstarted : .taskStarted i hook ∈ ds) : hook.announces = false := by
  have hkept := h.invariant_deeds
    (I := fun ds x => x.session.StopsPlain ∧
      ∀ i hook, .taskStarted i hook ∈ ds → hook.announces = false) ⟨hplain, nofun⟩ ?_
  · exact hkept.2 i hook hstarted
  · rintro now ds x a? x' ⟨hplain, hnone⟩ hturn
    refine ⟨(hturn.announcements_le hplain).2, fun i hook hmem => ?_⟩
    rcases List.mem_append.mp hmem with hmem | hmem
    · exact hnone i hook hmem
    · cases a? with
      | none => cases hmem
      | some a =>
        have hdoes := Session.does_of_act? (hturn.session_eq : x.session.act? now a = _)
        rw [← List.mem_singleton.mp hmem] at hdoes
        obtain ⟨t, ht, rfl⟩ := hdoes.task_of_taskStarted
        exact hplain.tasks t ht

theorem history_append (before : List Deed) (s : Session) (start : Instant) (ds ds' : List Deed) :
    history before s start (ds ++ ds') = history before s start ds ++ ds' := by
  simp only [history, List.append_assoc]

section

variable {e : Engine} {r : Registry} {t : Transport} {before start : Instant} {ds₀ : List Deed}
  {s : Session} {waiter : Waiter} {upcoming : List (Instant × ProcessSignal)}
  (hbefore : Leads ⟨before, Session.new e r t⟩ ds₀ ⟨start, s⟩)
  (hinit : s.engine.status = .init) (h : Spins ⟨start, begin s waiter start upcoming⟩ ds c)

section

include hinit

/-- A server whose engine has not been run has its run taken before it does anything else. -/
theorem history_eq (ds₀ ds : List Deed) : history ds₀ s start ds = ds₀ ++
    ([.quiet, .runTaken s.runs.length (s.engine.hooks.onRun ++ [Hook.registry]), .quiet] ++
      ds) := by
  have hdeed : (announcing s).deed start .callRun =
      .runTaken s.runs.length (s.engine.hooks.onRun ++ [Hook.registry]) := if_pos hinit
  rw [history, hdeed]

theorem taken_history : .runTaken s.runs.length (s.engine.hooks.onRun ++ [Hook.registry]) ∈
    history ds₀ s start ds := by
  simp [history_eq hinit]

include hbefore h

/-- No other run is taken. -/
theorem eq_of_taken {i : Nat} {hooks : List Hook}
    (htaken : .runTaken i hooks ∈ history ds₀ s start ds) :
    i = s.runs.length ∧ hooks = s.engine.hooks.onRun ++ [Hook.registry] := by
  have heq := Deed.eq_of_countP_le_one (leads_history hbefore h).run_once (taken_history hinit) rfl
    htaken rfl
  cases heq
  exact ⟨rfl, rfl⟩

/-- Nothing has been done about hooks before. -/
theorem hookDeeds_before : hookDeeds ds₀ = [] := by
  refine List.filter_eq_nil_iff.mpr fun d hd hhook => ?_
  obtain ⟨i, hi⟩ := Deed.run?_of_ofHook hhook
  obtain ⟨call, -, htells, hown⟩ := (hbefore.runsTell rfl).exists_entry hd hi
  obtain ⟨hooks, htaken⟩ := htells.taken_of_hook hown hhook
  have hmem : .runTaken i hooks ∈ history ds₀ s start ds :=
    List.mem_append_left _ (Deed.mem_only_iff.mp htaken).1
  obtain ⟨rfl, -⟩ := eq_of_taken hbefore hinit h hmem
  rw [(hbefore.runsTell rfl).silent _ (Nat.le_refl _)] at hown
  cases hown

/-- All that is done about hooks is done while the server spins. -/
theorem hookDeeds_history : hookDeeds (history ds₀ s start ds) = hookDeeds ds := by
  rw [history_eq hinit, Deed.hookDeeds_append, hookDeeds_before hbefore hinit h]
  rfl

/-- **The order of a start**: a hook of the engine starts when all before it have passed, and the
one that announces behind all others. -/
theorem start_order {earlier later : List Deed} {i : Nat} {hook : Hook}
    (hds : ds = earlier ++ .hookStarted i hook :: later) :
    i = s.runs.length ∧ ∃ done left,
      s.engine.hooks.onRun ++ [Hook.registry] = done ++ hook :: left ∧ Hook.AllPass done ∧
        hookDeeds earlier = rounds i done := by
  subst hds
  obtain ⟨c₁, m, a, x, hearlier, -⟩ := h.split
  obtain ⟨done, left, htaken, hdone, hrounds⟩ :=
    (leads_history hbefore h).hook_order rfl (history_append ds₀ s start earlier _)
  obtain ⟨hi, hhooks⟩ := eq_of_taken hbefore hinit hearlier htaken
  refine ⟨hi, done, left, hhooks.symm, hdone, ?_⟩
  rw [← hrounds, hookDeeds_history hbefore hinit hearlier]

/-- A server serves behind all of its hooks. -/
theorem allPass_of_served {i : Nat} (hserved : .served i ∈ ds) :
    Hook.AllPass (s.engine.hooks.onRun ++ [Hook.registry]) := by
  obtain ⟨earlier, later, rfl⟩ := List.append_of_mem hserved
  obtain ⟨c₁, m, a, x, hearlier, -⟩ := h.split
  obtain ⟨hooks, hpass, hown⟩ :=
    (leads_history hbefore h).serve_last rfl (history_append ds₀ s start earlier _)
  have htaken : .runTaken i hooks ∈ only run? i (history ds₀ s start earlier) := by
    rw [hown]
    exact List.mem_cons_self
  obtain ⟨-, rfl⟩ := eq_of_taken hbefore hinit hearlier (Deed.mem_only_iff.mp htaken).1
  exact hpass

end

section

variable (hplain : s.Unannounced)

include hbefore hinit hplain h

/-- Whatever leaves a registration behind is a hook that a run starts. -/
theorem ofHook_of_announces {d : Deed} (hd : d ∈ history ds₀ s start ds)
    (hannounces : d.announces = true) : d.ofHook = true := by
  cases d with
  | hookStarted i hook => rfl
  | taskStarted j hook =>
    rw [history_eq hinit] at hd
    rcases List.mem_append.mp hd with hold | hnew
    · -- tasks are there behind a shutdown, and there has been none
      obtain ⟨k, deadline, hooks, hstop, -⟩ := hbefore.start_taken rfl hold
      have hrank : 2 ≤ s.engine.status.rank := hbefore.rank_of_halts hstop rfl
      rw [hinit] at hrank
      exact absurd hrank (by decide)
    · have hmem : .taskStarted j hook ∈ ds := by simpa using hnew
      have hnone := h.taskStarted_plain (announcements_launch hplain).2 hmem
      exact absurd (hnone.symm.trans hannounces) nofun
  | _ => cases hannounces

/-- **There are as many registrations as hooks have been started that announce.** -/
theorem registrations_length_eq :
    c.state.session.registrations.length = (hookDeeds ds).countP announces := by
  rw [← hookDeeds_history hbefore hinit h]
  have hlength := (leads_history hbefore h).registrations_length
  have hown : (history ds₀ s start ds).countP announces =
      (hookDeeds (history ds₀ s start ds)).countP announces := by
    rw [hookDeeds, List.countP_filter]
    refine List.countP_congr fun d hd => ?_
    simpa using ofHook_of_announces hbefore hinit h hplain hd
  rw [← hown]
  exact hlength.trans (Nat.zero_add _)

/-- A hook that announces is started behind all others. -/
theorem allPass_of_announces {d : Deed} (hd : d ∈ ds) (hannounces : d.announces = true) :
    Hook.AllPass s.engine.hooks.onRun ∧
      rounds s.runs.length s.engine.hooks.onRun ++ [.hookStarted s.runs.length Hook.registry] <+:
        hookDeeds ds := by
  have hmem : d ∈ history ds₀ s start ds := by simp [history, hd]
  have hhook := ofHook_of_announces hbefore hinit h hplain hmem hannounces
  cases d with
  | hookStarted i hook =>
    obtain ⟨earlier, later, rfl⟩ := List.append_of_mem hd
    obtain ⟨rfl, done, left, heq, hdone, hrounds⟩ := start_order hbefore hinit h rfl
    -- nothing comes behind the hook, for then it would be one of the engine's
    rcases List.eq_nil_or_concat left with rfl | ⟨left, last, rfl⟩
    · obtain ⟨rfl, hlast⟩ := List.append_inj' heq rfl
      obtain rfl := (List.cons.inj hlast).1
      refine ⟨hdone, ?_⟩
      rw [Deed.hookDeeds_append, hrounds]
      exact (List.prefix_append_right_inj _).mpr (List.cons_prefix_cons.mpr ⟨rfl, List.nil_prefix⟩)
    · have hengine : s.engine.hooks.onRun = done ++ hook :: left :=
        (List.append_inj' (heq.trans (by simp : _ = (done ++ hook :: left) ++ [last])) rfl).1
      have hnone : hook.announces = false := hplain.runs hook (by simp [hengine])
      have hsome : hook.announces = true := hannounces
      rw [hnone] at hsome
      cases hsome
  | taskStarted j hook => cases hhook
  | _ => cases hannounces

/-- A call to the registry comes behind all hooks of the engine. -/
theorem allPass_of_registered {earlier later : List Deed} {info? : Option Info}
    (hds : ds = earlier ++ .registered info? :: later) :
    Hook.AllPass s.engine.hooks.onRun ∧
      rounds s.runs.length s.engine.hooks.onRun ++ [.hookStarted s.runs.length Hook.registry] <+:
        hookDeeds earlier := by
  subst hds
  obtain ⟨c₁, m, a, x, hearlier, -, hact, hdeed, -⟩ := h.split
  obtain ⟨i, registryFirst, reg, -, hcall, -⟩ := registration_of_registers hact hdeed
  have hlength := registrations_length_eq hbefore hinit hearlier hplain
  have hpos : 0 < (hookDeeds earlier).countP announces := by
    rw [← hlength]
    exact Nat.lt_of_le_of_lt (Nat.zero_le i) (List.getElem?_eq_some_iff.mp hcall).1
  obtain ⟨d, hd, hannounces⟩ := List.countP_pos_iff.mp hpos
  exact allPass_of_announces hbefore hinit hearlier hplain (List.mem_filter.mp hd).1 hannounces

/-- A server leaves one registration behind at most. -/
theorem registrations_length_le_one : c.state.session.registrations.length ≤ 1 := by
  obtain ⟨started, hstarted, -, hprefix⟩ :=
    (leads_history hbefore h).exists_started rfl (taken_history hinit)
  rw [hookDeeds_history hbefore hinit h] at hprefix
  rw [registrations_length_eq hbefore hinit h hplain]
  calc (hookDeeds ds).countP announces
      ≤ (rounds s.runs.length started).countP announces := hprefix.sublist.countP_le
    _ ≤ (rounds s.runs.length (s.engine.hooks.onRun ++ [Hook.registry])).countP announces :=
        (Deed.rounds_mono _ hstarted).sublist.countP_le
    _ = s.engine.hooks.onRun.countP Hook.announces + 1 := by
        rw [Deed.countP_announces_rounds, List.countP_append]
        rfl
    _ = 1 := by
        rw [List.countP_eq_zero.mpr fun hook hmem => by simp [hplain.runs hook hmem]]

end

section

variable {done left : List Hook} {hook : Hook} {f : HookFault}
  (hhooks : s.engine.hooks.onRun = done ++ hook :: left) (hdone : Hook.AllPass done)
  (hend : hook.ending = .failed f)

include hhooks hend

theorem not_allPass_of_failing : ¬ Hook.AllPass s.engine.hooks.onRun := by
  intro hall
  have hpassed := hall hook (by simp [hhooks])
  exact absurd (hpassed.symm.trans hend) nofun

include hbefore hinit h

/-- Behind a hook that fails no other is started. -/
theorem hookDeeds_prefix_of_failing :
    hookDeeds ds <+: rounds s.runs.length (done ++ [hook]) := by
  obtain ⟨started, hstarted, hpass, hprefix⟩ :=
    (leads_history hbefore h).exists_started rfl (taken_history hinit)
  rw [hookDeeds_history hbefore hinit h] at hprefix
  refine hprefix.trans (Deed.rounds_mono _ ?_)
  have hwhole : done ++ hook :: (left ++ [Hook.registry]) =
      s.engine.hooks.onRun ++ [Hook.registry] := by simp [hhooks]
  -- of the hooks that have been started all but the last have passed
  have hbefore' : started.dropLast <+: done := by
    obtain ⟨rest, hrest⟩ := (List.dropLast_prefix started).trans hstarted
    refine hpass.prefix_of_breaks (hrest.trans hwhole.symm) ?_
    rw [hend]
    exact nofun
  refine List.prefix_of_prefix_length_le hstarted ⟨left ++ [Hook.registry], by simp [← hwhole]⟩ ?_
  have hlength := hbefore'.length_le
  rw [List.length_dropLast] at hlength
  rw [List.length_append, List.length_singleton]
  omega

include hdone

/-- **A start that is over behind a hook that fails** has run the hooks up to it, and has reported
its fault. -/
theorem reported_of_failing (hcollector : s.collector = Collector.new) {call : RunCall}
    (hcall : c.state.session.runs[s.runs.length]? = some call) (hover : call.taskOver = true) :
    hookDeeds ds = rounds s.runs.length (done ++ [hook]) ∧
      reports s.runs.length ds = [.failed (.hook (.run hook.name f.message))] ∧
      (c.state.exit? = none →
        .failed (.hook (.run hook.name f.message)) ∈ c.state.session.collector.sent) := by
  have hwhole := leads_history hbefore h
  have htaken : .runTaken s.runs.length (done ++ hook :: (left ++ [Hook.registry])) ∈
      history ds₀ s start ds := by
    have hwhole : s.engine.hooks.onRun ++ [Hook.registry] =
        done ++ hook :: (left ++ [Hook.registry]) := by simp [hhooks]
    rw [← hwhole]
    exact taken_history hinit
  have htells := (hwhole.runsTell rfl).tells _ call hcall
  obtain ⟨ds', hstage, hsame, -, htaken'⟩ := htells.exists_stageTells
  obtain ⟨e, hended⟩ := call.stage_of_taskOver hover
  rw [hended] at hstage
  obtain ⟨hrounds, rfl⟩ := hstage.broken_of_ended
    (htaken' _ (Deed.mem_only_iff.mpr ⟨htaken, rfl⟩)) hdone hend
  refine ⟨?_, ?_⟩
  · rw [← hookDeeds_history hbefore hinit h, ← hwhole.hookDeeds_eq rfl htaken, ← hsame, hrounds]
  -- the task is over because it has made its report
  obtain ⟨call', hcall', -, howes⟩ := h.leads.invariant (I := Driven s.runs.length)
    (driven_launch s) fun _ _ _ _ _ hdriven hdoes => hdoes.driven hdriven
  obtain rfl := Option.some.inj (hcall.symm.trans hcall')
  have hresult : call.result? = some (.finished (.failed (.hook (.run hook.name f.message)))) := by
    rw [RunCall.result?, hended]
  have howed : call.owesReport = false := by
    simpa [RunCall.taskOver_of_finished hresult] using hover
  obtain ⟨f', hmade⟩ : ∃ f, .reported s.runs.length f ∈ ds := by simpa [howed] using howes
  have hown : reports s.runs.length (only run? s.runs.length (history ds₀ s start ds)) =
      reports s.runs.length ds := by
    rw [Deed.reports_only, reports_history hbefore]
  have hreports : reports s.runs.length ds = [.failed (.hook (.run hook.name f.message))] := by
    rw [← Deed.mem_reports_iff, ← hown] at hmade
    exact hown ▸ htells.reports_of_finished hresult hmade
  refine ⟨hreports, fun hstays => ?_⟩
  have hcollects : Collects ds c.state.session := h.leads.invariant (I := Collects)
    (collects_launch hcollector) fun _ _ _ _ _ hcollects hdoes => hdoes.collects hcollects
  have hopen : (launch s).collector.isOpen = true := by
    rw [launch_collector, hcollector]
    rfl
  refine hcollects.received (h.isOpen hopen hstays) s.runs.length _ (Deed.mem_reports_iff.mp ?_)
  rw [hreports]
  exact List.mem_singleton_self _

end

/-- **A hook that fails prevents everything behind it.**  Whatever has been done to a session before
its server spins, with an engine that has not been run and a new collector, and however the moves
of the server, its calls and its tasks come after each other:

* the hooks of the engine start in their order and the one that announces behind them, each when
  all before it have passed;
* when a hook fails, none behind it is ever started, the server never serves, no registration is
  left behind and the registry is never called; once the task that drives the run is over, exactly
  the hooks up to the failing one have run, and what has been reported is its fault alone;
* one registration is left behind at most, and the registry is called when all hooks of the engine
  have been run to their ends and have passed. -/
theorem starts_in_order (hbefore : Leads ⟨before, Session.new e r t⟩ ds₀ ⟨start, s⟩)
    (hinit : s.engine.status = .init) (hplain : s.Unannounced)
    (hcollector : s.collector = Collector.new)
    (h : Spins ⟨start, begin s waiter start upcoming⟩ ds c) :
    (∀ earlier i hook later, ds = earlier ++ .hookStarted i hook :: later →
      i = s.runs.length ∧ ∃ done left,
        s.engine.hooks.onRun ++ [Hook.registry] = done ++ hook :: left ∧ Hook.AllPass done ∧
          hookDeeds earlier = rounds i done) ∧
    (∀ done hook left f, s.engine.hooks.onRun = done ++ hook :: left → Hook.AllPass done →
      hook.ending = .failed f →
        hookDeeds ds <+: rounds s.runs.length (done ++ [hook]) ∧ (∀ i, .served i ∉ ds) ∧
          c.state.session.registrations = [] ∧ (∀ info?, .registered info? ∉ ds) ∧
          ∀ call, c.state.session.runs[s.runs.length]? = some call → call.taskOver = true →
            hookDeeds ds = rounds s.runs.length (done ++ [hook]) ∧
              reports s.runs.length ds = [.failed (.hook (.run hook.name f.message))] ∧
              (c.state.exit? = none →
                .failed (.hook (.run hook.name f.message)) ∈ c.state.session.collector.sent)) ∧
    c.state.session.registrations.length ≤ 1 ∧
      ∀ earlier info? later, ds = earlier ++ .registered info? :: later →
        Hook.AllPass s.engine.hooks.onRun ∧
          rounds s.runs.length s.engine.hooks.onRun ++
            [.hookStarted s.runs.length Hook.registry] <+: hookDeeds earlier := by
  refine ⟨fun _ _ _ _ hds => start_order hbefore hinit h hds, ?_,
    registrations_length_le_one hbefore hinit h hplain,
    fun _ _ _ hds => allPass_of_registered hbefore hinit h hplain hds⟩
  intro done hook left f hhooks hdone hend
  -- not all hooks pass, but all have passed before anything that comes behind them
  have hnotall := not_allPass_of_failing hhooks hend
  refine ⟨hookDeeds_prefix_of_failing hbefore hinit h hhooks hend, ?_, ?_, ?_,
    fun _ => reported_of_failing hbefore hinit h hhooks hdone hend hcollector⟩
  · intro i hserved
    exact hnotall fun hook' hmem =>
      allPass_of_served hbefore hinit h hserved hook' (List.mem_append_left _ hmem)
  · refine List.length_eq_zero_iff.mp ?_
    rw [registrations_length_eq hbefore hinit h hplain]
    refine List.countP_eq_zero.mpr fun d hd hannounces => ?_
    exact hnotall
      (allPass_of_announces hbefore hinit h hplain (List.mem_filter.mp hd).1 hannounces).1
  · intro info? hregistered
    obtain ⟨earlier, later, hds⟩ := List.append_of_mem hregistered
    exact hnotall (allPass_of_registered hbefore hinit h hplain hds).1

end

/-- A hook that ends at once. -/
def atOnce (name : String) (ending : HookEnd) : Hook := ⟨name, .call (some ⟨0⟩) ending⟩

/-- A session whose engine has three on-run hooks, the second of which fails. -/
def chilled : Session :=
  Session.new
    { Engine.new (Options.build [.info (Info.named "orders" "127.0.0.1:8888")]) with
      hooks := ⟨[atOnce "load" .passed, atOnce "warm" (.failed (.failed "cold" none)),
        atOnce "prime" .passed], []⟩ }
    Registry.agreeable (.scripted .smooth false)

/-- The second hook fails: the third is not started, nothing is registered, and the fault of the
second is what is reported. -/
theorem starts_in_order_chilled : ∃ ds c,
    Spins ⟨0, begin chilled .standard 0 []⟩ ds c ∧ chilled.engine.status = .init ∧
      chilled.Unannounced ∧ chilled.collector = Collector.new ∧
      hookDeeds ds =
        rounds 0 [atOnce "load" .passed, atOnce "warm" (.failed (.failed "cold" none))] ∧
      c.state.session.registrations = [] ∧
      reports 0 ds = [.failed (.hook (.run "warm" (HookFault.failed "cold" none).message))] ∧
      .failed (.hook (.run "warm" (HookFault.failed "cold" none).message)) ∈
        c.state.session.collector.sent := by
  have hplain : chilled.Unannounced := Session.unannounced_new (by decide) (by decide) _ _
  have hspins : ∃ ds c call, Spins ⟨0, begin chilled .standard 0 []⟩ ds c ∧
      c.state.session.runs[0]? = some call ∧ call.taskOver = true ∧ c.state.exit? = none :=
    ⟨_, _, _, (((((Spins.here.move (m := .inner (.run 0)) rfl).move (m := .inner (.run 0))
      rfl).move (m := .inner (.run 0)) rfl).move (m := .inner (.run 0)) rfl).move
      (m := .inner (.run 0)) rfl).move (m := .inner (.run 0)) rfl, rfl, rfl, rfl⟩
  obtain ⟨ds, c, call, hspins, hcall, hover, hstays⟩ := hspins
  obtain ⟨-, hfailing, -⟩ := starts_in_order .here rfl hplain rfl hspins
  have hload : Hook.AllPass [atOnce "load" .passed] := by
    intro hook hmem
    rw [List.mem_singleton.mp hmem]
    rfl
  obtain ⟨-, -, hnone, -, hends⟩ := hfailing [atOnce "load" .passed] _ [atOnce "prime" .passed]
    (HookFault.failed "cold" none) rfl hload rfl
  obtain ⟨hrounds, hreports, hsent⟩ := hends call hcall hover
  exact ⟨ds, c, hspins, rfl, hplain, rfl, hrounds, hnone, hreports, hsent hstays⟩

end Spin
end Gatehouse
