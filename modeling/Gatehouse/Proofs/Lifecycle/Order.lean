/-
# The lifecycle of an engine

An engine is run once, stopped once and never brought back, in whatever order its callers and its
tasks take their turns.

* `Deed.Orderly`: what the deeds of a lifecycle keep to;
* `Session.leads_orderly`: **every execution of a fresh session is orderly**, its status never goes
  back, and calls that come too late are refused.
-/
import Gatehouse.Proofs.Lifecycle.RunHistory
import Gatehouse.Proofs.Lifecycle.StopHistory

namespace Gatehouse

/-! ## 1. Orderly deeds -/

namespace Deed

def takesRun : Deed → Bool
  | runTaken _ _ => true
  | _ => false

def serves : Deed → Bool
  | served _ => true
  | _ => false

def takesStop : Deed → Bool
  | stopTaken _ _ _ => true
  | _ => false

def deregisters : Deed → Bool
  | deregistered _ _ => true
  | _ => false

def beginsDrain : Deed → Bool
  | drained _ _ => true
  | _ => false

def startsTask (j : Nat) : Deed → Bool
  | taskStarted i _ => i = j
  | _ => false

/-- From here on the engine is not to serve. -/
def halts : Deed → Bool
  | stopTaken _ _ _ => true
  | closeCalled => true
  | _ => false

/-- What the deeds of a lifecycle keep to, when this is to be deregistered. -/
structure Orderly (info? : Option Info) (ds : List Deed) : Prop where
  run_once : ds.countP takesRun ≤ 1
  serve_once : ds.countP serves ≤ 1
  /-- Serving is what a run does behind its look at the status, when all its hooks have passed, one
  after the other. -/
  serve_last : ∀ before i after, ds = before ++ .served i :: after →
    ∃ hooks, Hook.AllPass hooks ∧
      only run? i before = upTo i hooks hooks ++ [.looked i .running]
  /-- A run that looks at the status too late keeps the engine from ever serving. -/
  serve_never : ∀ before i status after, ds = before ++ .looked i status :: after →
    (∃ d ∈ before, d.halts = true) → ds.countP serves = 0
  stop_once : ds.countP takesStop ≤ 1
  deregister_once : ds.countP deregisters ≤ 1
  drain_once : ds.countP beginsDrain ≤ 1
  start_once : ∀ j, ds.countP (startsTask j) ≤ 1
  /-- A shutdown does nothing at all, is refused and does nothing more, or does these things in this
  order, as far as it comes. -/
  stop_order : ∀ k, only stop? k ds = [] ∨ only stop? k ds = [.stopRefused k] ∨
    ∃ deadline hooks before, only stop? k ds = .stopTaken k deadline hooks :: before ∧
      before <+: toRegistry k info? ++ [.drained k deadline]
  /-- Tasks have the hooks of a shutdown that is taken. -/
  start_taken : ∀ j h, .taskStarted j h ∈ ds →
    ∃ k deadline hooks, .stopTaken k deadline hooks ∈ ds ∧ hooks[j]? = some h

end Deed

/-! ## 2. What histories say -/

section

open Deed

variable {i : Nat} {ds : List Deed}

theorem countP_serves_upTo (hooks done : List Hook) : (upTo i hooks done).countP serves = 0 := by
  refine List.countP_eq_zero.mpr fun d hd => ?_
  rcases mem_upTo_iff.mp hd with rfl | ⟨h, -, rfl | rfl⟩ <;> exact nofun

theorem RunTells.countP_serves {c : RunCall} (h : RunTells i ds c) : ds.countP serves ≤ 1 := by
  have hstages : ∀ {ds : List Deed} {stage : RunStage}, StageTells i ds stage →
      ds.countP serves ≤ 1 := by
    intro ds stage h
    cases h <;> simp [countP_serves_upTo, serves]
  cases h with
  | unreported h => exact hstages h
  | reported h =>
    rw [List.countP_append]
    exact hstages h

theorem StageTells.taken {stage : RunStage} (h : StageTells i ds stage) :
    (∃ hooks, .runTaken i hooks ∈ ds) ∨
      ds = [.runRefused i] ∧ stage = .ended (.finished (.failed .alreadyRunning)) := by
  cases h with
  | refused => exact Or.inr ⟨rfl, rfl⟩
  | _ => exact Or.inl ⟨_, List.mem_cons_self⟩

/-- A call to run that is not taken is answered that the engine is running already. -/
theorem RunTells.taken_or_refused {c : RunCall} (h : RunTells i ds c) :
    (∃ hooks, .runTaken i hooks ∈ ds) ∨
      c.result? = some (.finished (.failed .alreadyRunning)) := by
  cases h with
  | unreported h =>
    rcases h.taken with htaken | ⟨-, hstage⟩
    · exact Or.inl htaken
    · refine Or.inr ?_
      rw [RunCall.result?, hstage]
  | reported h =>
    rcases h.taken with ⟨hooks, hmem⟩ | ⟨-, hstage⟩
    · exact Or.inl ⟨hooks, List.mem_append_left _ hmem⟩
    · refine Or.inr ?_
      rw [RunCall.result?, hstage]

theorem RunTells.taken_of_looked {c : RunCall} (h : RunTells i ds c) {status : Status}
    (hlooked : .looked i status ∈ ds) : ∃ hooks, .runTaken i hooks ∈ ds := by
  cases h with
  | unreported h =>
    rcases h.taken with htaken | ⟨rfl, -⟩
    · exact htaken
    · simp at hlooked
  | reported h =>
    rcases h.taken with ⟨hooks, hmem⟩ | ⟨rfl, -⟩
    · exact ⟨hooks, List.mem_append_left _ hmem⟩
    · simp at hlooked

/-- A run that has served has seen the engine running, and nothing else. -/
theorem RunTells.looked_of_served {c : RunCall} (h : RunTells i ds c) (hserved : .served i ∈ ds) :
    .looked i .running ∈ ds ∧ ∀ status, .looked i status ∈ ds → status = .running := by
  have hstages : ∀ {ds : List Deed} {stage : RunStage}, StageTells i ds stage → .served i ∈ ds →
      .looked i .running ∈ ds ∧ ∀ status, .looked i status ∈ ds → status = .running := by
    intro ds stage h hserved
    cases h <;> simp_all [mem_upTo_iff]
  cases h with
  | unreported h => exact hstages h hserved
  | reported h => simpa using hstages h (by simpa using hserved)

variable {info? : Option Info} {reply : RegistryReply} {k : Nat}

/-- What a shutdown has done, in order. -/
theorem StopTells.order {c : StopCall} (h : StopTells info? reply k ds c) :
    ds = [.stopRefused k] ∨ ∃ deadline hooks before, ds = .stopTaken k deadline hooks :: before ∧
      before <+: toRegistry k info? ++ [.drained k deadline] := by
  induction h with
  | refused => exact Or.inl rfl
  | begun => exact Or.inr ⟨_, _, _, rfl, List.nil_prefix⟩
  | deregistering hinfo => exact Or.inr ⟨_, _, _, rfl, List.prefix_append _ _⟩
  | deregistered => exact Or.inr ⟨_, _, _, rfl, List.prefix_append _ _⟩
  | draining => exact Or.inr ⟨_, _, _, rfl, List.prefix_rfl⟩
  | joining => exact Or.inr ⟨_, _, _, rfl, List.prefix_rfl⟩
  | returned => exact Or.inr ⟨_, _, _, rfl, List.prefix_rfl⟩
  | panicked => exact Or.inr ⟨_, _, _, rfl, List.prefix_rfl⟩
  | abandoned h ih => exact ih

/-- A shutdown that asks one of its collaborators has been taken. -/
theorem StopTells.taken_of_asks {c : StopCall} (h : StopTells info? reply k ds c) {d : Deed}
    (hd : d ∈ ds) (hasks : d ≠ .stopRefused k) :
    ∃ deadline hooks, .stopTaken k deadline hooks ∈ ds := by
  rcases h.order with rfl | ⟨deadline, hooks, before, rfl, -⟩
  · exact absurd (List.mem_singleton.mp hd) hasks
  · exact ⟨deadline, hooks, List.mem_cons_self⟩

/-- A shutdown asks each of its collaborators once. -/
theorem StopTells.asks_once {c : StopCall} (h : StopTells info? reply k ds c) :
    ds.countP deregisters ≤ 1 ∧ ds.countP beginsDrain ≤ 1 := by
  rcases h.order with rfl | ⟨deadline, hooks, before, rfl, hbefore⟩
  · exact ⟨Nat.zero_le 1, Nat.zero_le 1⟩
  · have hwhole : (toRegistry k info? ++ [Deed.drained k deadline]).countP deregisters ≤ 1 ∧
        (toRegistry k info? ++ [Deed.drained k deadline]).countP beginsDrain ≤ 1 := by
      cases info? <;> simp [toRegistry, deregisters, beginsDrain, List.countP_cons]
    rw [List.countP_cons_of_neg (by exact nofun), List.countP_cons_of_neg (by exact nofun)]
    exact ⟨Nat.le_trans hbefore.sublist.countP_le hwhole.1,
      Nat.le_trans hbefore.sublist.countP_le hwhole.2⟩

theorem TaskTells.countP_startsTask {j : Nat} {t : HookTask} (h : TaskTells j ds t) :
    ds.countP (startsTask j) ≤ 1 := by
  cases h <;> simp [startsTask]

theorem TaskTells.hook_of_started {j : Nat} {t : HookTask} {hook : Hook} (h : TaskTells j ds t)
    (hstarted : .taskStarted j hook ∈ ds) : t.hook = hook := by
  cases h <;> simp_all

end

/-! ## 3. Calls that are taken -/

namespace Session

open Deed

variable {now : Instant} {s s' : Session} {i j : Nat} {d : Deed} {ds : List Deed}
  {c c' : Clocked Session}

/-- A call to run is taken from the start, and a call to shut down from a running engine. -/
theorem Does.taken_at (h : Does now s d s') :
    (d.takesRun = true → s.engine.status = .init) ∧
      (d.takesStop = true → s.engine.status = .running) := by
  have neither (hrun : d.takesRun = false) (hstop : d.takesStop = false) :
      (d.takesRun = true → s.engine.status = .init) ∧
        (d.takesStop = true → s.engine.status = .running) := by
    simp [hrun, hstop]
  cases h with
  | runTaken hstatus => exact ⟨fun _ => hstatus, by simp [takesStop]⟩
  | stopTaken hstatus deadline => exact ⟨by simp [takesRun], fun _ => hstatus⟩
  | run hcall hstarted hturn => cases hturn <;> exact neither rfl rfl
  | stop hcall hturn => cases hturn <;> exact neither rfl rfl
  | task htask hturn => cases hturn <;> exact neither rfl rfl
  | registration hcall hready registryFirst hdeed =>
    refine neither ?_ ?_ <;>
    · rw [← hdeed, registrationDeed]
      split <;> rfl
  | _ => exact neither rfl rfl

namespace Leads

/-- **What is done at one status only, and leaves it behind**, is done at most once. -/
theorem countP_le_one_of_rank {p : Deed → Bool} {n : Nat}
    (hleaves : ∀ now s d s', Does now s d s' → p d = true →
      s.engine.status.rank = n ∧ s'.engine.status.rank = n + 1) (h : Leads c ds c') :
    ds.countP p ≤ 1 := by
  have hcredit := countP_le p (fun s => min 1 (n + 1 - s.engine.status.rank)) ?_ h
  · omega
  · intro now s d s' hdoes
    have hrank := hdoes.rank_le
    split
    · rename_i hd
      obtain ⟨hbefore, hafter⟩ := hleaves now s d s' hdoes hd
      omega
    · omega

/-- **At most one call to run is taken.**  An engine leaves its first status once. -/
theorem run_once (h : Leads c ds c') : ds.countP takesRun ≤ 1 := by
  refine countP_le_one_of_rank (n := 0) (fun now s d s' hdoes hd => ⟨?_, ?_⟩) h
  · rw [hdoes.taken_at.1 hd]
    rfl
  · rw [hdoes.status_eq]
    cases d <;> first | rfl | cases hd

/-- **At most one call to shut down is taken.**  An engine leaves the status of running once. -/
theorem stop_once (h : Leads c ds c') : ds.countP takesStop ≤ 1 := by
  refine countP_le_one_of_rank (n := 1) (fun now s d s' hdoes hd => ⟨?_, ?_⟩) h
  · rw [hdoes.taken_at.2 hd]
    rfl
  · rw [hdoes.status_eq]
    cases d <;> first | rfl | cases hd

/-- **Behind the end of an engine its status says so.** -/
theorem rank_of_halts (h : Leads c ds c') (hd : d ∈ ds) (hhalts : d.halts = true) :
    2 ≤ c'.state.engine.status.rank := by
  obtain ⟨before, after, rfl⟩ := List.append_of_mem hd
  obtain ⟨c₁, s, -, hdoes, hafter⟩ := h.split
  have hrank : 2 ≤ s.engine.status.rank := by
    rw [hdoes.status_eq]
    cases d <;> first | exact Nat.le_refl 2 | exact Nat.le_succ 2 | cases hhalts
  exact Nat.le_trans hrank hafter.rank_le

end Leads

/-! ## 4. Runs of an execution -/

/-- A run that begins to serve has been cleared for it. -/
theorem Does.cleared_of_served (h : Does now s (.served i) s') :
    ∃ c, s.runs[i]? = some c ∧ c.stage = .cleared := by
  rcases h.runTurn rfl with ⟨hooks, hd⟩ | hd | ⟨c, hcall, -, hturn⟩
  · cases hd
  · cases hd
  · cases hturn with
    | served hstage => exact ⟨c, hcall, hstage⟩

theorem Does.status_of_looked {status : Status} (h : Does now s (.looked i status) s') :
    status = s.engine.status := by
  rcases h.runTurn rfl with ⟨hooks, hd⟩ | hd | ⟨c, -, -, hturn⟩
  · cases hd
  · cases hd
  · cases hturn with
    | looked hstage => rfl

namespace Leads

section

variable (h : Leads c ds c') (hruns : c.state.runs = [])
include h hruns

theorem taken_of_looked {status : Status} (hlooked : .looked i status ∈ ds) :
    ∃ hooks, .runTaken i hooks ∈ ds := by
  obtain ⟨call, -, htells, hown⟩ := (h.runsTell hruns).exists_entry hlooked rfl
  obtain ⟨hooks, htaken⟩ := htells.taken_of_looked hown
  exact ⟨hooks, (mem_only_iff.mp htaken).1⟩

theorem looked_of_served (hserved : .served i ∈ ds) :
    .looked i .running ∈ ds ∧ ∀ status, .looked i status ∈ ds → status = .running := by
  obtain ⟨call, -, htells, hown⟩ := (h.runsTell hruns).exists_entry hserved rfl
  obtain ⟨hlooked, hrunning⟩ := htells.looked_of_served hown
  exact ⟨(mem_only_iff.mp hlooked).1, fun status hstatus =>
    hrunning status (mem_only_iff.mpr ⟨hstatus, rfl⟩)⟩

theorem serve_once : ds.countP serves ≤ 1 := by
  refine countP_le_one run? h.run_once ?_ ?_
  · intro d hd hserves
    cases d with
    | served i =>
      obtain ⟨hooks, htaken⟩ := h.taken_of_looked hruns (h.looked_of_served hruns hd).1
      exact ⟨i, rfl, _, htaken, rfl, rfl⟩
    | _ => cases hserves
  · intro i
    rcases (h.runsTell hruns).cases i with hnone | ⟨call, -, htells⟩
    · rw [hnone]
      exact Nat.zero_le 1
    · exact htells.countP_serves

/-- **Serving comes behind a look at the status**, and that behind all hooks. -/
theorem serve_last {before after : List Deed} (hds : ds = before ++ .served i :: after) :
    ∃ hooks, Hook.AllPass hooks ∧
      only run? i before = upTo i hooks hooks ++ [.looked i .running] := by
  subst hds
  obtain ⟨c₁, s, hbefore, hdoes, -⟩ := h.split
  obtain ⟨call, hcall, hstage⟩ := hdoes.cleared_of_served
  have htells := ((hbefore.runsTell hruns).tells i call hcall).stageTells hstage nofun
  generalize only run? i before = history at htells
  cases htells with
  | cleared hpass => exact ⟨_, hpass, rfl⟩
  | broken hdone hbreaks => cases hbreaks

/-- **A look at the status behind the end of the engine** keeps it from ever serving. -/
theorem serve_never {status : Status} {before after : List Deed}
    (hds : ds = before ++ .looked i status :: after) (hhalted : ∃ d ∈ before, d.halts = true) :
    ds.countP serves = 0 := by
  obtain ⟨d, hd, hhalts⟩ := hhalted
  have hlooked : .looked i status ∈ ds := by
    rw [hds]
    exact List.mem_append_right _ List.mem_cons_self
  have hrank : 2 ≤ status.rank := by
    subst hds
    obtain ⟨c₁, s, hbefore, hdoes, -⟩ := h.split
    rw [hdoes.status_of_looked]
    exact hbefore.rank_of_halts hd hhalts
  refine List.countP_eq_zero.mpr fun d' hd' hserves => ?_
  cases d' with
  | served j =>
    -- whoever has served is the one run that is taken, which has looked once
    obtain ⟨hrunning, honly⟩ := h.looked_of_served hruns hd'
    obtain ⟨hooks, htaken⟩ := h.taken_of_looked hruns hlooked
    obtain ⟨hooks', htaken'⟩ := h.taken_of_looked hruns hrunning
    have heq := eq_of_countP_le_one h.run_once htaken rfl htaken' rfl
    cases heq
    rw [honly status hlooked] at hrank
    exact absurd hrank (by decide)
  | _ => cases hserves

end

/-! ## 5. Shutdowns and tasks of an execution -/

section

variable (h : Leads c ds c') (hstops : c.state.stops = [])
include h hstops

theorem stop_order (k : Nat) : only stop? k ds = [] ∨ only stop? k ds = [.stopRefused k] ∨
    ∃ deadline hooks before, only stop? k ds = .stopTaken k deadline hooks :: before ∧
      before <+: toRegistry k c.state.engine.options.info? ++ [.drained k deadline] := by
  rcases (h.stopsTell hstops).cases k with hnone | ⟨call, -, htells⟩
  · exact Or.inl hnone
  · rw [h.options_eq.1] at htells
    exact Or.inr htells.order

/-- What the one shutdown that is taken asks once is asked once. -/
theorem asks_once {p : Deed → Bool} (hp : p = deregisters ∨ p = beginsDrain) : ds.countP p ≤ 1 := by
  refine countP_le_one stop? h.stop_once ?_ ?_
  · intro d hd hasks
    have hstop : ∃ k, d.stop? = some k ∧ d ≠ .stopRefused k := by
      cases d with
      | deregistered k info => exact ⟨k, rfl, nofun⟩
      | drained k deadline => exact ⟨k, rfl, nofun⟩
      | _ => rcases hp with rfl | rfl <;> cases hasks
    obtain ⟨k, hk, hrefused⟩ := hstop
    obtain ⟨call, -, htells, hown⟩ := (h.stopsTell hstops).exists_entry hd hk
    obtain ⟨deadline, hooks, htaken⟩ := htells.taken_of_asks hown hrefused
    exact ⟨k, hk, _, (mem_only_iff.mp htaken).1, rfl, rfl⟩
  · intro k
    rcases (h.stopsTell hstops).cases k with hnone | ⟨call, -, htells⟩
    · rw [hnone]
      exact Nat.zero_le 1
    · rcases hp with rfl | rfl
      · exact htells.asks_once.1
      · exact htells.asks_once.2

end

section

variable (h : Leads c ds c') (htasks : c.state.hookTasks.tasks = [])
include h htasks

theorem start_once (j : Nat) : ds.countP (startsTask j) ≤ 1 := by
  have howner : ∀ d ∈ ds, startsTask j d = true → d.task? = some j := by
    intro d _ hstarts
    cases d with
    | taskStarted i hook => exact congrArg some (of_decide_eq_true hstarts)
    | _ => cases hstarts
  rw [← countP_only howner]
  rcases (h.tasksTell htasks).histories.cases j with hnone | ⟨t, -, htells⟩
  · rw [hnone]
    exact Nat.zero_le 1
  · exact htells.countP_startsTask

theorem start_taken {hook : Hook} (hstarted : .taskStarted j hook ∈ ds) :
    ∃ k deadline hooks, .stopTaken k deadline hooks ∈ ds ∧ hooks[j]? = some hook := by
  have htell := h.tasksTell htasks
  obtain ⟨t, ht, htells, hown⟩ := htell.histories.exists_entry hstarted rfl
  have hsome : c'.state.hookTasks.tasks ≠ [] := by
    intro hnone
    rw [hnone] at ht
    cases ht
  obtain ⟨k, deadline, htaken⟩ := htell.taken hsome
  refine ⟨k, deadline, _, htaken, ?_⟩
  rw [List.getElem?_map, ht, ← htells.hook_of_started hown]
  rfl

end

/-! ## 6. Orderly executions -/

/-- **Every execution without calls under way at its start is orderly.** -/
theorem orderly (h : Leads c ds c') (hruns : c.state.runs = []) (hstops : c.state.stops = [])
    (htasks : c.state.hookTasks.tasks = []) : Orderly c.state.engine.options.info? ds where
  run_once := h.run_once
  serve_once := h.serve_once hruns
  serve_last _ _ _ hds := h.serve_last hruns hds
  serve_never _ _ _ _ hds hhalted := h.serve_never hruns hds hhalted
  stop_once := h.stop_once
  deregister_once := h.asks_once hstops (Or.inl rfl)
  drain_once := h.asks_once hstops (Or.inr rfl)
  start_once := h.start_once htasks
  stop_order := h.stop_order hstops
  start_taken _ _ hstarted := h.start_taken htasks hstarted

end Leads

/-- **The lifecycle of an engine.**  Whatever is done to a fresh session and in whatever order, its
deeds are orderly and its status goes on only forwards.  A call to run that is not taken is answered
that the engine is running already, and a call to shut down an engine that is not running is refused
and changes nothing else. -/
theorem leads_orderly {e : Engine} {r : Registry} {t : Transport} {start : Instant}
    (h : Leads ⟨start, new e r t⟩ ds c) :
    Orderly e.options.info? ds ∧
      (∀ ds' c', Leads c ds' c' → c.state.engine.status.rank ≤ c'.state.engine.status.rank) ∧
      (∀ i call, c.state.runs[i]? = some call →
        (∃ hooks, .runTaken i hooks ∈ ds) ∨
          call.result? = some (.finished (.failed .alreadyRunning))) ∧
      (c.state.engine.status ≠ .running → ∀ deadline,
        c.state.deed c.now (.callStop deadline) = .stopRefused c.state.stops.length ∧
          c.state.callStop deadline = { c.state with
            stops := c.state.stops ++ [⟨deadline, .returned (.failed .notRunning)⟩] }) := by
  refine ⟨h.orderly rfl rfl rfl, fun _ _ hlater => hlater.rank_le, ?_, ?_⟩
  · intro i call hcall
    rcases ((h.runsTell rfl).tells i call hcall).taken_or_refused with ⟨hooks, htaken⟩ | hresult
    · exact Or.inl ⟨hooks, (mem_only_iff.mp htaken).1⟩
    · exact Or.inr hresult
  · intro hstatus deadline
    refine ⟨if_neg hstatus, ?_⟩
    unfold callStop
    split
    · exact absurd ‹_› hstatus
    · rfl

/-- An engine with an instance to announce and a hook of each kind, the second of which panics. -/
def busy : Engine :=
  { Engine.new { Options.standard with info? := some (.named "orders" "10.0.0.7:80") } with
    hooks := ⟨[⟨"warm", .call (some (.ofMillis 5)) .passed⟩],
      [⟨"flush", .call (some (.ofMillis 20)) (.panicked .other)⟩]⟩ }

/-- A transport that serves until it is stopped, and takes its time to be drained. -/
def patient : Transport :=
  .scripted { TransportScript.smooth with drainTime := some (.ofMillis 10) } false

/-- Two calls to run, two to shut down and one to close, with all that they lead to. -/
def busyDay : List Cue :=
  [.act .callRun, .act .callRun, .act (.start 0 true), .act (.start 1 true),
    .act (.move (.run 0)), .wait 5000000, .act (.move (.run 0)), .act (.move (.run 1)),
    .act (.move (.run 0)), .act (.move (.run 0)), .act (.move (.run 0)),
    .act (.callStop 100000000), .act (.callStop 100000000), .act (.move (.hook 0)),
    .act (.move (.stop 0)), .act (.move (.stop 0)), .act (.move (.stop 0)),
    .wait 15000000, .act (.move (.stop 0)), .act (.move (.run 0)), .act (.move (.run 0)),
    .wait 25000000, .act (.move (.hook 0)), .act (.move (.stop 0)),
    .act .callClose, .act (.move (.close 0))]

/-- A day on which the engine serves, is drained and closed, each once. -/
theorem leads_orderly_busy :
    ∃ ds c, follow? ⟨0, new busy Registry.agreeable patient⟩ busyDay = some (ds, c) ∧
      ds.countP serves = 1 ∧ ds.countP beginsDrain = 1 ∧ ds.countP deregisters = 1 ∧
      c.state.engine.status = .closed ∧ Orderly busy.options.info? ds := by
  have hday : ∃ ds c, follow? ⟨0, new busy Registry.agreeable patient⟩ busyDay = some (ds, c) ∧
      ds.countP serves = 1 ∧ ds.countP beginsDrain = 1 ∧ ds.countP deregisters = 1 ∧
      c.state.engine.status = .closed := ⟨_, _, rfl, rfl, rfl, rfl, rfl⟩
  obtain ⟨ds, c, hfollow, hserves, hdrains, hderegisters, hclosed⟩ := hday
  exact ⟨ds, c, hfollow, hserves, hdrains, hderegisters, hclosed,
    (leads_orderly (leads_of_follow? hfollow)).1⟩

end Session
end Gatehouse
