/-
# Executions of a server that spins

What a server does while it spins comes to acts on its session: it begins a run and starts it, and
behind the waiter's outcome it cancels the registration, calls for the end and, when that call has
returned, stops to read reports.

* `Spin.turn_of_step?`: **all that a server can do**: each case with its act on the session, if it
  comes to one;
* `Spin.Spins.leads`: **what a server does while it spins is an execution of its session**;
* `Spin.Spins.split`: **every deed has its move**.
-/
import Gatehouse.Lifecycle.Spin
import Gatehouse.Proofs.Lifecycle.Executions

namespace Gatehouse
namespace Spin

open Session (Leads)

/-! ## 1. Moves as acts -/

/-- The act on the session that a move comes to. -/
def act? (now : Instant) (x : Spin) : SpinMove → Option Act
  | .inner m => some (.move m)
  | .signal => none
  | .main _ =>
    match x.stage with
    | .resolved _ => some .cancel
    | .leaving (.failed _) => some .callClose
    | .leaving .well =>
      (Instant.after? now x.session.engine.options.exitWait).map .callStop
    | .closing _ _ | .stopping _ =>
      match x.callEnd? with
      | some (.finished _) => some .deafen
      | _ => none
    | _ => none

/-- What a server can do: each case with its act on the session, if it comes to one, and the server
behind it. -/
inductive Turn (now : Instant) (x : Spin) : Option Act → Spin → Prop
  | inner {m : Move} {session : Session} (hstep : x.session.step? now m = some session) :
      Turn now x (some (.move m)) { x with session }
  | signalled {t : Instant} {sig : ProcessSignal} {rest : List (Instant × ProcessSignal)}
      (hcomes : x.upcoming = (t, sig) :: rest) :
      Turn now x none { x with signals := x.signals ++ [sig], upcoming := rest }
  | resolved {f : Finish} (hstage : x.stage = .waiting) (hoffer : f ∈ x.offers now) :
      Turn now x none { x with stage := .resolved f }
  | cancelled {f : Finish} (hstage : x.stage = .resolved f) :
      Turn now x (some .cancel)
        { x with stage := .leaving f, session := { x.session with cancelled := true } }
  | closing {cause : ServiceFault} (hstage : x.stage = .leaving (.failed cause)) :
      Turn now x (some .callClose)
        { x with stage := .closing x.session.closes.length cause, session := x.session.callClose }
  | stopping {deadline : Instant} (hstage : x.stage = .leaving .well)
      (hdeadline : Instant.after? now x.session.engine.options.exitWait = some deadline) :
      Turn now x (some (.callStop deadline))
        { x with stage := .stopping x.session.stops.length, session := x.session.callStop deadline }
  | crashed (hstage : x.stage = .leaving .well)
      (hdeadline : Instant.after? now x.session.engine.options.exitWait = none) :
      Turn now x none { x with stage := .crashed }
  | closed {call : Nat} {cause : ServiceFault} {f : Finish} (hstage : x.stage = .closing call cause)
      (hcall : x.session.closes[call]?.bind CloseCall.ending? = some (.finished f)) :
      Turn now x (some .deafen) (x.leave (.forced cause))
  | closePanicked {call : Nat} {cause : ServiceFault} {p : Panic}
      (hstage : x.stage = .closing call cause)
      (hcall : x.session.closes[call]?.bind CloseCall.ending? = some (.panicked p)) :
      Turn now x none { x with stage := .panicked (.forced cause) p }
  | stopped {call : Nat} {f : Finish} (hstage : x.stage = .stopping call)
      (hcall : x.session.stops[call]?.bind StopCall.ending? = some (.finished f)) :
      Turn now x (some .deafen) (x.leave .graceful)
  | stopPanicked {call : Nat} {p : Panic} (hstage : x.stage = .stopping call)
      (hcall : x.session.stops[call]?.bind StopCall.ending? = some (.panicked p)) :
      Turn now x none { x with stage := .panicked .graceful p }

variable {now : Instant} {x x' : Spin} {m : SpinMove}

/-- **All that a server can do.** -/
theorem turn_of_step? (h : x.step? now m = some x') : x.Turn now (x.act? now m) x' := by
  cases m with
  | inner m =>
    obtain ⟨session, hstep, rfl⟩ := Option.map_eq_some_iff.mp h
    exact .inner hstep
  | signal =>
    simp only [step?, stepSignal?] at h
    split at h
    · rename_i hcomes
      split at h <;> cases h
      exact .signalled hcomes
    · cases h
  | main choice =>
    simp only [step?, stepMain?] at h
    simp only [act?]
    cases hstage : x.stage with
    | waiting =>
      simp only [hstage] at h
      obtain ⟨f, hoffer, rfl⟩ := Option.map_eq_some_iff.mp h
      exact .resolved hstage (List.mem_of_getElem? hoffer)
    | resolved f =>
      simp only [hstage] at h
      cases h
      exact .cancelled hstage
    | leaving f =>
      cases f with
      | failed cause =>
        simp only [hstage] at h
        cases h
        exact .closing hstage
      | well =>
        simp only [hstage] at h
        cases hdeadline : Instant.after? now x.session.engine.options.exitWait with
        | some deadline =>
          simp only [hdeadline] at h
          cases h
          exact .stopping hstage hdeadline
        | none =>
          simp only [hdeadline] at h
          cases h
          exact .crashed hstage hdeadline
    | closing call cause =>
      simp only [hstage, callEnd?] at h ⊢
      obtain ⟨e, hcall, rfl⟩ := Option.map_eq_some_iff.mp h
      simp only [hcall]
      cases e with
      | finished f => exact .closed hstage hcall
      | panicked p => exact .closePanicked hstage hcall
    | stopping call =>
      simp only [hstage, callEnd?] at h ⊢
      obtain ⟨e, hcall, rfl⟩ := Option.map_eq_some_iff.mp h
      simp only [hcall]
      cases e with
      | finished f => exact .stopped hstage hcall
      | panicked p => exact .stopPanicked hstage hcall
    | exited e => simp only [hstage] at h; cases h
    | crashed => simp only [hstage] at h; cases h
    | panicked e p => simp only [hstage] at h; cases h

/-- **A turn of the server is its act on the session**, or leaves the session alone. -/
theorem Turn.session_eq {a? : Option Act} (h : x.Turn now a? x') :
    match a? with
    | some a => x.session.act? now a = some x'.session
    | none => x'.session = x.session := by
  cases h with
  | inner hstep => exact hstep
  | _ => rfl

/-! ## 2. Executions -/

/-- A server that spins comes from one moment to another, and this is done in its session in
between, in order. -/
inductive Spins (c : Clocked Spin) : List Deed → Clocked Spin → Prop
  | here : Spins c [] c
  | move {ds : List Deed} {c₁ : Clocked Spin} {m : SpinMove} {x : Spin} (before : Spins c ds c₁)
      (hstep : c₁.state.step? c₁.now m = some x) :
      Spins c (ds ++ ((c₁.state.act? c₁.now m).map (c₁.state.session.deed c₁.now)).toList)
        ⟨c₁.now, x⟩
  | wait {ds : List Deed} {c₁ : Clocked Spin} {t : Instant} (before : Spins c ds c₁)
      (hlater : c₁.now ≤ t) : Spins c ds ⟨t, c₁.state⟩

/-- The session of a server, at a moment. -/
def inner (c : Clocked Spin) : Clocked Session := ⟨c.now, c.state.session⟩

variable {c c' : Clocked Spin} {ds : List Deed}

/-- **What a server does while it spins is an execution of its session.** -/
theorem Spins.leads (h : Spins c ds c') : Leads (inner c) ds (inner c') := by
  induction h with
  | here => exact .here
  | @move ds c₁ m x before hstep ih =>
    have hturn := turn_of_step? hstep
    cases hact : c₁.state.act? c₁.now m with
    | some a =>
      rw [hact] at hturn
      exact ih.act hturn.session_eq
    | none =>
      rw [hact] at hturn
      have hsame : inner ⟨c₁.now, x⟩ = inner c₁ := congrArg (Clocked.mk c₁.now) hturn.session_eq
      rw [Option.map_none, Option.toList_none, List.append_nil, hsame]
      exact ih
  | wait before hlater ih => exact ih.wait hlater

/-- What every move and every wait keeps, every execution keeps. -/
theorem Spins.invariant {I : Clocked Spin → Prop} (hstart : I c)
    (hturn : ∀ now x a? x', I ⟨now, x⟩ → x.Turn now a? x' → I ⟨now, x'⟩)
    (hwait : ∀ now t x, I ⟨now, x⟩ → now ≤ t → I ⟨t, x⟩) (h : Spins c ds c') : I c' := by
  induction h with
  | here => exact hstart
  | move before hstep ih => exact hturn _ _ _ _ ih (turn_of_step? hstep)
  | wait before hlater ih => exact hwait _ _ _ ih hlater

/-- What every turn keeps along with what it does, every execution keeps. -/
theorem Spins.invariant_deeds {I : List Deed → Spin → Prop} (hstart : I [] c.state)
    (hturn : ∀ now ds x a? x', I ds x → x.Turn now a? x' →
      I (ds ++ (a?.map (x.session.deed now)).toList) x') (h : Spins c ds c') : I ds c'.state := by
  induction h with
  | here => exact hstart
  | move before hstep ih => exact hturn _ _ _ _ _ ih (turn_of_step? hstep)
  | wait before hlater ih => exact ih

theorem Spins.trans {c₂ : Clocked Spin} {ds₂ : List Deed} (h : Spins c ds c')
    (h₂ : Spins c' ds₂ c₂) : Spins c (ds ++ ds₂) c₂ := by
  induction h₂ with
  | here => rw [List.append_nil]; exact h
  | move before hstep ih => rw [← List.append_assoc]; exact .move ih hstep
  | wait before hlater ih => exact .wait ih hlater

/-- **Every deed has its move**: an execution leads up to it and another on from it. -/
theorem Spins.split {before after : List Deed} {d : Deed}
    (h : Spins c (before ++ d :: after) c') :
    ∃ c₁ m a x, Spins c before c₁ ∧ c₁.state.step? c₁.now m = some x ∧
      c₁.state.act? c₁.now m = some a ∧ c₁.state.session.deed c₁.now a = d ∧
      Spins ⟨c₁.now, x⟩ after c' := by
  generalize hds : before ++ d :: after = ds at h
  induction h generalizing after with
  | here => exact absurd hds (by simp)
  | @move ds c₁ m x hbefore hstep ih =>
    cases hact : c₁.state.act? c₁.now m with
    | none =>
      have hsame : before ++ d :: after = ds := by simpa [hact] using hds
      obtain ⟨c₀, m₀, a₀, x₀, hfirst, hstep₀, hact₀, hdeed₀, hafter⟩ := ih hsame
      refine ⟨c₀, m₀, a₀, x₀, hfirst, hstep₀, hact₀, hdeed₀, ?_⟩
      simpa [hact] using hafter.move hstep
    | some a =>
      rw [hact, Option.map_some, Option.toList_some] at hds
      rcases List.eq_nil_or_concat after with rfl | ⟨after, last, rfl⟩
      · obtain ⟨rfl, hd⟩ := List.append_inj' hds rfl
        obtain rfl := List.cons.inj hd |>.1
        exact ⟨c₁, m, a, x, hbefore, hstep, hact, rfl, .here⟩
      · have hcut : (before ++ d :: after) ++ [last] = ds ++ [c₁.state.session.deed c₁.now a] := by
          rw [← hds]
          simp
        obtain ⟨hfirst, hlast⟩ := List.append_inj' hcut rfl
        obtain ⟨c₀, m₀, a₀, x₀, hfirst₀, hstep₀, hact₀, hdeed₀, hafter⟩ := ih hfirst
        obtain rfl := List.cons.inj hlast |>.1
        refine ⟨c₀, m₀, a₀, x₀, hfirst₀, hstep₀, hact₀, hdeed₀, ?_⟩
        simpa [hact] using hafter.move hstep
  | wait hbefore hlater ih =>
    obtain ⟨c₀, m₀, a₀, x₀, hfirst₀, hstep₀, hact₀, hdeed₀, hafter⟩ := ih hds
    exact ⟨c₀, m₀, a₀, x₀, hfirst₀, hstep₀, hact₀, hdeed₀, hafter.wait hlater⟩

/-! ## 3. The beginning -/

/-- A session whose engine announces its instance behind its other on-run hooks. -/
def announcing (s : Session) : Session :=
  { s with engine := s.engine.addRunHook Hook.registry }

theorem runs_callRun (s : Session) :
    ∃ stage, s.callRun.runs = s.runs ++ [⟨stage, false, false⟩] := by
  unfold Session.callRun
  split <;> exact ⟨_, rfl⟩

/-- The run that a server begins with stands behind those that there were.  It is started as a task
that reports. -/
theorem launch_eq (s : Session) :
    ∃ stage, (announcing s).callRun.runs = s.runs ++ [⟨stage, false, false⟩] ∧
      launch s = (announcing s).callRun.start s.runs.length true ∧
      (launch s).runs = s.runs ++ [⟨stage, true, true⟩] := by
  obtain ⟨stage, hruns⟩ := runs_callRun (announcing s)
  have hlength : (announcing s).callRun.runs.length - 1 = s.runs.length := by
    rw [hruns, List.length_append, List.length_singleton, Nat.add_sub_cancel]
    rfl
  have hlaunch : launch s = (announcing s).callRun.start s.runs.length true := by
    rw [← hlength]
    rfl
  refine ⟨stage, hruns, hlaunch, ?_⟩
  have hlast : (announcing s).callRun.runs[s.runs.length]? = some ⟨stage, false, false⟩ := by
    rw [hruns]
    exact List.getElem?_concat_length
  rw [hlaunch, Session.start, Session.modify_eq_set_of_getElem? hlast, hruns]
  exact List.set_append_right _ _ (Nat.le_refl _) |>.trans (by simp [announcing])

/-- **A server that begins to spin** adds a hook, calls for a run and starts it. -/
theorem leads_launch (s : Session) (now : Instant) :
    Leads ⟨now, s⟩ [.quiet, (announcing s).deed now .callRun, .quiet] ⟨now, launch s⟩ := by
  obtain ⟨stage, hruns, hlaunch, -⟩ := launch_eq s
  have hstart : (announcing s).callRun.act? now (.start s.runs.length true) = some (launch s) := by
    have hlast : (announcing s).callRun.runs[s.runs.length]? = some ⟨stage, false, false⟩ := by
      rw [hruns]
      exact List.getElem?_concat_length
    simp only [Session.act?, hlast, hlaunch]
    rfl
  have hlaunched : Leads ⟨now, (announcing s).callRun⟩ [.quiet] ⟨now, launch s⟩ :=
    Leads.cons (c := ⟨now, (announcing s).callRun⟩) (a := .start s.runs.length true) hstart .here
  have hcalled : Leads ⟨now, announcing s⟩ [(announcing s).deed now .callRun, .quiet]
      ⟨now, launch s⟩ := Leads.cons (c := ⟨now, announcing s⟩) (a := .callRun) rfl hlaunched
  exact Leads.cons (c := ⟨now, s⟩) (a := .addRunHook Hook.registry) rfl hcalled

end Spin
end Gatehouse
