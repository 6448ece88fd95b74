/-
# Executions of a session

An execution is any sequence of acts that are possible one after the other, with the clock going on
as it likes in between.  It is told by its deeds.

* `Session.Leads.invariant`: **what every deed keeps, every execution keeps**;
* `Session.Leads.split`: **every deed has its moment**, with an execution up to it and one from it
  on;
* `Session.Leads.countP_le`: what spends a credit that nothing refills is done no oftener than the
  credit lasts;
* `Machine.run_keeps`: what every step and every wait keeps, a machine keeps;
* `Session.exists_leads_run`: what a session does by itself is one of its executions.
-/
import Gatehouse.Proofs.Lifecycle.Deeds

namespace Gatehouse
namespace Session

/-! ## 1. From moment to moment -/

/-- A session comes from one moment to another, and this is done in between, in order. -/
inductive Leads (c : Clocked Session) : List Deed → Clocked Session → Prop
  | here : Leads c [] c
  | act {ds : List Deed} {c₁ : Clocked Session} {a : Act} {s : Session} (before : Leads c ds c₁)
      (hact : c₁.state.act? c₁.now a = some s) :
      Leads c (ds ++ [c₁.state.deed c₁.now a]) ⟨c₁.now, s⟩
  | wait {ds : List Deed} {c₁ : Clocked Session} {t : Instant} (before : Leads c ds c₁)
      (hlater : c₁.now ≤ t) : Leads c ds ⟨t, c₁.state⟩

variable {c c' : Clocked Session} {ds : List Deed}

namespace Leads

/-- **What every deed keeps, every execution keeps.** -/
theorem invariant {I : List Deed → Session → Prop} (hstart : I [] c.state)
    (hstep : ∀ now ds s d s', I ds s → Does now s d s' → I (ds ++ [d]) s') (h : Leads c ds c') :
    I ds c'.state := by
  induction h with
  | here => exact hstart
  | act before hact ih => exact hstep _ _ _ _ _ ih (does_of_act? hact)
  | wait before hlater ih => exact ih

/-- What every deed and every wait keeps, every execution keeps. -/
theorem invariant_clocked {I : Clocked Session → Prop} (hstart : I c)
    (hstep : ∀ now s d s', I ⟨now, s⟩ → Does now s d s' → I ⟨now, s'⟩)
    (hwait : ∀ now t s, I ⟨now, s⟩ → now ≤ t → I ⟨t, s⟩) (h : Leads c ds c') : I c' := by
  induction h with
  | here => exact hstart
  | act before hact ih => exact hstep _ _ _ _ ih (does_of_act? hact)
  | wait before hlater ih => exact hwait _ _ _ ih hlater

theorem trans {c₂ : Clocked Session} {ds₂ : List Deed} (h : Leads c ds c') (h₂ : Leads c' ds₂ c₂) :
    Leads c (ds ++ ds₂) c₂ := by
  induction h₂ with
  | here => rw [List.append_nil]; exact h
  | act before hact ih => rw [← List.append_assoc]; exact .act ih hact
  | wait before hlater ih => exact .wait ih hlater

/-- An act comes first. -/
theorem cons {a : Act} {s : Session} (hact : c.state.act? c.now a = some s)
    (h : Leads ⟨c.now, s⟩ ds c') : Leads c (c.state.deed c.now a :: ds) c' :=
  (Leads.here.act hact).trans h

/-- **Every deed has its moment**: an execution leads up to it and another on from it. -/
theorem split {before after : List Deed} {d : Deed} (h : Leads c (before ++ d :: after) c') :
    ∃ c₁ s, Leads c before c₁ ∧ Does c₁.now c₁.state d s ∧ Leads ⟨c₁.now, s⟩ after c' := by
  generalize hds : before ++ d :: after = ds at h
  induction h generalizing after with
  | here => exact absurd hds (by simp)
  | @act ds c₁ a s hbefore hact ih =>
    rcases List.eq_nil_or_concat after with rfl | ⟨after, last, rfl⟩
    · obtain ⟨rfl, hd⟩ := List.append_inj' hds rfl
      obtain rfl := List.cons.inj hd |>.1
      exact ⟨c₁, s, hbefore, does_of_act? hact, .here⟩
    · have hcut : (before ++ d :: after) ++ [last] = ds ++ [c₁.state.deed c₁.now a] := by
        rw [← hds]
        simp
      obtain ⟨hfirst, hlast⟩ := List.append_inj' hcut rfl
      obtain ⟨c₀, s₀, hbefore₀, hdoes, hafter⟩ := ih hfirst
      obtain rfl := List.cons.inj hlast |>.1
      exact ⟨c₀, s₀, hbefore₀, hdoes, by simpa using hafter.act hact⟩
  | wait hbefore hlater ih =>
    obtain ⟨c₀, s₀, hbefore₀, hdoes, hafter⟩ := ih hds
    exact ⟨c₀, s₀, hbefore₀, hdoes, hafter.wait hlater⟩

/-- **What spends a credit that nothing refills** is done no oftener than the credit lasts. -/
theorem countP_le (p : Deed → Bool) (credit : Session → Nat)
    (hspend : ∀ now s d s', Does now s d s' → (if p d then 1 else 0) + credit s' ≤ credit s)
    (h : Leads c ds c') : ds.countP p + credit c'.state ≤ credit c.state := by
  refine h.invariant (I := fun ds s => ds.countP p + credit s ≤ credit c.state)
    (Nat.le_of_eq (Nat.zero_add _)) ?_
  intro now ds s d s' hle hdoes
  have hstep := hspend now s d s' hdoes
  rw [List.countP_append, List.countP_singleton]
  omega

/-- **The status never goes back.** -/
theorem rank_le (h : Leads c ds c') : c.state.engine.status.rank ≤ c'.state.engine.status.rank :=
  h.invariant (I := fun _ s => c.state.engine.status.rank ≤ s.engine.status.rank) (Nat.le_refl _)
    fun _ _ _ _ _ hle hdoes => Nat.le_trans hle hdoes.rank_le

theorem options_eq (h : Leads c ds c') :
    c'.state.engine.options = c.state.engine.options ∧ c'.state.registry = c.state.registry :=
  h.invariant (I := fun _ s => s.engine.options = c.state.engine.options ∧
      s.registry = c.state.registry) ⟨rfl, rfl⟩
    fun _ _ _ _ _ heq hdoes =>
      ⟨hdoes.options_eq.1.trans heq.1, hdoes.options_eq.2.trans heq.2⟩

theorem alike (h : Leads c ds c') : c.state.transport.Alike c'.state.transport :=
  h.invariant (I := fun _ s => c.state.transport.Alike s.transport) .rfl
    fun _ _ _ _ _ halike hdoes => hdoes.alike halike

/-- **The journal is what was done.** -/
theorem journal_eq (h : Leads c ds c') :
    c'.state.journal = c.state.journal ++ ds.filterMap Deed.event? := by
  refine h.invariant (I := fun ds s => s.journal = c.state.journal ++ ds.filterMap Deed.event?)
    (List.append_nil _).symm ?_
  intro now ds s d s' heq hdoes
  rw [hdoes.journal_eq, heq, List.append_assoc, List.filterMap_append]
  cases hevent : d.event? <;> simp [hevent]

end Leads

/-! ## 2. Scripts -/

/-- An entry of a script: an act, or the clock going on to a moment. -/
inductive Cue
  | act (a : Act)
  | wait (t : Instant)

/-- Follows a script to its end, if it can be followed: what is done, and where it leads. -/
def follow? (c : Clocked Session) : List Cue → Option (List Deed × Clocked Session)
  | [] => some ([], c)
  | .act a :: cues =>
    match c.state.act? c.now a with
    | some s =>
      (follow? ⟨c.now, s⟩ cues).map fun p => (c.state.deed c.now a :: p.1, p.2)
    | none => none
  | .wait t :: cues => if c.now ≤ t then follow? ⟨t, c.state⟩ cues else none

theorem leads_of_follow? {cues : List Cue} (h : follow? c cues = some (ds, c')) :
    Leads c ds c' := by
  induction cues generalizing c ds with
  | nil => cases h; exact .here
  | cons cue cues ih =>
    cases cue with
    | act a =>
      simp only [follow?] at h
      split at h
      · rename_i s hact
        obtain ⟨⟨ds', c₁⟩, hrest, heq⟩ := Option.map_eq_some_iff.mp h
        cases heq
        exact (ih hrest).cons hact
      · cases h
    | wait t =>
      simp only [follow?] at h
      split at h
      · rename_i hlater
        exact (Leads.here.wait hlater).trans (ih h)
      · cases h

/-! ## 3. What a session does by itself -/

end Session

namespace Machine

variable {σ : Type} {m : Machine σ} {P : Clocked σ → Prop}

theorem settleFor_keeps {now : Instant}
    (hback : ∀ s s', P ⟨now, s⟩ → m.back? now s = some s' → P ⟨now, s'⟩) (fuel : Nat) {s : σ}
    (h : P ⟨now, s⟩) : P ⟨now, m.settleFor now fuel s⟩ := by
  induction fuel generalizing s with
  | zero => exact h
  | succ fuel ih =>
    unfold settleFor
    split
    · rename_i s' hnext
      exact ih (hback s s' h hnext)
    · exact h

/-- **What every step and every wait keeps, a machine keeps.** -/
theorem run_keeps (hfront : ∀ now s s', P ⟨now, s⟩ → m.front? now s = some s' → P ⟨now, s'⟩)
    (hback : ∀ now s s', P ⟨now, s⟩ → m.back? now s = some s' → P ⟨now, s'⟩)
    (hwait : ∀ now t s, P ⟨now, s⟩ → now ≤ t → P ⟨t, s⟩) (found : σ → Bool) (limit : Due)
    {c : Clocked σ} (h : P c) : P (m.run found limit c) := by
  unfold run
  generalize 2 * m.work c.state + 2 = fuel
  have hidle : ∀ {c : Clocked σ}, P c → P (idle limit c) := fun hc =>
    hwait _ _ _ hc (Nat.le_max_left _ _)
  induction fuel generalizing c with
  | zero => exact h
  | succ fuel ih =>
    unfold runFor
    split
    · rename_i s hnext
      exact ih (hfront c.now c.state s h hnext)
    · split
      · exact h
      · split
        · rename_i s hnext
          exact ih (settleFor_keeps (hback c.now) _ (hback c.now c.state s h hnext))
        · split
          · rename_i t hnext
            split
            · have hlater : c.now ≤ t :=
                Nat.le_of_lt (of_decide_eq_true (List.mem_filter.mp (List.min?_mem hnext)).2)
              exact ih (hwait c.now t c.state h hlater)
            · exact hidle h
          · exact hidle h

end Machine

namespace Session

theorem leads_of_findSome? {moves : List Move} {s : Session} {now : Instant} {s' : Session}
    (h : moves.findSome? (s.step? now) = some s') : ∃ ds, Leads ⟨now, s⟩ ds ⟨now, s'⟩ := by
  obtain ⟨m, -, hstep⟩ := List.exists_of_findSome?_eq_some h
  exact ⟨_, Leads.cons (c := ⟨now, s⟩) (a := .move m) hstep .here⟩

/-- **What a session does by itself is one of its executions.** -/
theorem exists_leads_run (found : Session → Bool) (limit : Due) (c : Clocked Session) :
    ∃ ds, Leads c ds (machine.run found limit c) := by
  have hmove : ∀ {now s s' moves}, (∃ ds, Leads c ds ⟨now, s⟩) →
      List.findSome? (s.step? now) moves = some s' → ∃ ds, Leads c ds ⟨now, s'⟩ := by
    rintro now s s' moves ⟨ds, hbefore⟩ hnext
    obtain ⟨ds', hstep⟩ := leads_of_findSome? hnext
    exact ⟨ds ++ ds', hbefore.trans hstep⟩
  refine Machine.run_keeps (P := fun c' => ∃ ds, Leads c ds c') (fun _ _ _ => hmove)
    (fun _ _ _ => hmove) ?_ found limit ⟨[], .here⟩
  rintro now t s ⟨ds, hbefore⟩ hlater
  exact ⟨ds, hbefore.wait hlater⟩

end Session
end Gatehouse
