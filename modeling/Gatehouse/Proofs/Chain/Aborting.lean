/-
# What a run knows of its aborts

An aborted chain is told by its position alone: the context says that it is aborted when the
position is `Chain.abortIndex`.  Running handlers moves the position as well, so the answer is right
only as long as no chain is long enough to run up to there.  This file says that it is right for
every chain that stays below that position, at every moment of a run.

`Exchange.visits` reads the moments off the run itself: each event with the exchange in which the
run comes to it.

* `Exchange.visits_follow`: **the run comes to each event in what the events before it have made**,
  whatever the chain and the fuel;
* `Exchange.cursor_replay`: where the position is when a chain has been aborted, and where it is
  when it has not;
* `Exchange.seesAborts`: **the context says at every moment, and behind the run, exactly whether a
  handler has aborted the chain**.
-/
import Gatehouse.Proofs.Chain.Onion
import Mathlib.Data.List.Induction

namespace Gatehouse
namespace Exchange

open Chain (Event)
open Chain.Event (starts)

/-! ## 1. The moments of a run -/

/-- The moments inside one action of the handler at `i`. -/
def performVisits (rest : Exchange → Outcome) (restVisits : Exchange → List (Event × Exchange))
    (i : Nat) (x : Exchange) : Action → List (Event × Exchange)
  | .proceed => restVisits x
  | .guarded =>
    match (rest x).ending with
    | .panicked _ => restVisits x ++ [(.rescued i, (rest x).exchange)]
    | _ => restVisits x
  | _ => []

/-- The moments of a script of the handler at `i`. -/
def performAllVisits (d : Disk) (rest : Exchange → Outcome)
    (restVisits : Exchange → List (Event × Exchange)) (i : Nat) :
    List Action → Exchange → List (Event × Exchange)
  | [], _ => []
  | a :: as, x =>
    let o := perform d rest x a
    (.reached i a, x) :: performVisits rest restVisits i x a ++
      match o.ending with
      | .returned => performAllVisits d rest restVisits i as o.exchange
      | _ => []

/-- The moments of a run from the position reached. -/
def runForVisits (d : Disk) : Nat → Exchange → List (Event × Exchange)
  | 0, _ => []
  | fuel + 1, x =>
    match x.context.chain[x.context.index]? with
    | none => []
    | some h =>
      let started := x.update fun c => { c with index := c.index + 1 }
      let o := performAll d (runFor d fuel) h.script started
      (.started x.context.index, x) ::
          performAllVisits d (runFor d fuel) (runForVisits d fuel) x.context.index h.script
            started ++
        match o.ending with
        | .returned => runForVisits d fuel o.exchange
        | _ => []

def visits (d : Disk) (x : Exchange) : List (Event × Exchange) :=
  runForVisits d (fuelFor x.context.chain) x

/-! ## 2. Moments hang together -/

/-- From `x` to `y` by moments: the run comes to the first event in `x`, and to every later one in
what the event before it has made. -/
def Path (d : Disk) : Exchange → List (Event × Exchange) → Exchange → Prop
  | x, [], y => y = x
  | x, (e, z) :: vs, y => z = x ∧ Path d (e.effect d x) vs y

variable {d : Disk} {x y z : Exchange} {vs ws : List (Event × Exchange)}

theorem path_refl (d : Disk) (x : Exchange) : Path d x [] x := rfl

theorem Path.append (h : Path d x vs y) (h' : Path d y ws z) : Path d x (vs ++ ws) z := by
  induction vs generalizing x with
  | nil =>
    obtain rfl : y = x := h
    exact h'
  | cons v vs ih => exact ⟨h.1, ih h.2⟩

/-- Moments lead to what their events make of the exchange. -/
theorem Path.eq_replay (h : Path d x vs y) : y = replay d (vs.map Prod.fst) x := by
  induction vs generalizing x with
  | nil => exact h
  | cons v vs ih =>
    rw [List.map_cons, replay_cons]
    exact ih h.2

/-- Each moment is what the events before it make of the exchange. -/
theorem Path.eq_replay_of_split {before later : List (Event × Exchange)} {e : Event}
    (h : Path d x (before ++ (e, z) :: later) y) : z = replay d (before.map Prod.fst) x := by
  induction before generalizing x with
  | nil => exact h.1
  | cons v before ih =>
    rw [List.map_cons, replay_cons]
    exact ih h.2

section

variable {rest : Exchange → Outcome} {restVisits : Exchange → List (Event × Exchange)}
  (hrest : ∀ y, Path d y (restVisits y) (rest y).exchange)
include hrest

theorem path_perform (i : Nat) (x : Exchange) (a : Action) :
    Path d ((Event.reached i a).effect d x) (performVisits rest restVisits i x a)
      (perform d rest x a).exchange := by
  cases a with
  | proceed => exact hrest x
  | guarded =>
    show Path d x (performVisits rest restVisits i x .guarded) (recover (rest x)).exchange
    have hbehind := hrest x
    cases hending : (rest x).ending with
    | panicked p =>
      simp only [performVisits, recover, hending]
      exact hbehind.append ⟨rfl, rfl⟩
    | _ => simpa only [performVisits, recover, hending] using hbehind
  | abort code? => cases code? <;> rfl
  | _ => rfl

theorem path_performAll (i : Nat) (as : List Action) (x : Exchange) :
    Path d x (performAllVisits d rest restVisits i as x) (performAll d rest as x).exchange := by
  induction as generalizing x with
  | nil => rfl
  | cons a as ih =>
    have hfirst := path_perform hrest i x a
    simp only [performAllVisits, performAll]
    cases (perform d rest x a).ending with
    | returned => exact ⟨rfl, hfirst.append (ih _)⟩
    | _ => exact ⟨rfl, hfirst.append (path_refl d _)⟩

end

theorem path_runFor (d : Disk) (fuel : Nat) (x : Exchange) :
    Path d x (runForVisits d fuel x) (runFor d fuel x).exchange := by
  induction fuel generalizing x with
  | zero => rfl
  | succ fuel ih =>
    cases hget : x.context.chain[x.context.index]? with
    | none => simp only [runForVisits, runFor, hget, Path]
    | some h =>
      have hscript := path_performAll ih x.context.index h.script
        (x.update fun c => { c with index := c.index + 1 })
      simp only [runForVisits, runFor, hget]
      generalize performAll d (runFor d fuel) h.script _ = o at hscript ⊢
      cases o.ending with
      | returned => exact ⟨rfl, hscript.append (ih _)⟩
      | _ => exact ⟨rfl, hscript.append (path_refl d _)⟩

/-! ## 3. The events of the moments -/

section

variable {rest : Exchange → Outcome} {restVisits : Exchange → List (Event × Exchange)}
  {restEvents : Exchange → List Event}
  (hrest : ∀ y, (restVisits y).map Prod.fst = restEvents y)
include hrest

theorem map_fst_performVisits (i : Nat) (x : Exchange) (a : Action) :
    (performVisits rest restVisits i x a).map Prod.fst = performEvents rest restEvents i x a := by
  cases a with
  | proceed => exact hrest x
  | guarded =>
    cases hending : (rest x).ending with
    | panicked p => simp only [performVisits, performEvents, hending, List.map_append, hrest,
        List.map_cons, List.map_nil]
    | _ => simp only [performVisits, performEvents, hending, hrest]
  | _ => rfl

theorem map_fst_performAllVisits (d : Disk) (i : Nat) (as : List Action) (x : Exchange) :
    (performAllVisits d rest restVisits i as x).map Prod.fst =
      performAllEvents d rest restEvents i as x := by
  induction as generalizing x with
  | nil => rfl
  | cons a as ih =>
    simp only [performAllVisits, performAllEvents, List.map_append, List.map_cons,
      map_fst_performVisits hrest]
    cases (perform d rest x a).ending with
    | returned => simp only [ih]
    | _ => rfl

end

theorem map_fst_runForVisits (d : Disk) (fuel : Nat) (x : Exchange) :
    (runForVisits d fuel x).map Prod.fst = runForEvents d fuel x := by
  induction fuel generalizing x with
  | zero => rfl
  | succ fuel ih =>
    cases hget : x.context.chain[x.context.index]? with
    | none => simp only [runForVisits, runForEvents, hget, List.map_nil]
    | some h =>
      simp only [runForVisits, runForEvents, hget, List.map_append, List.map_cons,
        map_fst_performAllVisits ih]
      generalize performAll d (runFor d fuel) h.script _ = o
      cases o.ending with
      | returned => simp only [ih]
      | _ => rfl

/-- **The run comes to each event in what the events before it have made of the exchange**, and
leaves what all of them have made. -/
theorem visits_follow (d : Disk) (x : Exchange) :
    (x.visits d).map Prod.fst = x.runEvents d ∧
      (x.run d).exchange = replay d (x.runEvents d) x ∧
      ∀ before e y later, x.visits d = before ++ (e, y) :: later →
        y = replay d (before.map Prod.fst) x := by
  have hpath := path_runFor d (fuelFor x.context.chain) x
  have hevents : (x.visits d).map Prod.fst = x.runEvents d := map_fst_runForVisits d _ x
  refine ⟨hevents, ?_, ?_⟩
  · rw [← hevents]
    exact hpath.eq_replay
  · intro before e y later hsplit
    rw [← visits, hsplit] at hpath
    exact hpath.eq_replay_of_split

/-! ## 4. The position -/

/-- Where the position of a chain is behind some events: at `Chain.abortIndex` when one of them has
aborted the chain, and else in the chain or at its end. -/
structure Cursor (x : Exchange) (events : List Event) : Prop where
  aborted : (∃ e ∈ events, e.Aborts) → x.context.index = Chain.abortIndex
  running : (∀ e ∈ events, ¬ e.Aborts) → x.context.index ≤ x.context.chain.length

/-- Below `Chain.abortIndex` the position tells whether a chain has been aborted. -/
theorem Cursor.isAborted_iff {events : List Event} (h : x.Cursor events)
    (hshort : x.context.chain.length < Chain.abortIndex) :
    x.context.isAborted = true ↔ ∃ e ∈ events, e.Aborts := by
  rw [Context.isAborted, decide_eq_true_iff]
  constructor
  · intro hindex
    refine Classical.byContradiction fun hnone => ?_
    have hrunning := h.running fun e he habort => hnone ⟨e, he, habort⟩
    omega
  · intro habort
    exact Nat.le_of_eq (h.aborted habort).symm

theorem chain_effect (d : Disk) (e : Event) (x : Exchange) :
    (e.effect d x).context.chain = x.context.chain :=
  (moves_effect d e x).chain

theorem index_effect_of_aborts {e : Event} (h : e.Aborts) (d : Disk) (x : Exchange) :
    (e.effect d x).context.index = Chain.abortIndex := by
  cases e with
  | started i => exact h.elim
  | rescued i => rfl
  | reached i a =>
    cases a with
    | abort code? => cases code? <;> rfl
    | _ => exact h.elim

/-- An event that neither aborts nor starts a handler leaves the position where it is. -/
theorem index_effect_of_quiet {e : Event} (h : ¬ e.Aborts) (hstart : e.start? = none) (d : Disk)
    (x : Exchange) : (e.effect d x).context.index = x.context.index := by
  cases e with
  | started i => cases hstart
  | rescued i => exact (h trivial).elim
  | reached i a =>
    cases a with
    | edit change =>
      rw [context_effect_edit]
      exact (change.left_rewrites d x.context).index
    | abort code? => exact (h trivial).elim
    | _ => rfl

/-- **Every event keeps the position where it should be**: it aborts, and the position says so; or
it starts a handler of the chain, before which nobody has aborted; or it does neither. -/
theorem Cursor.effect {events : List Event} (h : x.Cursor events) (d : Disk) {e : Event}
    (hstart : ∀ i, e.start? = some i → i < x.context.chain.length)
    (hsealed : ∀ f ∈ events, f.Aborts → e.start? = none) :
    (e.effect d x).Cursor (events ++ [e]) := by
  by_cases habort : e.Aborts
  · refine ⟨fun _ => index_effect_of_aborts habort d x, fun hnone => ?_⟩
    exact absurd habort (hnone e (List.mem_append_right _ List.mem_cons_self))
  have hbefore : (∃ f ∈ events ++ [e], f.Aborts) → ∃ f ∈ events, f.Aborts := by
    rintro ⟨f, hf, hfa⟩
    rcases List.mem_append.mp hf with hf | hf
    · exact ⟨f, hf, hfa⟩
    · exact absurd (List.mem_singleton.mp hf ▸ hfa) habort
  cases hstart? : e.start? with
  | none =>
    have hindex := index_effect_of_quiet habort hstart? d x
    refine ⟨fun hsome => hindex.trans (h.aborted (hbefore hsome)), fun hnone => ?_⟩
    rw [hindex, chain_effect]
    exact h.running fun f hf => hnone f (List.mem_append_left _ hf)
  | some i =>
    have hindex : (e.effect d x).context.index = i + 1 := by
      cases e with
      | started j =>
        obtain rfl : j = i := Option.some.inj hstart?
        rfl
      | _ => cases hstart?
    refine ⟨fun hsome => ?_, fun _ => ?_⟩
    · obtain ⟨f, hf, hfa⟩ := hbefore hsome
      rw [hsealed f hf hfa] at hstart?
      cases hstart?
    · rw [hindex, chain_effect]
      exact hstart i hstart?

/-- **The position behind events** that start handlers of the chain only, and none behind an
abort. -/
theorem cursor_replay {events : List Event} {x : Exchange} (hbegin : x.context.index = 0) (d : Disk)
    (hstarts : ∀ i ∈ starts events, i < x.context.chain.length)
    (hsealed : events.Pairwise fun e f => e.Aborts → f.start? = none) :
    (replay d events x).Cursor events ∧
      (replay d events x).context.chain = x.context.chain := by
  induction events using List.reverseRecOn with
  | nil =>
    refine ⟨⟨?_, fun _ => ?_⟩, rfl⟩
    · rintro ⟨e, he, -⟩
      cases he
    · show x.context.index ≤ x.context.chain.length
      rw [hbegin]
      exact Nat.zero_le _
  | append_singleton events e ih =>
    rw [List.pairwise_append] at hsealed
    obtain ⟨hfront, -, hlast⟩ := hsealed
    have hstarts' : ∀ i ∈ starts events, i < x.context.chain.length := by
      intro i hi
      refine hstarts i ?_
      rw [Event.starts_append]
      exact List.mem_append_left _ hi
    obtain ⟨hcursor, hchain⟩ := ih hstarts' hfront
    rw [replay_append]
    refine ⟨hcursor.effect d ?_ ?_, (chain_effect d e _).trans hchain⟩
    · intro i hi
      rw [hchain]
      refine hstarts i ?_
      rw [Event.starts_append]
      exact List.mem_append_right _ (List.mem_filterMap.mpr ⟨e, List.mem_cons_self, hi⟩)
    · intro f hf
      exact hlast f hf e List.mem_cons_self

/-! ## 5. Exact answers -/

/-- At every moment of a run, and behind it, the context says that it is aborted if a handler has
aborted the chain, and only then. -/
structure SeesAborts (d : Disk) (x : Exchange) : Prop where
  during : ∀ before e y later, x.visits d = before ++ (e, y) :: later →
    (y.context.isAborted = true ↔ ∃ v ∈ before, v.1.Aborts)
  behind : (x.run d).exchange.context.isAborted = true ↔ ∃ v ∈ x.visits d, v.1.Aborts

/-- **A chain that stays below `Chain.abortIndex` sees its aborts exactly**, when it is run from its
beginning. -/
theorem seesAborts (d : Disk) {x : Exchange} (hbegin : x.context.index = 0)
    (hshort : x.context.chain.length < Chain.abortIndex) : x.SeesAborts d := by
  obtain ⟨hevents, hend, hmoment⟩ := visits_follow d x
  have hcourse := (run_follows d hbegin hshort).events_eq
  -- what a course keeps to, each of its beginnings keeps to
  have hfront : ∀ events later, x.runEvents d = events ++ later →
      ((replay d events x).context.isAborted = true ↔ ∃ e ∈ events, e.Aborts) := by
    intro events later hsplit
    have hcut : events ++ later =
        (Chain.courseFrom (Edit.panic? d x.context.params) 0 x.context.chain).events := by
      rw [← hsplit, hcourse, course, Chain.course]
    obtain ⟨k, hk, hstarts⟩ :=
      Chain.starts_courseFrom (Edit.panic? d x.context.params) 0 x.context.chain
    rw [← hcut, Event.starts_append] at hstarts
    have hbound : ∀ i ∈ starts events, i < x.context.chain.length := by
      intro i hi
      have hmem : i ∈ List.range' 0 k := hstarts ▸ List.mem_append_left _ hi
      have hlt := (List.mem_range'_1.mp hmem).2
      omega
    have hsealed := Chain.courseFrom_sealed (Edit.panic? d x.context.params) 0 x.context.chain
    rw [← hcut, List.pairwise_append] at hsealed
    obtain ⟨hcursor, hchain⟩ := cursor_replay hbegin d hbound hsealed.1
    exact hcursor.isAborted_iff (hchain.symm ▸ hshort)
  have hmap : ∀ vs : List (Event × Exchange),
      (∃ e ∈ vs.map Prod.fst, e.Aborts) ↔ ∃ v ∈ vs, v.1.Aborts := by
    intro vs
    constructor
    · rintro ⟨e, he, habort⟩
      obtain ⟨v, hv, rfl⟩ := List.mem_map.mp he
      exact ⟨v, hv, habort⟩
    · rintro ⟨v, hv, habort⟩
      exact ⟨v.1, List.mem_map_of_mem hv, habort⟩
  constructor
  · intro before e y later hsplit
    have hrun : x.runEvents d = before.map Prod.fst ++ e :: later.map Prod.fst := by
      rw [← hevents, hsplit, List.map_append, List.map_cons]
    rw [hmoment before e y later hsplit, hfront _ _ hrun, hmap]
  · rw [hend, hfront _ [] (List.append_nil _).symm, ← hevents, hmap]

end Exchange
end Gatehouse
