/-
# Histories

Calls and tasks are numbered in lists, and most deeds belong to one of them.  The history of a call
is what it has done itself.  A `Histories` says of every entry of a list that its history is one
that the entry tells, and that nothing has been done by what is not in the list.

* `Histories.keep`, `Histories.concat`, `Histories.set`: histories go on with the list, whether a
  deed belongs to no entry, to a new one or to one that changes with it.
-/
import Gatehouse.Proofs.Lifecycle.Deeds

namespace Gatehouse

/-! ## 1. The deeds of one owner -/

namespace Deed

variable {owner? : Deed → Option Nat} {i : Nat} {ds ds' : List Deed} {d : Deed}

/-- The deeds that belong to one owner, in order. -/
def only (owner? : Deed → Option Nat) (i : Nat) (ds : List Deed) : List Deed :=
  ds.filter fun d => owner? d = some i

theorem only_append : only owner? i (ds ++ ds') = only owner? i ds ++ only owner? i ds' :=
  List.filter_append _ _

theorem mem_only_iff : d ∈ only owner? i ds ↔ d ∈ ds ∧ owner? d = some i := by
  simp [only]

theorem only_self (hd : owner? d = some i) : only owner? i [d] = [d] := by
  simp [only, hd]

theorem only_other (hd : owner? d ≠ some i) : only owner? i [d] = [] := by
  simp [only, hd]

/-- A deed of somebody else leaves a history as it is. -/
theorem only_concat_other (hd : owner? d ≠ some i) :
    only owner? i (ds ++ [d]) = only owner? i ds := by
  rw [only_append, only_other hd, List.append_nil]

/-- How often one owner has done something is seen in its history alone. -/
theorem countP_only {p : Deed → Bool} (hp : ∀ d ∈ ds, p d = true → owner? d = some i) :
    (only owner? i ds).countP p = ds.countP p := by
  rw [only, List.countP_filter]
  refine List.countP_congr fun d hd => ?_
  simp only [Bool.and_eq_true, decide_eq_true_eq, and_iff_left_iff_imp]
  exact hp d hd

/-- What is done at most once is one thing. -/
theorem eq_of_countP_le_one {p : Deed → Bool} (hp : ds.countP p ≤ 1) {d d' : Deed} (hd : d ∈ ds)
    (hpd : p d = true) (hd' : d' ∈ ds) (hpd' : p d' = true) : d' = d := by
  obtain ⟨before, after, rfl⟩ := List.append_of_mem hd
  rw [List.countP_append, List.countP_cons_of_pos hpd] at hp
  rcases List.mem_append.mp hd' with hmem | hmem
  · have hpos := List.countP_pos_iff.mpr ⟨d', hmem, hpd'⟩
    omega
  · rcases List.mem_cons.mp hmem with rfl | hmem
    · rfl
    · have hpos := List.countP_pos_iff.mpr ⟨d', hmem, hpd'⟩
      omega

/-- **What only one owner may do, and each owner does at most once, is done at most once.**  The
owner is the one that `q` has been done by. -/
theorem countP_le_one (owner? : Deed → Option Nat) {p q : Deed → Bool} (hq : ds.countP q ≤ 1)
    (howner : ∀ d ∈ ds, p d = true →
      ∃ i, owner? d = some i ∧ ∃ t ∈ ds, q t = true ∧ owner? t = some i)
    (heach : ∀ i, (only owner? i ds).countP p ≤ 1) : ds.countP p ≤ 1 := by
  rcases Nat.eq_zero_or_pos (ds.countP p) with hnone | hsome
  · omega
  · obtain ⟨d, hd, hpd⟩ := List.countP_pos_iff.mp hsome
    obtain ⟨i, -, t, ht, hqt, hti⟩ := howner d hd hpd
    have hall : ∀ d' ∈ ds, p d' = true → owner? d' = some i := by
      intro d' hd' hpd'
      obtain ⟨j, hj, t', ht', hqt', htj⟩ := howner d' hd' hpd'
      obtain rfl := eq_of_countP_le_one hq ht hqt ht' hqt'
      rw [hj, ← htj, hti]
    rw [← countP_only hall]
    exact heach i

end Deed

/-! ## 2. Histories of all entries of a list -/

/-- Every entry of a list tells its history, and nothing has been done by what is not there. -/
structure Histories {α : Type} (owner? : Deed → Option Nat) (Tells : Nat → List Deed → α → Prop)
    (ds : List Deed) (xs : List α) : Prop where
  tells : ∀ i x, xs[i]? = some x → Tells i (Deed.only owner? i ds) x
  silent : ∀ i, xs.length ≤ i → Deed.only owner? i ds = []

namespace Histories

open Deed

variable {α : Type} {owner? : Deed → Option Nat} {Tells : Nat → List Deed → α → Prop}
  {ds : List Deed} {xs : List α} {d : Deed}

theorem nil : Histories owner? Tells [] ([] : List α) :=
  ⟨fun _ _ h => absurd h (by simp), fun _ _ => rfl⟩

/-- An owner is one of the entries, or has done nothing. -/
theorem cases (h : Histories owner? Tells ds xs) (i : Nat) :
    only owner? i ds = [] ∨ ∃ x, xs[i]? = some x ∧ Tells i (only owner? i ds) x := by
  rcases Nat.lt_or_ge i xs.length with hi | hi
  · have hx : xs[i]? = some xs[i] := List.getElem?_eq_getElem hi
    exact Or.inr ⟨xs[i], hx, h.tells i _ hx⟩
  · exact Or.inl (h.silent i hi)

/-- Somebody's deed is in the history of an entry that is there. -/
theorem exists_entry (h : Histories owner? Tells ds xs) {i : Nat} (hmem : d ∈ ds)
    (hd : owner? d = some i) : ∃ x, xs[i]? = some x ∧ Tells i (only owner? i ds) x ∧
      d ∈ only owner? i ds := by
  have hown : d ∈ only owner? i ds := mem_only_iff.mpr ⟨hmem, hd⟩
  rcases h.cases i with hnone | ⟨x, hx, htells⟩
  · rw [hnone] at hown
    cases hown
  · exact ⟨x, hx, htells, hown⟩

/-- A deed that belongs to nobody. -/
theorem keep (h : Histories owner? Tells ds xs) (hd : owner? d = none) :
    Histories owner? Tells (ds ++ [d]) xs := by
  have hother : ∀ i, only owner? i (ds ++ [d]) = only owner? i ds := fun i =>
    only_concat_other (by rw [hd]; exact nofun)
  constructor
  · intro i x hx
    rw [hother]
    exact h.tells i x hx
  · intro i hi
    rw [hother]
    exact h.silent i hi

/-- The first deed of a new entry. -/
theorem concat (h : Histories owner? Tells ds xs) {x : α} (hd : owner? d = some xs.length)
    (htells : Tells xs.length [d] x) : Histories owner? Tells (ds ++ [d]) (xs ++ [x]) := by
  have hother : ∀ i, xs.length ≠ i → only owner? i (ds ++ [d]) = only owner? i ds := fun i hi =>
    only_concat_other (by rw [hd]; exact fun heq => hi (Option.some.inj heq))
  constructor
  · intro i y hy
    rw [List.getElem?_append] at hy
    split at hy
    · rename_i hi
      rw [hother i (Nat.ne_of_gt hi)]
      exact h.tells i y hy
    · rename_i hi
      obtain ⟨hlast, rfl⟩ := List.getElem?_eq_some_iff.mp hy
      obtain rfl : xs.length = i := by
        rw [List.length_singleton] at hlast
        omega
      rw [only_append, h.silent _ (Nat.le_refl _), only_self hd, List.nil_append]
      simpa using htells
  · intro i hi
    rw [List.length_append, List.length_singleton] at hi
    rw [hother i (by omega)]
    exact h.silent i (by omega)

/-- A deed of an entry that changes with it, or a change without a deed. -/
theorem set (h : Histories owner? Tells ds xs) {i : Nat} {x x' : α} (hx : xs[i]? = some x)
    (hd : owner? d = none ∨ owner? d = some i)
    (htells : Tells i (only owner? i ds ++ only owner? i [d]) x') :
    Histories owner? Tells (ds ++ [d]) (xs.set i x') := by
  have hother : ∀ j, i ≠ j → only owner? j (ds ++ [d]) = only owner? j ds := by
    intro j hj
    refine only_concat_other ?_
    rcases hd with hd | hd <;> rw [hd]
    · exact nofun
    · exact fun heq => hj (Option.some.inj heq)
  constructor
  · intro j y hy
    rw [List.getElem?_set] at hy
    split at hy
    · subst j
      split at hy
      · cases hy
        rw [only_append]
        exact htells
      · cases hy
    · rename_i hj
      rw [hother j hj]
      exact h.tells j y hy
  · intro j hj
    rw [List.length_set] at hj
    have hi : i < xs.length := (List.getElem?_eq_some_iff.mp hx).1
    rw [hother j (by omega)]
    exact h.silent j hj

end Histories
end Gatehouse
