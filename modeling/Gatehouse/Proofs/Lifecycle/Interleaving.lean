/-
# Interleavings

Tasks that share something take their steps in any order, one step of one task at a time.  An
interleaving is the list of these steps; tasks are numbered in lists, and a step changes the entry
of its task.

* `foldlM_keeps`: **what every step keeps, every interleaving keeps**;
* `Alone.go`: what one task does while nobody interrupts it, step by step;
* `countP_set_add`: what the change of one entry does to a count.
-/

namespace Gatehouse
namespace Interleaving

/-! ## 1. Steps in any order -/

variable {σ μ α : Type} {step? : σ → μ → Option σ} {own : μ → Prop} {s s₁ s' : σ} {ms : List μ}

/-- **What every step keeps, every interleaving keeps.** -/
theorem foldlM_keeps {I : σ → Prop} (hstep : ∀ s m s', I s → step? s m = some s' → I s')
    (hstart : I s) (h : ms.foldlM step? s = some s') : I s' := by
  induction ms generalizing s with
  | nil =>
    cases h
    exact hstart
  | cons m ms ih =>
    rw [List.foldlM_cons] at h
    obtain ⟨s₁, hfirst, hrest⟩ := Option.bind_eq_some_iff.mp h
    exact ih (hstep s m s₁ hstart hfirst) hrest

/-- The steps of one owner lead from one state to another, with nobody else's in between. -/
def Alone (step? : σ → μ → Option σ) (own : μ → Prop) (s s' : σ) : Prop :=
  ∃ ms : List μ, (∀ m ∈ ms, own m) ∧ ms.foldlM step? s = some s'

theorem Alone.here : Alone step? own s s := ⟨[], nofun, rfl⟩

/-- The owner does nothing more, or takes one step more. -/
theorem Alone.go (h : Alone step? own s s₁) (hgo : s' = s₁ ∨ ∃ m, own m ∧ step? s₁ m = some s') :
    Alone step? own s s' := by
  rcases hgo with rfl | ⟨m, hm, hstep⟩
  · exact h
  · obtain ⟨ms, hown, hrun⟩ := h
    refine ⟨ms ++ [m], fun m' hm' => ?_, ?_⟩
    · rcases List.mem_append.mp hm' with hfirst | hlast
      · exact hown m' hfirst
      · rw [List.mem_singleton.mp hlast]
        exact hm
    · rw [List.foldlM_append, hrun]
      simpa using hstep

/-! ## 2. Counting entries -/

/-- An entry that changes leaves a count, and enters it again as what it has become. -/
theorem countP_set_add {p : α → Bool} {xs : List α} {i : Nat} {x : α} (hx : xs[i]? = some x)
    (y : α) : (xs.set i y).countP p + (if p x then 1 else 0) =
      xs.countP p + if p y then 1 else 0 := by
  obtain ⟨hi, hget⟩ := List.getElem?_eq_some_iff.mp hx
  have hle : (if p x then 1 else 0) ≤ xs.countP p := by
    split
    · rename_i hpx
      exact List.countP_pos_iff.mpr ⟨x, List.mem_of_getElem? hx, hpx⟩
    · exact Nat.zero_le _
  rw [List.countP_set hi, hget]
  omega

end Interleaving
end Gatehouse
