/-
# Paths that climb

A path is cleaned by itself before it is put below another one, or only behind that.  For a relative
path this makes no difference, as its clean form keeps the `..` that it cannot resolve.  A rooted
path that climbs above its own root stays there when it is read by itself, and goes on into the
names below it when it is read on top of them.

* `resolve_clean`: **a relative path and its clean form lead to the same**;
* `resolve_eq_append_iff`: **a path leaves the names that it is read on top of alone exactly if it
  never climbs above where it starts**, or there are none.
-/
import Gatehouse.Proofs.Path.Resolve

namespace Gatehouse
namespace Path

/-! ## 1. Relative paths -/

/-- A piece that a relative clean path can have: a name, or the `..` that it could not resolve. -/
def IsStep (s : String) : Prop := IsName s ∧ s ≠ "."

/-- One more piece leaves a stack of steps. -/
theorem visit_isStep {stack : List String} (h : ∀ s ∈ stack, IsStep s) {piece : String}
    (hpiece : '/' ∉ piece.toList) : ∀ s ∈ visit false stack piece, IsStep s := by
  unfold visit
  split
  · exact h
  · rename_i hplain
    obtain ⟨hne, hdot⟩ := not_or.mp hplain
    split
    · have hdots : IsStep ".." := ⟨⟨by decide, by decide⟩, by decide⟩
      cases stack with
      | nil => exact List.forall_mem_singleton.mpr hdots
      | cons top rest =>
        by_cases htop : top = ".."
        · have hrest : ∀ s ∈ rest, IsStep s := fun s hs => h s (List.mem_cons_of_mem _ hs)
          simpa [climb, htop] using ⟨hdots, hrest⟩
        · simpa [climb, htop] using fun s hs => h s (List.mem_cons_of_mem _ hs)
    · exact List.forall_mem_cons.mpr ⟨⟨⟨hne, hpiece⟩, hdot⟩, h⟩

/-- Steps that have been read by themselves, then one more piece, lead where they lead and then the
piece does. -/
theorem foldl_visit_reverse {steps : List String} (h : ∀ s ∈ steps, IsStep s)
    (stack : List String) (piece : String) :
    (visit false steps piece).reverse.foldl (visit true) stack =
      visit true (steps.reverse.foldl (visit true) stack) piece := by
  by_cases hplain : piece = "" ∨ piece = "."
  · simp only [visit, if_pos hplain]
  · by_cases hdots : piece = ".."
    · subst hdots
      cases steps with
      | nil => rfl
      | cons top rest =>
        by_cases htop : top = ".."
        · subst htop
          simp [visit, climb]
        · -- the name on top was put there by the piece that is climbed over
          have hproper : IsProper top :=
            ⟨(h top List.mem_cons_self).1, (h top List.mem_cons_self).2, htop⟩
          have hleft : visit false (top :: rest) ".." = rest := by simp [visit, climb, htop]
          rw [hleft, List.reverse_cons, List.foldl_append, List.foldl_cons, List.foldl_nil,
            visit_proper hproper]
          simp [visit, climb, htop]
    · have hpushed : visit false steps piece = piece :: steps := by
        simp only [visit, if_neg hplain, if_neg hdots]
      rw [hpushed, List.reverse_cons, List.foldl_append]
      rfl

/-- **Pieces read by themselves lead where the pieces do**, whatever is below them. -/
theorem foldl_visit_cleaned {ps : List String} (hps : ∀ piece ∈ ps, '/' ∉ piece.toList)
    {steps : List String} (h : ∀ s ∈ steps, IsStep s) (stack : List String) :
    (∀ s ∈ ps.foldl (visit false) steps, IsStep s) ∧
      (ps.foldl (visit false) steps).reverse.foldl (visit true) stack =
        ps.foldl (visit true) (steps.reverse.foldl (visit true) stack) := by
  induction ps generalizing steps with
  | nil => exact ⟨h, rfl⟩
  | cons piece ps ih =>
    have hpiece := hps piece List.mem_cons_self
    obtain ⟨hsteps, hread⟩ :=
      ih (fun q hq => hps q (List.mem_cons_of_mem _ hq)) (visit_isStep h hpiece)
    refine ⟨hsteps, ?_⟩
    rw [List.foldl_cons, hread, foldl_visit_reverse h, List.foldl_cons]

section

variable {p : String} (hp : isRooted p = false)
include hp

theorem cleanNames_of_not_isRooted (stack : List String) :
    (∀ s ∈ cleanNames p, IsStep s) ∧ (cleanNames p).foldl (visit true) stack = resolve stack p := by
  obtain ⟨hsteps, hread⟩ := @foldl_visit_cleaned (pieces p) (fun _ => not_mem_of_mem_pieces) []
    (by simp) stack
  rw [cleanNames, hp]
  exact ⟨fun s hs => hsteps s (List.mem_reverse.mp hs), hread⟩

/-- **A relative path leads where its clean form does.** -/
theorem resolve_clean (stack : List String) : resolve stack (clean p) = resolve stack p := by
  obtain ⟨hsteps, hread⟩ := cleanNames_of_not_isRooted hp stack
  simp only [clean, hp, Bool.false_eq_true, if_false]
  split
  · rename_i hnone
    rw [← hread, hnone]
    rfl
  · rename_i hsome
    rw [← hread, resolve, pieces_join hsome fun s hs => (hsteps s hs).1.2]

theorem endsInSlash_clean : endsInSlash (clean p) = false := by
  obtain ⟨hsteps, -⟩ := cleanNames_of_not_isRooted hp []
  simp only [clean, hp, Bool.false_eq_true, if_false]
  split
  · rfl
  · exact endsInSlash_joinPieces fun s hs => (hsteps s hs).1

end

theorem clean_ne_empty (p : String) : clean p ≠ "" := by
  cases hp : isRooted p with
  | true =>
    rw [clean_of_isRooted hp]
    exact ne_empty_of_isRooted (isRooted_absolute _ _)
  | false =>
    obtain ⟨hsteps, -⟩ := cleanNames_of_not_isRooted hp []
    simp only [clean, hp, Bool.false_eq_true, if_false]
    split
    · decide
    · rename_i hsome
      exact fun hempty =>
        hsome ((joinPieces_eq_empty_iff fun s hs => (hsteps s hs).1.1).mp hempty)

/-! ## 2. Climbing above the start -/

/-- Pieces that are read `depth` names below the start climb above it somewhere. -/
def climbsFrom : Nat → List String → Bool
  | _, [] => false
  | depth, piece :: ps =>
    if piece = "" ∨ piece = "." then climbsFrom depth ps
    else if piece = ".." then
      match depth with
      | 0 => true
      | depth + 1 => climbsFrom depth ps
    else climbsFrom (depth + 1) ps

/-- A path climbs above where it starts. -/
def climbsOut (p : String) : Bool := climbsFrom 0 (pieces p)

/-- **What pieces leave of the names below those they are read on**: all of them exactly if they
do not climb above these, or there are none. -/
theorem foldl_visit_append {stack base : List String} (hstack : ∀ s ∈ stack, s ≠ "..")
    (hbase : ∀ s ∈ base, s ≠ "..") (ps : List String) :
    ∃ kept, kept <:+ base ∧
      ps.foldl (visit true) (stack ++ base) = ps.foldl (visit true) stack ++ kept ∧
      (kept = base ↔ climbsFrom stack.length ps = false ∨ base = []) := by
  induction ps generalizing stack base with
  | nil => exact ⟨base, List.suffix_rfl, rfl, by simp [climbsFrom]⟩
  | cons piece ps ih =>
    simp only [List.foldl_cons, climbsFrom]
    by_cases hplain : piece = "" ∨ piece = "."
    · simp only [visit, if_pos hplain]
      exact ih hstack hbase
    · by_cases hdots : piece = ".."
      · subst hdots
        cases stack with
        | cons top rest =>
          have htop := hstack top List.mem_cons_self
          have hvisit : ∀ rest, visit true (top :: rest) ".." = rest := by
            simp [visit, climb, htop]
          rw [List.cons_append, hvisit, hvisit]
          exact ih (fun s hs => hstack s (List.mem_cons_of_mem _ hs)) hbase
        | nil =>
          -- nothing stands above the base any more, so that the base is climbed into
          cases base with
          | nil => exact ⟨[], List.suffix_rfl, (List.append_nil _).symm, by simp⟩
          | cons top rest =>
            have htop := hbase top List.mem_cons_self
            have hvisit : visit true (top :: rest) ".." = rest := by simp [visit, climb, htop]
            obtain ⟨kept, hkept, hread, -⟩ := @ih [] rest (by simp)
              fun s hs => hbase s (List.mem_cons_of_mem _ hs)
            refine ⟨kept, hkept.trans (List.suffix_cons _ _), ?_, ?_⟩
            · rw [List.nil_append, hvisit]
              exact hread
            · have hshort : kept ≠ top :: rest := by
                rintro rfl
                have hlength := hkept.length_le
                rw [List.length_cons] at hlength
                omega
              simp [hshort]
      · have hvisit : ∀ stack, visit true stack piece = piece :: stack := by
          simp [visit, hplain, hdots]
        simp only [hvisit, if_neg hplain, if_neg hdots]
        exact ih (List.forall_mem_cons.mpr ⟨hdots, hstack⟩) hbase

/-- **A path leaves what it is read on top of alone** exactly if it does not climb out, or there is
nothing to climb into. -/
theorem resolve_eq_append_iff {base : List String} (hbase : ∀ s ∈ base, IsProper s) (p : String) :
    resolve base p = resolve [] p ++ base ↔ climbsOut p = false ∨ base = [] := by
  obtain ⟨kept, -, hread, hiff⟩ := @foldl_visit_append [] base (by simp)
    (fun s hs => (hbase s hs).ne_dots) (pieces p)
  rw [List.nil_append] at hread
  rw [resolve, hread, resolve, List.append_cancel_left_eq]
  exact hiff

end Path
end Gatehouse
