/-
# Slash-separated text

A path is text whose pieces are separated by `/`.  This file cuts a path into its pieces and
puts pieces back together.  Every other reading of a path in this library (cleaning, matching,
walking a disk) starts from `pieces` or from `names`, its non-empty pieces.

The two facts everything rests on stand at the end:

* `join_pieces`: joining the pieces of a path gives the path back;
* `pieces_join`: cutting a join gives the pieces back, when no piece holds a slash.
-/

namespace Gatehouse
namespace Path

/-! ## 1. Cutting -/

/-- The maximal runs without `/`, in order.  The empty text is one empty run, and `n` slashes
make `n + 1` runs. -/
def runs : List Char → List (List Char)
  | [] => [[]]
  | c :: cs =>
    if c = '/' then [] :: runs cs
    else
      match runs cs with
      | [] => [[c]]
      | w :: ws => (c :: w) :: ws

/-- The pieces of a path between its slashes, empty ones included. -/
def pieces (p : String) : List String := (runs p.toList).map String.ofList

/-- The non-empty pieces of a path: repeated, leading and trailing slashes leave no mark. -/
def names (p : String) : List String := (pieces p).filter (· ≠ "")

/-- A path is rooted when it starts with a slash. -/
def isRooted (p : String) : Bool := p.toList.head? = some '/'

/-- A path that ends in a slash addresses everything below it. -/
def endsInSlash (p : String) : Bool := p.toList.getLast? = some '/'

/-! ## 2. Joining -/

/-- Runs put together with a slash between each two. -/
def joinRuns : List (List Char) → List Char
  | [] => []
  | [w] => w
  | w :: ws => w ++ '/' :: joinRuns ws

/-- Pieces put together with a slash between each two. -/
def joinPieces (ps : List String) : String := String.ofList (joinRuns (ps.map String.toList))

/-! ## 3. One undoes the other -/

theorem runs_ne_nil (cs : List Char) : runs cs ≠ [] := by
  cases cs with
  | nil => simp [runs]
  | cons c cs =>
    unfold runs
    split
    · simp
    · split <;> simp

theorem joinRuns_runs (cs : List Char) : joinRuns (runs cs) = cs := by
  induction cs with
  | nil => rfl
  | cons c cs ih =>
    unfold runs
    split
    · rename_i h
      subst h
      cases hr : runs cs with
      | nil => exact absurd hr (runs_ne_nil cs)
      | cons w ws => rw [← ih, hr]; simp [joinRuns]
    · split
      · rename_i hr; exact absurd hr (runs_ne_nil cs)
      · rename_i w ws hr
        rw [hr] at ih
        cases ws with
        | nil => simpa [joinRuns] using ih
        | cons v vs => simpa [joinRuns] using ih

/-- A run without a slash, then more text: the run grows by that much. -/
theorem runs_append {w : List Char} (hw : '/' ∉ w) (cs : List Char) :
    runs (w ++ '/' :: cs) = w :: runs cs := by
  induction w with
  | nil => simp [runs]
  | cons c w ih =>
    have hc : c ≠ '/' := fun h => hw (h ▸ List.mem_cons_self)
    have hw' : '/' ∉ w := fun h => hw (List.mem_cons_of_mem _ h)
    simp [runs, hc, ih hw']

theorem runs_of_not_mem {w : List Char} (hw : '/' ∉ w) : runs w = [w] := by
  induction w with
  | nil => rfl
  | cons c w ih =>
    have hc : c ≠ '/' := fun h => hw (h ▸ List.mem_cons_self)
    have hw' : '/' ∉ w := fun h => hw (List.mem_cons_of_mem _ h)
    simp [runs, hc, ih hw']

theorem runs_joinRuns {ws : List (List Char)} (hne : ws ≠ []) (h : ∀ w ∈ ws, '/' ∉ w) :
    runs (joinRuns ws) = ws := by
  induction ws with
  | nil => exact absurd rfl hne
  | cons w ws ih =>
    have hw : '/' ∉ w := h w List.mem_cons_self
    cases ws with
    | nil => exact runs_of_not_mem hw
    | cons v vs =>
      have hrec := ih (by simp) (fun u hu => h u (List.mem_cons_of_mem _ hu))
      rw [joinRuns, runs_append hw, hrec]
      simp

theorem not_mem_of_mem_runs {cs w : List Char} (h : w ∈ runs cs) : '/' ∉ w := by
  induction cs generalizing w with
  | nil => simp [runs] at h; simp [h]
  | cons c cs ih =>
    unfold runs at h
    split at h
    · rcases List.mem_cons.mp h with rfl | h
      · simp
      · exact ih h
    · rename_i hc
      split at h
      · rename_i hr; exact absurd hr (runs_ne_nil cs)
      · rename_i v vs hr
        rcases List.mem_cons.mp h with rfl | h
        · have hv := ih (w := v) (by simp [hr])
          intro hm
          rcases List.mem_cons.mp hm with hm | hm
          · exact hc hm.symm
          · exact hv hm
        · exact ih (by simp [hr, h])

/-- Joining the pieces of a path gives the path back. -/
theorem join_pieces (p : String) : joinPieces (pieces p) = p := by
  simp [joinPieces, pieces, List.map_map, Function.comp_def, joinRuns_runs]

/-- Cutting a join gives the pieces back, when there are some and none holds a slash. -/
theorem pieces_join {ps : List String} (hne : ps ≠ []) (h : ∀ s ∈ ps, '/' ∉ s.toList) :
    pieces (joinPieces ps) = ps := by
  have hr : runs (joinRuns (ps.map String.toList)) = ps.map String.toList :=
    runs_joinRuns (by simpa using hne) (by
      intro w hw
      obtain ⟨s, hs, rfl⟩ := List.mem_map.mp hw
      exact h s hs)
  simp [pieces, joinPieces, hr, List.map_map, Function.comp_def]

end Path
end Gatehouse
