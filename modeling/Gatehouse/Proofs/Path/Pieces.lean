/-
# Pieces of joined paths

Two paths with a slash between them have the pieces of the one and then those of the other
(`pieces_append`), so their names follow each other as well (`names_append`).  Joining names that
hold no slash can be undone (`names_joinPieces`), whatever slashes stand around the join.
-/
import Gatehouse.Path.Segments

namespace Gatehouse
namespace Path

/-! ## 1. Two paths with a slash between them -/

theorem runs_append_slash (cs ds : List Char) : runs (cs ++ '/' :: ds) = runs cs ++ runs ds := by
  induction cs with
  | nil => simp [runs]
  | cons c cs ih =>
    by_cases hc : c = '/'
    · simp [runs, hc, ih]
    · obtain ⟨w, ws, hw⟩ := List.exists_cons_of_ne_nil (runs_ne_nil cs)
      simp [runs, hc, ih, hw]

theorem pieces_append (a b : String) : pieces (a ++ "/" ++ b) = pieces a ++ pieces b := by
  simp [pieces, String.toList_append, runs_append_slash]

theorem names_append (a b : String) : names (a ++ "/" ++ b) = names a ++ names b := by
  simp [names, pieces_append]

theorem not_mem_of_mem_pieces {p piece : String} (h : piece ∈ pieces p) : '/' ∉ piece.toList := by
  obtain ⟨w, hw, rfl⟩ := List.mem_map.mp h
  rw [String.toList_ofList]
  exact not_mem_of_mem_runs hw

@[simp] theorem pieces_empty : pieces "" = [""] := rfl

@[simp] theorem names_empty : names "" = [] := rfl

/-- A slash in front leaves an empty piece. -/
theorem pieces_slash_append (p : String) : pieces ("/" ++ p) = "" :: pieces p := by
  simpa using pieces_append "" p

/-- A slash behind leaves an empty piece. -/
theorem pieces_append_slash (p : String) : pieces (p ++ "/") = pieces p ++ [""] := by
  simpa using pieces_append p ""

theorem names_slash_append (p : String) : names ("/" ++ p) = names p := by
  simp [names, pieces_slash_append]

theorem names_append_slash (p : String) : names (p ++ "/") = names p := by
  simp [names, pieces_append_slash]

/-! ## 2. Names -/

/-- A piece that leads down to something: not empty, and without a slash in it. -/
def IsName (s : String) : Prop := s ≠ "" ∧ '/' ∉ s.toList

theorem isName_of_mem_names {p s : String} (h : s ∈ names p) : IsName s := by
  obtain ⟨hp, hne⟩ := List.mem_filter.mp h
  exact ⟨by simpa using hne, not_mem_of_mem_pieces hp⟩

/-- Names put together with slashes can be taken apart again. -/
theorem names_joinPieces {ns : List String} (h : ∀ s ∈ ns, IsName s) :
    names (joinPieces ns) = ns := by
  by_cases hne : ns = []
  · subst hne; rfl
  · rw [names, pieces_join hne fun s hs => (h s hs).2, List.filter_eq_self]
    exact fun s hs => decide_eq_true (h s hs).1

@[simp] theorem joinPieces_nil : joinPieces [] = "" := rfl

@[simp] theorem joinPieces_singleton (s : String) : joinPieces [s] = s := by
  simp [joinPieces, joinRuns]

theorem names_of_isName {s : String} (h : IsName s) : names s = [s] := by
  have hjoin := names_joinPieces (List.forall_mem_singleton.mpr h)
  rwa [joinPieces_singleton] at hjoin

theorem joinPieces_cons_cons (s t : String) (ns : List String) :
    joinPieces (s :: t :: ns) = s ++ "/" ++ joinPieces (t :: ns) := by
  rw [← String.toList_inj]
  simp [joinPieces, joinRuns, String.toList_append]

theorem joinPieces_eq_empty_iff {ns : List String} (h : ∀ s ∈ ns, s ≠ "") :
    joinPieces ns = "" ↔ ns = [] := by
  constructor
  · intro hj
    cases ns with
    | nil => rfl
    | cons s ns =>
      have hs : s ≠ "" := h s List.mem_cons_self
      cases ns with
      | nil => exact absurd (by simpa using hj) hs
      | cons t ns =>
        rw [joinPieces_cons_cons, ← String.toList_inj] at hj
        simp [String.toList_append] at hj
  · rintro rfl; rfl

/-! ## 3. The slash at an end -/

theorem endsInSlash_append {b : String} (hb : b ≠ "") (a : String) :
    endsInSlash (a ++ b) = endsInSlash b := by
  simp [endsInSlash, String.toList_append, List.getLast?_append, hb]

theorem endsInSlash_joinPieces {ns : List String} (h : ∀ s ∈ ns, IsName s) :
    endsInSlash (joinPieces ns) = false := by
  induction ns with
  | nil => rfl
  | cons s ns ih =>
    have hs := h s List.mem_cons_self
    have hns := fun t ht => h t (List.mem_cons_of_mem _ ht)
    cases ns with
    | nil =>
      rw [joinPieces_singleton, endsInSlash, decide_eq_false_iff_not]
      exact fun hl => hs.2 (List.mem_of_getLast? hl)
    | cons t ns =>
      have hne : joinPieces (t :: ns) ≠ "" := fun he =>
        absurd ((joinPieces_eq_empty_iff fun u hu => (hns u hu).1).mp he) (by simp)
      rw [joinPieces_cons_cons, endsInSlash_append hne]
      exact ih hns

end Path
end Gatehouse
