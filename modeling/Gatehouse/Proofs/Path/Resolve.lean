/-
# Resolving paths below a rooted base

A rooted path is read with a stack of names, innermost first.  `resolve` reads any path on top of
such a stack, and `absolute` writes a stack down again, with a slash behind it if asked.  The two
undo each other on stacks of proper names (`resolve_absolute`), so nothing is lost when a path is
cleaned before more is put behind it.

* `under_eq`: what `Path.under` makes of a rooted base and a path that is not empty;
* `under_under`: **placing one path below another is associative**;
* `foldlM_under`: the same for any number of paths, empty ones among them;
* `IsCanonical.under`: what is placed below a clean path is clean.
-/
import Gatehouse.Path.Clean
import Gatehouse.Proofs.Path.Pieces

namespace Gatehouse
namespace Path

/-! ## 1. Proper names -/

/-- A piece that a clean path keeps wherever it stands. -/
structure IsProper (s : String) : Prop where
  isName : IsName s
  ne_dot : s ≠ "."
  ne_dots : s ≠ ".."

/-- The stack after a path is read on top of it, as below a root. -/
def resolve (stack : List String) (p : String) : List String := (pieces p).foldl (visit true) stack

/-- The rooted path that leads to a stack. -/
def absolute (stack : List String) (slash : Bool) : String :=
  "/" ++ joinPieces stack.reverse ++ (if slash ∧ stack ≠ [] then "/" else "")

theorem visit_empty (stack : List String) : visit true stack "" = stack := by simp [visit]

theorem visit_proper {s : String} (h : IsProper s) (stack : List String) :
    visit true stack s = s :: stack := by
  simp [visit, h.isName.1, h.ne_dot, h.ne_dots]

/-- One more piece keeps a stack proper. -/
theorem visit_isProper {stack : List String} (h : ∀ s ∈ stack, IsProper s) {piece : String}
    (hpiece : '/' ∉ piece.toList) : ∀ s ∈ visit true stack piece, IsProper s := by
  unfold visit
  split
  · exact h
  · rename_i hplain
    obtain ⟨hne, hdot⟩ := not_or.mp hplain
    split
    · -- climbing drops a name or stays at the root
      cases stack with
      | nil => simp [climb]
      | cons top rest =>
        have htop := (h top List.mem_cons_self).ne_dots
        simpa [climb, htop] using fun s hs => h s (List.mem_cons_of_mem _ hs)
    · rename_i hdots
      intro s hs
      rcases List.mem_cons.mp hs with rfl | hs
      · exact ⟨⟨hne, hpiece⟩, hdot, hdots⟩
      · exact h s hs

theorem foldl_visit_isProper :
    ∀ (ps : List String) (stack : List String), (∀ s ∈ stack, IsProper s) →
      (∀ piece ∈ ps, '/' ∉ piece.toList) → ∀ s ∈ ps.foldl (visit true) stack, IsProper s
  | [], _, h, _ => h
  | piece :: ps, _, h, hps =>
    foldl_visit_isProper ps _ (visit_isProper h (hps piece List.mem_cons_self))
      fun q hq => hps q (List.mem_cons_of_mem _ hq)

/-- **Reading a path keeps a stack proper.** -/
theorem resolve_isProper {stack : List String} (h : ∀ s ∈ stack, IsProper s) (p : String) :
    ∀ s ∈ resolve stack p, IsProper s :=
  foldl_visit_isProper (pieces p) stack h fun _ => not_mem_of_mem_pieces

theorem resolve_nil_isProper (p : String) : ∀ s ∈ resolve [] p, IsProper s :=
  resolve_isProper (by simp) p

/-- Two paths are read one after the other. -/
theorem resolve_append (stack : List String) (a b : String) :
    resolve stack (a ++ "/" ++ b) = resolve (resolve stack a) b := by
  simp [resolve, pieces_append]

theorem resolve_slash_append (stack : List String) (p : String) :
    resolve stack ("/" ++ p) = resolve stack p := by
  simp [resolve, pieces_slash_append, visit_empty]

theorem resolve_append_slash (stack : List String) (p : String) :
    resolve stack (p ++ "/") = resolve stack p := by
  simp [resolve, pieces_append_slash, visit_empty]

theorem foldl_visit_proper {ns : List String} (h : ∀ s ∈ ns, IsProper s) (stack : List String) :
    ns.foldl (visit true) stack = ns.reverse ++ stack := by
  induction ns generalizing stack with
  | nil => rfl
  | cons s ns ih =>
    rw [List.foldl_cons, visit_proper (h s List.mem_cons_self),
      ih (fun t ht => h t (List.mem_cons_of_mem _ ht)), List.reverse_cons, List.append_assoc]
    rfl

/-- Names put together lead to themselves. -/
theorem resolve_joinPieces {ns : List String} (h : ∀ s ∈ ns, IsProper s) :
    resolve [] (joinPieces ns) = ns.reverse := by
  by_cases hne : ns = []
  · subst hne; rfl
  · rw [resolve, pieces_join hne fun s hs => (h s hs).isName.2, foldl_visit_proper h,
      List.append_nil]

/-- **Writing a proper stack down and reading it again gives it back**, whatever slash stands at
the end. -/
theorem resolve_absolute {stack : List String} (h : ∀ s ∈ stack, IsProper s) (slash : Bool) :
    resolve [] (absolute stack slash) = stack := by
  have hread : resolve [] ("/" ++ joinPieces stack.reverse) = stack := by
    rw [resolve_slash_append, resolve_joinPieces fun s hs => h s (List.mem_reverse.mp hs),
      List.reverse_reverse]
  unfold absolute
  split
  · rw [resolve_append_slash, hread]
  · simpa using hread

/-- The names of a written stack, outermost first. -/
theorem names_absolute {stack : List String} (h : ∀ s ∈ stack, IsProper s) (slash : Bool) :
    names (absolute stack slash) = stack.reverse := by
  have hnames : names ("/" ++ joinPieces stack.reverse) = stack.reverse := by
    rw [names_slash_append, names_joinPieces fun s hs => (h s (List.mem_reverse.mp hs)).isName]
  unfold absolute
  split
  · rw [names_append_slash, hnames]
  · simpa using hnames

/-! ## 2. Clean paths below a root -/

theorem isRooted_slash_append (p : String) : isRooted ("/" ++ p) = true := by
  simp [isRooted, String.toList_append]

theorem isRooted_append {a : String} (h : isRooted a = true) (b : String) :
    isRooted (a ++ b) = true := by
  obtain ⟨cs, hcs⟩ : ∃ cs, a.toList = '/' :: cs := by
    simpa [isRooted, List.head?_eq_some_iff] using h
  simp [isRooted, String.toList_append, hcs]

theorem ne_empty_of_isRooted {p : String} (h : isRooted p = true) : p ≠ "" := by
  rintro rfl
  simp [isRooted] at h

theorem isRooted_absolute (stack : List String) (slash : Bool) :
    isRooted (absolute stack slash) = true := by
  rw [absolute, String.append_assoc]
  exact isRooted_slash_append _

/-- A rooted path is cleaned to the path of the stack that it leads to. -/
theorem clean_of_isRooted {p : String} (h : isRooted p = true) :
    clean p = absolute (resolve [] p) false := by
  simp [clean, cleanNames, h, absolute, resolve]

/-- A clean rooted path ends in a slash at the root alone. -/
theorem endsInSlash_absolute {stack : List String} (h : ∀ s ∈ stack, IsProper s) :
    endsInSlash (absolute stack false) = decide (stack = []) := by
  by_cases hne : stack = []
  · subst hne; rfl
  · have hjoin : joinPieces stack.reverse ≠ "" := fun he =>
      hne (List.reverse_eq_nil_iff.mp ((joinPieces_eq_empty_iff fun s hs =>
        (h s (List.mem_reverse.mp hs)).isName.1).mp he))
    have habs : absolute stack false = "/" ++ joinPieces stack.reverse := by simp [absolute]
    rw [habs, endsInSlash_append hjoin,
      endsInSlash_joinPieces fun s hs => (h s (List.mem_reverse.mp hs)).isName]
    simp [hne]

/-! ## 3. One path below another -/

/-- **A path below a rooted base**: its pieces are read on top of the base's stack, and a slash at
its end is kept. -/
theorem under_eq {base r : String} (hbase : isRooted base = true) (hr : r ≠ "") :
    under base r = .ok (absolute (resolve (resolve [] base) r) (endsInSlash r)) := by
  have hproper := resolve_isProper (resolve_nil_isProper base) r
  have hjoin : join base r = absolute (resolve (resolve [] base) r) false := by
    have hrooted : isRooted (base ++ "/" ++ r) = true := by
      rw [String.append_assoc]
      exact isRooted_append hbase _
    simp only [join, ne_empty_of_isRooted hbase, hr, if_false]
    rw [clean_of_isRooted hrooted, resolve_append]
  have hne := ne_empty_of_isRooted (isRooted_absolute (resolve (resolve [] base) r) false)
  simp only [under, hr, if_false, hjoin, endsInSlash?, hne, endsInSlash_absolute hproper]
  cases endsInSlash r with
  | false => rfl
  | true =>
    by_cases hs : resolve (resolve [] base) r = []
    · simp [hs, absolute, bind, Except.bind, pure, Except.pure]
    · simp [hs, absolute, bind, Except.bind, pure, Except.pure]

theorem under_empty (base : String) : under base "" = .ok base := by simp [under]

/-- Below a rooted base every path has a place, and it is rooted. -/
theorem exists_under {base : String} (hbase : isRooted base = true) (r : String) :
    ∃ p, under base r = .ok p ∧ isRooted p = true := by
  by_cases hr : r = ""
  · subst hr
    exact ⟨base, under_empty base, hbase⟩
  · exact ⟨_, under_eq hbase hr, isRooted_absolute _ _⟩

/-- A rooted path in its clean form, with or without a slash behind it. -/
def IsCanonical (p : String) : Prop := ∃ slash, p = absolute (resolve [] p) slash

theorem isCanonical_absolute {stack : List String} (h : ∀ s ∈ stack, IsProper s) (slash : Bool) :
    IsCanonical (absolute stack slash) := ⟨slash, by rw [resolve_absolute h]⟩

/-- **What is placed below a canonical path is canonical.** -/
theorem IsCanonical.under {base r p : String} (hbase : IsCanonical base)
    (hrooted : isRooted base = true) (hp : under base r = .ok p) : IsCanonical p := by
  by_cases hr : r = ""
  · subst hr
    rw [under_empty] at hp
    exact Except.ok.inj hp ▸ hbase
  · rw [under_eq hrooted hr] at hp
    rw [← Except.ok.inj hp]
    exact isCanonical_absolute (resolve_isProper (resolve_nil_isProper base) r) _

/-- **Placing one path below another is associative.** -/
theorem under_under {base below r r' : String} (hbase : isRooted base = true) (hr : r ≠ "")
    (hr' : r' ≠ "") (hbelow : under base r = .ok below) :
    under below r' = under base (r ++ "/" ++ r') := by
  have hjoined : r ++ "/" ++ r' ≠ "" := fun h => by
    rw [← String.toList_inj] at h
    simp [String.toList_append] at h
  rw [under_eq hbase hr, Except.ok.injEq] at hbelow
  subst hbelow
  rw [under_eq (isRooted_absolute _ _) hr', under_eq hbase hjoined,
    resolve_absolute (resolve_isProper (resolve_nil_isProper base) r), resolve_append,
    endsInSlash_append hr']

/-- Paths put together with slashes, empty ones left out. -/
def joinAll (rs : List String) : String := joinPieces (rs.filter (· ≠ ""))

theorem joinAll_cons_empty (rs : List String) : joinAll ("" :: rs) = joinAll rs := by
  simp [joinAll]

theorem joinAll_cons {r : String} (hr : r ≠ "") (rs : List String) :
    joinAll (r :: rs) = if joinAll rs = "" then r else r ++ "/" ++ joinAll rs := by
  have hfilter : ∀ s ∈ rs.filter (· ≠ ""), s ≠ "" := fun s hs => by
    simpa using (List.mem_filter.mp hs).2
  have hcons : (r :: rs).filter (· ≠ "") = r :: rs.filter (· ≠ "") :=
    List.filter_cons_of_pos (by simpa using hr)
  unfold joinAll
  rw [hcons]
  cases hf : rs.filter (· ≠ "") with
  | nil => simp
  | cons s ss =>
    have hne : joinPieces (s :: ss) ≠ "" := fun h => by
      have := (joinPieces_eq_empty_iff (hf ▸ hfilter)).mp h
      exact absurd this (by simp)
    rw [joinPieces_cons_cons, if_neg hne]

/-- **Placing paths below a rooted base one after the other places their join below it.** -/
theorem foldlM_under (rs : List String) {base : String} (hbase : isRooted base = true) :
    rs.foldlM under base = under base (joinAll rs) := by
  induction rs generalizing base with
  | nil => exact (under_empty base).symm
  | cons r rs ih =>
    obtain ⟨below, hbelow, hrooted⟩ := exists_under hbase r
    have hstep : (r :: rs).foldlM under base = rs.foldlM under below := by
      rw [List.foldlM_cons, hbelow]
      rfl
    rw [hstep, ih hrooted]
    by_cases hr : r = ""
    · subst hr
      rw [under_empty, Except.ok.injEq] at hbelow
      rw [joinAll_cons_empty, hbelow]
    · rw [joinAll_cons hr]
      split
      · rename_i hrest
        rw [hrest, under_empty, hbelow]
      · rename_i hrest
        exact under_under hbase hr hrest hbelow

end Path
end Gatehouse
