/-
# The normal form of a path

A path leads somewhere from every folder.  `walk` says where, in the plain way of a shell: `..` goes
one folder up whatever that is, and stays at the root.  Cleaning takes a path to the one normal form
that leads to the same from everywhere.

* `walk_clean`: **a path and its clean form lead to the same, from every folder**;
* `isNormal_clean`, `clean_eq_self_iff`: **a clean path is in normal form, and a path in normal form
  is clean already**;
* `clean_normal_form`: **two paths that start alike have one clean form exactly if they lead to the
  same from every folder**; the root and one folder that is deep enough tell them apart
  (`descent_inj`).
-/
import Gatehouse.Proofs.Path.Climbing

namespace Gatehouse
namespace Path

/-! ## 1. Where a path leads -/

/-- Where one piece of a path leads from a folder, given by its names, innermost first. -/
def enter (stack : List String) (piece : String) : List String :=
  if piece = "" ∨ piece = "." then stack
  else if piece = ".." then stack.tail
  else piece :: stack

/-- Where a path leads from a folder.  A rooted path starts at the root. -/
def walk (stack : List String) (p : String) : List String :=
  (pieces p).foldl enter (if isRooted p then [] else stack)

theorem enter_proper {s : String} (h : IsProper s) (stack : List String) :
    enter stack s = s :: stack := by
  simp [enter, h.isName.1, h.ne_dot, h.ne_dots]

/-- Without a `..` on the stack, a rooted path is cleaned as it is walked. -/
theorem visit_eq_enter {stack : List String} (h : ∀ s ∈ stack, IsProper s) (piece : String) :
    visit true stack piece = enter stack piece := by
  unfold visit enter
  split
  · rfl
  · split
    · cases stack with
      | nil => rfl
      | cons top rest => simp [climb, (h top List.mem_cons_self).ne_dots]
    · rfl

theorem foldl_visit_eq_enter {ps : List String} (hps : ∀ piece ∈ ps, '/' ∉ piece.toList)
    {stack : List String} (h : ∀ s ∈ stack, IsProper s) :
    ps.foldl (visit true) stack = ps.foldl enter stack := by
  induction ps generalizing stack with
  | nil => rfl
  | cons piece ps ih =>
    have hpiece := hps piece List.mem_cons_self
    rw [List.foldl_cons, List.foldl_cons, ← visit_eq_enter h]
    exact ih (fun q hq => hps q (List.mem_cons_of_mem _ hq)) (visit_isProper h hpiece)

/-- A rooted path leads to the names that cleaning leaves of it. -/
theorem walk_of_isRooted {p : String} (hp : isRooted p = true) (stack : List String) :
    walk stack p = resolve [] p := by
  rw [walk, hp, if_pos rfl, resolve,
    foldl_visit_eq_enter (fun _ => not_mem_of_mem_pieces) (List.forall_mem_nil _)]

/-- Names lead down, one below the other. -/
theorem foldl_enter_proper {ns : List String} (h : ∀ s ∈ ns, IsProper s) (stack : List String) :
    ns.foldl enter stack = ns.reverse ++ stack := by
  induction ns generalizing stack with
  | nil => rfl
  | cons s ns ih =>
    rw [List.foldl_cons, enter_proper (h s List.mem_cons_self),
      ih fun t ht => h t (List.mem_cons_of_mem _ ht), List.reverse_cons, List.append_assoc]
    rfl

/-- So many `..` lead so many folders up. -/
theorem foldl_enter_dots (n : Nat) (stack : List String) :
    (List.replicate n "..").foldl enter stack = stack.drop n := by
  induction n generalizing stack with
  | zero => rfl
  | succ n ih =>
    have hup : enter stack ".." = stack.tail := rfl
    rw [List.replicate_succ, List.foldl_cons, hup, ih, List.drop_tail]

/-! ## 2. What is left of a relative path -/

/-- What cleaning leaves of a relative path: it goes `n` folders up, and then down these names. -/
def descent (n : Nat) (ns : List String) : List String := List.replicate n ".." ++ ns

theorem foldl_enter_descent {ns : List String} (h : ∀ s ∈ ns, IsProper s) (n : Nat)
    (stack : List String) : (descent n ns).foldl enter stack = ns.reverse ++ stack.drop n := by
  rw [descent, List.foldl_append, foldl_enter_dots, foldl_enter_proper h]

theorem isStep_of_mem_descent {n : Nat} {ns : List String} (h : ∀ s ∈ ns, IsProper s) :
    ∀ s ∈ descent n ns, IsStep s := by
  intro s hs
  rcases List.mem_append.mp hs with hs | hs
  · rw [List.eq_of_mem_replicate hs]
    exact ⟨⟨by decide, by decide⟩, by decide⟩
  · exact ⟨(h s hs).isName, (h s hs).ne_dot⟩

/-- **One more piece**: what is left of a relative path goes on as the path itself does.  The names
are innermost first here, with the `..` below them. -/
theorem visit_descent {ns : List String} (h : ∀ s ∈ ns, IsProper s) (n : Nat) {piece : String}
    (hpiece : '/' ∉ piece.toList) :
    ∃ ns' n', (∀ s ∈ ns', IsProper s) ∧
      visit false (ns ++ List.replicate n "..") piece = ns' ++ List.replicate n' ".." ∧
      ∀ stack : List String, enter (ns ++ stack.drop n) piece = ns' ++ stack.drop n' := by
  by_cases hplain : piece = "" ∨ piece = "."
  · exact ⟨ns, n, h, by simp only [visit, if_pos hplain], fun _ => by
      simp only [enter, if_pos hplain]⟩
  · obtain ⟨hne, hdot⟩ := not_or.mp hplain
    by_cases hdots : piece = ".."
    · subst hdots
      cases ns with
      | cons top rest =>
        have htop := (h top List.mem_cons_self).ne_dots
        exact ⟨rest, n, fun s hs => h s (List.mem_cons_of_mem _ hs), by simp [visit, climb, htop],
          fun _ => rfl⟩
      | nil =>
        -- no name is left to go up from, and the `..` before this one do not make one
        refine ⟨[], n + 1, h, ?_, fun stack => ?_⟩
        · cases n <;> rfl
        · exact List.tail_drop
    · refine ⟨piece :: ns, n, List.forall_mem_cons.mpr ⟨⟨⟨hne, hpiece⟩, hdot, hdots⟩, h⟩, ?_,
        fun stack => ?_⟩
      · simp [visit, hplain, hdots]
      · simp [enter, hplain, hdots]

theorem foldl_visit_descent {ps : List String} (hps : ∀ piece ∈ ps, '/' ∉ piece.toList)
    {ns : List String} (h : ∀ s ∈ ns, IsProper s) (n : Nat) :
    ∃ ns' n', (∀ s ∈ ns', IsProper s) ∧
      ps.foldl (visit false) (ns ++ List.replicate n "..") = ns' ++ List.replicate n' ".." ∧
      ∀ stack : List String, ps.foldl enter (ns ++ stack.drop n) = ns' ++ stack.drop n' := by
  induction ps generalizing ns n with
  | nil => exact ⟨ns, n, h, rfl, fun _ => rfl⟩
  | cons piece ps ih =>
    obtain ⟨ns₁, n₁, h₁, hvisit, henter⟩ := visit_descent h n (hps piece List.mem_cons_self)
    obtain ⟨ns₂, n₂, h₂, hvisits, henters⟩ :=
      ih (fun q hq => hps q (List.mem_cons_of_mem _ hq)) h₁ n₁
    refine ⟨ns₂, n₂, h₂, ?_, fun stack => ?_⟩
    · rw [List.foldl_cons, hvisit, hvisits]
    · rw [List.foldl_cons, henter, henters]

/-- **What cleaning leaves of a relative path** leads where the path does. -/
theorem exists_descent {p : String} (hp : isRooted p = false) :
    ∃ n ns, (∀ s ∈ ns, IsProper s) ∧ cleanNames p = descent n ns ∧
      ∀ stack, walk stack p = ns.reverse ++ stack.drop n := by
  obtain ⟨ns, n, h, hvisit, henter⟩ :=
    @foldl_visit_descent (pieces p) (fun _ => not_mem_of_mem_pieces) [] (List.forall_mem_nil _) 0
  refine ⟨n, ns.reverse, fun s hs => h s (List.mem_reverse.mp hs), ?_, fun stack => ?_⟩
  · have hleft : (pieces p).foldl (visit false) [] = ns ++ List.replicate n ".." := hvisit
    rw [cleanNames, hp, hleft, List.reverse_append, List.reverse_replicate, descent]
  · rw [walk, hp, List.reverse_reverse]
    exact henter stack

/-- Two folders tell apart what is left of relative paths: the root, and one that is deep enough. -/
theorem descent_inj {n n' : Nat} {ns ns' : List String}
    (h : ∀ stack : List String, (∀ s ∈ stack, IsProper s) →
      ns.reverse ++ stack.drop n = ns'.reverse ++ stack.drop n') : n = n' ∧ ns = ns' := by
  have hroot := h [] (List.forall_mem_nil _)
  rw [List.drop_nil, List.drop_nil, List.append_nil, List.append_nil] at hroot
  have hdeep := h (List.replicate (max n n') "a") fun s hs => by
    rw [List.eq_of_mem_replicate hs]
    exact ⟨⟨by decide, by decide⟩, by decide, by decide⟩
  rw [hroot, List.append_cancel_left_eq] at hdeep
  have hlength := congrArg List.length hdeep
  rw [List.length_drop, List.length_drop, List.length_replicate] at hlength
  exact ⟨by omega, List.reverse_inj.mp hroot⟩

/-- A relative path is cleaned to what is left of it, written down; if that is nothing, to `.`. -/
theorem clean_of_not_isRooted {p : String} (hp : isRooted p = false) :
    clean p = if cleanNames p = [] then "." else joinPieces (cleanNames p) := by
  rw [clean, hp, if_neg Bool.false_ne_true]

/-! ## 3. Normal forms -/

/-- The segments of a path: its pieces behind the slash that roots it. -/
def segments (p : String) : List String := if isRooted p then (pieces p).tail else pieces p

/-- A path in normal form: no segment is empty or `.` but in the paths `/` and `.` themselves, and a
`..` stands only in front of a relative path. -/
structure IsNormal (p : String) : Prop where
  plain : p ≠ "/" → p ≠ "." → ∀ s ∈ segments p, s ≠ "" ∧ s ≠ "."
  rooted : isRooted p = true → ".." ∉ segments p
  relative : isRooted p = false → ∃ n ns, segments p = List.replicate n ".." ++ ns ∧ ".." ∉ ns

/-- A rooted path is the slash that roots it, and the rest. -/
theorem exists_slash_append {p : String} (hp : isRooted p = true) : ∃ rest, p = "/" ++ rest := by
  obtain ⟨cs, hcs⟩ : ∃ cs, p.toList = '/' :: cs := by
    simpa [isRooted, List.head?_eq_some_iff] using hp
  refine ⟨String.ofList cs, ?_⟩
  rw [← String.toList_inj, String.toList_append, String.toList_ofList, hcs]
  simp

theorem segments_slash_append (rest : String) : segments ("/" ++ rest) = pieces rest := by
  rw [segments, if_pos (isRooted_slash_append rest), pieces_slash_append, List.tail_cons]

theorem segments_of_not_isRooted {p : String} (hp : isRooted p = false) :
    segments p = pieces p := by
  rw [segments, hp, if_neg Bool.false_ne_true]

/-- Names behind a slash are in normal form. -/
theorem isNormal_slash_append {ns : List String} (h : ∀ s ∈ ns, IsProper s) :
    IsNormal ("/" ++ joinPieces ns) := by
  by_cases hnone : ns = []
  · subst hnone
    exact ⟨fun hne => absurd rfl hne, fun _ => by decide, nofun⟩
  · have hsegments : segments ("/" ++ joinPieces ns) = ns := by
      rw [segments_slash_append, pieces_join hnone fun s hs => (h s hs).isName.2]
    refine ⟨fun _ _ s hs => ?_, fun _ hdots => ?_, fun hfalse => ?_⟩
    · rw [hsegments] at hs
      exact ⟨(h s hs).isName.1, (h s hs).ne_dot⟩
    · rw [hsegments] at hdots
      exact (h _ hdots).ne_dots rfl
    · rw [isRooted_slash_append] at hfalse
      cases hfalse

/-- What is left of a relative path is relative and in normal form. -/
theorem isNormal_descent {n : Nat} {ns : List String} (h : ∀ s ∈ ns, IsProper s)
    (hsome : descent n ns ≠ []) :
    isRooted (joinPieces (descent n ns)) = false ∧ IsNormal (joinPieces (descent n ns)) := by
  have hsteps : ∀ s ∈ descent n ns, IsStep s := isStep_of_mem_descent h
  have hpieces : pieces (joinPieces (descent n ns)) = descent n ns :=
    pieces_join hsome fun s hs => (hsteps s hs).1.2
  have hrelative : isRooted (joinPieces (descent n ns)) = false := by
    -- a slash in front would leave an empty piece
    refine Bool.eq_false_iff.mpr fun hrooted => ?_
    obtain ⟨rest, hrest⟩ := exists_slash_append hrooted
    rw [hrest, pieces_slash_append] at hpieces
    exact (hsteps "" (hpieces ▸ List.mem_cons_self)).1.1 rfl
  have hsegments : segments (joinPieces (descent n ns)) = descent n ns :=
    (segments_of_not_isRooted hrelative).trans hpieces
  refine ⟨hrelative, fun _ _ s hs => ?_, fun hrooted => ?_, fun _ => ⟨n, ns, hsegments, ?_⟩⟩
  · rw [hsegments] at hs
    exact ⟨(hsteps s hs).1.1, (hsteps s hs).2⟩
  · rw [hrelative] at hrooted
    cases hrooted
  · exact fun hdots => (h _ hdots).ne_dots rfl

/-- **A clean path is in normal form**, and it is rooted exactly if the path is. -/
theorem isNormal_clean (p : String) : isRooted (clean p) = isRooted p ∧ IsNormal (clean p) := by
  cases hp : isRooted p with
  | true =>
    have hclean : clean p = "/" ++ joinPieces (resolve [] p).reverse := by
      rw [clean_of_isRooted hp]
      simp [absolute]
    rw [hclean]
    exact ⟨isRooted_slash_append _, isNormal_slash_append fun s hs =>
      resolve_nil_isProper p s (List.mem_reverse.mp hs)⟩
  | false =>
    obtain ⟨n, ns, h, hleft, -⟩ := exists_descent hp
    rw [clean_of_not_isRooted hp, hleft]
    split
    · exact ⟨rfl, fun _ hne => absurd rfl hne, fun hroot => absurd hroot (by decide),
        fun _ => ⟨0, ["."], by decide, by decide⟩⟩
    · rename_i hsome
      exact isNormal_descent h hsome

/-- A segment of a path in normal form that is not a `..` is a name. -/
theorem IsNormal.isProper {p s : String} (h : IsNormal p) (hroot : p ≠ "/") (hdot : p ≠ ".")
    (hs : s ∈ segments p) (hne : s ≠ "..") : IsProper s := by
  have hslash : '/' ∉ s.toList := by
    unfold segments at hs
    split at hs
    · exact not_mem_of_mem_pieces (List.mem_of_mem_tail hs)
    · exact not_mem_of_mem_pieces hs
  obtain ⟨hempty, hplain⟩ := h.plain hroot hdot s hs
  exact ⟨⟨hempty, hslash⟩, hplain, hne⟩

/-- A path in normal form is clean already. -/
theorem IsNormal.clean_eq {p : String} (h : IsNormal p) : clean p = p := by
  by_cases hroot : p = "/"
  · rw [hroot]
    rfl
  · by_cases hdot : p = "."
    · rw [hdot]
      rfl
    · have hproper := fun s => h.isProper (s := s) hroot hdot
      cases hp : isRooted p with
      | true =>
        obtain ⟨rest, rfl⟩ := exists_slash_append hp
        rw [segments_slash_append] at hproper
        have hnames : ∀ s ∈ pieces rest, IsProper s := fun s hs => hproper s hs fun hdots => by
          have hnone := h.rooted hp
          rw [segments_slash_append] at hnone
          exact hnone (hdots ▸ hs)
        have hread : resolve [] ("/" ++ rest) = (pieces rest).reverse := by
          rw [resolve_slash_append, resolve, foldl_visit_proper hnames, List.append_nil]
        rw [clean_of_isRooted hp, hread]
        simp [absolute, join_pieces]
      | false =>
        obtain ⟨n, ns, hsegments, hnone⟩ := h.relative hp
        rw [hsegments] at hproper
        have hnames : ∀ s ∈ ns, IsProper s := fun s hs =>
          hproper s (List.mem_append_right _ hs) fun hdots => hnone (hdots ▸ hs)
        have hpieces : pieces p = descent n ns :=
          (segments_of_not_isRooted hp).symm.trans hsegments
        obtain ⟨n', ns', -, hleft, hwalk⟩ := exists_descent hp
        -- what cleaning leaves leads where the path does, and the way down tells what it was
        have hsame : ∀ stack : List String,
            ns.reverse ++ stack.drop n = ns'.reverse ++ stack.drop n' := by
          intro stack
          rw [← hwalk, ← foldl_enter_descent hnames, ← hpieces, walk, hp,
            if_neg Bool.false_ne_true]
        obtain ⟨rfl, rfl⟩ := descent_inj fun stack _ => hsame stack
        have hsome : pieces p ≠ [] := by simp [pieces, runs_ne_nil]
        rw [clean_of_not_isRooted hp, hleft, ← hpieces, if_neg hsome, join_pieces]

/-- **Paths in normal form are those that cleaning leaves alone.** -/
theorem clean_eq_self_iff (p : String) : clean p = p ↔ IsNormal p :=
  ⟨fun hclean => hclean ▸ (isNormal_clean p).2, IsNormal.clean_eq⟩

/-! ## 4. One normal form -/

/-- **A path and its clean form lead to the same**, from every folder. -/
theorem walk_clean (p : String) (stack : List String) : walk stack (clean p) = walk stack p := by
  cases hp : isRooted p with
  | true =>
    have hclean := (isNormal_clean p).1.trans hp
    rw [walk_of_isRooted hclean, walk_of_isRooted hp, clean_of_isRooted hp,
      resolve_absolute (resolve_nil_isProper p)]
  | false =>
    obtain ⟨n, ns, h, hleft, hwalk⟩ := exists_descent hp
    rw [hwalk, ← foldl_enter_descent h, walk, (isNormal_clean p).1, hp, if_neg Bool.false_ne_true,
      clean_of_not_isRooted hp, hleft]
    split
    · rename_i hnone
      rw [hnone]
      rfl
    · rename_i hsome
      rw [pieces_join hsome fun s hs => (isStep_of_mem_descent h s hs).1.2]

/-- **Paths that start alike have one clean form if they lead to the same** from every folder whose
names are proper. -/
theorem clean_eq_of_walk_eq {p q : String} (hpq : isRooted p = isRooted q)
    (h : ∀ stack, (∀ s ∈ stack, IsProper s) → walk stack p = walk stack q) : clean p = clean q := by
  cases hp : isRooted p with
  | true =>
    have hq := hpq.symm.trans hp
    have hroot := h [] (List.forall_mem_nil _)
    rw [walk_of_isRooted hp, walk_of_isRooted hq] at hroot
    rw [clean_of_isRooted hp, clean_of_isRooted hq, hroot]
  | false =>
    have hq := hpq.symm.trans hp
    obtain ⟨n, ns, -, hleft, hwalk⟩ := exists_descent hp
    obtain ⟨n', ns', -, hleft', hwalk'⟩ := exists_descent hq
    obtain ⟨rfl, rfl⟩ := descent_inj fun stack hstack =>
      (hwalk stack).symm.trans ((h stack hstack).trans (hwalk' stack))
    rw [clean_of_not_isRooted hp, clean_of_not_isRooted hq, hleft, hleft']

/-- **The normal form of a path.**  A path and its clean form start alike and lead to the same from
every folder, whatever its names.  The clean form is in normal form, so that it is clean itself.
And it is the only one: a path that starts alike has the same clean form exactly if it leads to the
same from every folder, or only from those whose names are proper. -/
theorem clean_normal_form (p : String) :
    isRooted (clean p) = isRooted p ∧
      (∀ stack, walk stack (clean p) = walk stack p) ∧
      IsNormal (clean p) ∧ clean (clean p) = clean p ∧
      ∀ q, isRooted q = isRooted p →
        (clean p = clean q ↔ ∀ stack, walk stack p = walk stack q) ∧
        (clean p = clean q ↔
          ∀ stack, (∀ s ∈ stack, IsProper s) → walk stack p = walk stack q) := by
  obtain ⟨hrooted, hnormal⟩ := isNormal_clean p
  refine ⟨hrooted, walk_clean p, hnormal, hnormal.clean_eq, fun q hq => ?_⟩
  have hsame : clean p = clean q → ∀ stack, walk stack p = walk stack q := fun hclean stack => by
    rw [← walk_clean p, hclean, walk_clean]
  exact ⟨⟨hsame, fun h => clean_eq_of_walk_eq hq.symm fun stack _ => h stack⟩,
    ⟨fun hclean stack _ => hsame hclean stack, clean_eq_of_walk_eq hq.symm⟩⟩

/-- A path that climbs above its start twice, the second time behind a name of its own, has the
clean form of the plain one; and one step less leads elsewhere. -/
theorem clean_normal_form_climbing :
    isRooted "../b/./../..//c/" = isRooted "../../c" ∧ clean "../b/./../..//c/" = "../../c" ∧
      (∀ stack, walk stack "../b/./../..//c/" = walk stack "../../c") ∧
      ¬ ∀ stack, walk stack "../c" = walk stack "../../c" := by
  have hstart : isRooted "../../c" = isRooted "../b/./../..//c/" := rfl
  have hstart' : isRooted "../../c" = isRooted "../c" := rfl
  obtain ⟨-, -, -, -, honly⟩ := clean_normal_form "../b/./../..//c/"
  obtain ⟨-, -, -, -, hother⟩ := clean_normal_form "../c"
  have hclean : clean "../b/./../..//c/" = clean "../../c" := rfl
  refine ⟨hstart.symm, rfl, (honly _ hstart).1.mp hclean, fun hsame => ?_⟩
  exact absurd ((hother _ hstart').1.mpr hsame) (by decide)

end Path
end Gatehouse
