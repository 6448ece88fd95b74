/-
# Where a folder is mounted

A folder is mounted below a group like a route: what stands in front of its own catch-all is a
relative path, placed below the group's base.  There is one difference.  The relative path of a
mount is cleaned by itself first, so that one which is rooted and climbs above its own root stays
below the group, while a route, a file or a subgroup would leave the group.

* `Group.under_mountPattern`: the pattern of a mount;
* `Group.declare_mount_done`: what a mount adds to a table;
* `Site.mount_lands`: **a mount lands where the cleaned relative path does**, and that is where the
  relative path itself leads unless it climbs out of a root of its own;
* `Site.not_mount_lands`: a mount can land elsewhere.
-/
import Gatehouse.Proofs.Path.Climbing
import Gatehouse.Proofs.Route.Views

namespace Gatehouse

/-! ## 1. Paths -/

namespace Path

/-- A written stack, read on top of another one, comes on top of it. -/
theorem resolve_absolute_append {stack : List String} (h : ∀ s ∈ stack, IsProper s)
    (base : List String) : resolve base (absolute stack false) = stack ++ base := by
  have hread : absolute stack false = "/" ++ joinPieces stack.reverse := by simp [absolute]
  by_cases hne : stack = []
  · subst hne
    exact visit_empty base
  · have hsome : stack.reverse ≠ [] := by simpa using hne
    have hproper : ∀ s ∈ stack.reverse, IsProper s := fun s hs => h s (List.mem_reverse.mp hs)
    rw [hread, resolve_slash_append, resolve, pieces_join hsome fun s hs => (hproper s hs).isName.2,
      foldl_visit_proper hproper, List.reverse_reverse]

/-- Different proper stacks are written differently. -/
theorem absolute_inj {stack stack' : List String} (h : ∀ s ∈ stack, IsProper s)
    (h' : ∀ s ∈ stack', IsProper s) :
    absolute stack false = absolute stack' false ↔ stack = stack' := by
  constructor
  · intro heq
    rw [← resolve_absolute h false, heq, resolve_absolute h']
  · rintro rfl
    rfl

/-- The catch-all of a mount. -/
def catchAll : String := "*filepath"

theorem isProper_catchAll : IsProper catchAll := ⟨⟨by decide, by decide⟩, by decide, by decide⟩

theorem resolve_catchAll (stack : List String) :
    resolve stack "/*filepath" = catchAll :: stack := by
  have hpieces : pieces "/*filepath" = ["", catchAll] := rfl
  rw [resolve, hpieces, List.foldl_cons, visit_empty, List.foldl_cons,
    visit_proper isProper_catchAll, List.foldl_nil]

/-- A catch-all below a path below a rooted base. -/
theorem under_under_catchAll {base : String} (hbase : isRooted base = true) (r : String) :
    (under base r >>= fun below => under below "/*filepath") =
      .ok (absolute (catchAll :: resolve (resolve [] base) r) false) := by
  obtain ⟨below, hbelow, hrooted⟩ := exists_under hbase r
  have hread : resolve [] below = resolve (resolve [] base) r := by
    by_cases hr : r = ""
    · subst hr
      rw [under_empty] at hbelow
      rw [← Except.ok.inj hbelow]
      exact (visit_empty _).symm
    · rw [under_eq hbase hr] at hbelow
      rw [← Except.ok.inj hbelow]
      exact resolve_absolute (resolve_isProper (resolve_nil_isProper base) r) _
  rw [hbelow]
  show under below "/*filepath" = _
  rw [under_eq hrooted (by decide), resolve_catchAll, hread]
  rfl

/-- Where a path that is not empty begins does not depend on what is put behind it. -/
theorem isRooted_append_eq {a : String} (ha : a ≠ "") (b : String) :
    isRooted (a ++ b) = isRooted a := by
  obtain ⟨c, cs, hchars⟩ : ∃ c cs, a.toList = c :: cs :=
    List.exists_cons_of_ne_nil (by simpa using ha)
  simp [isRooted, String.toList_append, hchars]

/-- **When a path leads where its clean form does**: always, unless it climbs out of a root of its
own into what is below it. -/
theorem resolve_clean_eq_iff {base : List String} (hbase : ∀ s ∈ base, IsProper s) (r : String) :
    resolve base (clean r) = resolve base r ↔
      ¬ (isRooted r = true ∧ climbsOut r = true ∧ base ≠ []) := by
  cases hr : isRooted r with
  | false => simp [resolve_clean hr]
  | true =>
    have hclean : resolve base (clean r) = resolve [] r ++ base := by
      rw [clean_of_isRooted hr, resolve_absolute_append (resolve_nil_isProper r)]
    rw [hclean, eq_comm, resolve_eq_append_iff hbase]
    cases climbsOut r <;> simp

end Path

/-! ## 2. The pattern of a mount -/

namespace Group

open Gatehouse.Path

/-- What the pattern of a mount leads to: the clean relative path, with the catch-all on top. -/
theorem resolve_mountPattern (base : List String) (r : String) :
    resolve base (mountPattern r) = catchAll :: resolve base (clean r) ∧
      mountPattern r ≠ "" ∧ endsInSlash (mountPattern r) = false := by
  by_cases hr : r = ""
  · subst hr
    exact ⟨resolve_catchAll base, by decide, by decide⟩
  · have hpattern : mountPattern r = clean (r ++ "/" ++ "/*filepath") := by
      have hne : "/*filepath" ≠ "" := by decide
      show join r "/*filepath" = _
      rw [join, if_neg hr, if_neg hne]
    have hread : ∀ stack, resolve stack (r ++ "/" ++ "/*filepath") =
        catchAll :: resolve stack r := by
      intro stack
      rw [resolve_append, resolve_catchAll]
    have hbegins : isRooted (r ++ "/" ++ "/*filepath") = isRooted r := by
      rw [String.append_assoc, isRooted_append_eq hr]
    rw [hpattern]
    refine ⟨?_, clean_ne_empty _, ?_⟩
    · cases hrooted : isRooted r with
      | true =>
        have hproper : ∀ s ∈ catchAll :: resolve [] r, IsProper s :=
          List.forall_mem_cons.mpr ⟨isProper_catchAll, resolve_nil_isProper r⟩
        rw [clean_of_isRooted (hbegins.trans hrooted), hread, clean_of_isRooted hrooted,
          resolve_absolute_append hproper, resolve_absolute_append (resolve_nil_isProper r)]
        rfl
      | false => rw [resolve_clean (hbegins.trans hrooted), hread, resolve_clean hrooted]
    · cases hrooted : isRooted r with
      | true =>
        have hproper := resolve_nil_isProper (r ++ "/" ++ "/*filepath")
        rw [clean_of_isRooted (hbegins.trans hrooted), endsInSlash_absolute hproper, hread]
        rfl
      | false => exact endsInSlash_clean (hbegins.trans hrooted)

/-- **The pattern of a mount below a rooted base.** -/
theorem under_mountPattern {base : String} (hbase : isRooted base = true) (r : String) :
    under base (mountPattern r) =
      .ok (absolute (catchAll :: resolve (resolve [] base) (clean r)) false) := by
  obtain ⟨hread, hne, hslash⟩ := resolve_mountPattern (resolve [] base) r
  rw [under_eq hbase hne, hread, hslash]

section

variable {g : Group} {label relative pattern : String} {m : Mount}

/-- A mount is registered for each of the methods that read. -/
theorem declare_mount (hplain : mentionsParameters relative = false) :
    g.declare (.mount label relative m) =
      g.registerEach (mountPattern relative) [Handler.mount label m] readingMethods := by
  simp only [declare, hplain, Bool.false_eq_true, if_false]

/-- **What a mount adds**: a route for each of the methods that read. -/
theorem declare_mount_done (hplain : mentionsParameters relative = false)
    (hpattern : under g.base (mountPattern relative) = .ok pattern) {t : Table}
    (hdone : ((g.declare (.mount label relative m)).run t).1 = .ok ()) :
    ((g.declare (.mount label relative m)).run t).2.routes = t.routes ++
      readingMethods.map fun method =>
        ⟨method, pattern, g.middleware ++ [Handler.mount label m]⟩ := by
  rw [declare_mount hplain] at hdone ⊢
  exact registerEach_routes hpattern hdone

end

end Group

/-! ## 3. Mounts on a site -/

namespace Site

open Gatehouse.Path

/-- **The base of every group is clean**, with or without a slash behind it. -/
theorem Reachable.isCanonical_base {limit : Nat} {s : Site} (h : s.Reachable limit) {name : String}
    {g : Group} (hg : s.group? name = some g) : IsCanonical g.base := by
  have hevery : s.Every fun g => isRooted g.base = true ∧ IsCanonical g.base := by
    refine Reachable.every (fun _ _ hg => hg) ?_ ⟨by decide, false, rfl⟩ h
    rintro g limit r more made ⟨hrooted, hbase⟩ hmade
    obtain ⟨-, -, hunder⟩ := Group.sub_eq_ok hmade
    obtain ⟨base, hexists, hbelow⟩ := exists_under hrooted r
    obtain rfl := Except.ok.inj (hexists.symm.trans hunder)
    exact ⟨hbelow, hbase.under hrooted hunder⟩
  exact (hevery name g hg).2

/-- A group whose path has no names is that of the whole table. -/
theorem Reachable.resolve_base_eq_nil_iff {limit : Nat} {s : Site} (h : s.Reachable limit)
    {name : String} {g : Group} (hg : s.group? name = some g) :
    resolve [] g.base = [] ↔ g.base = "/" := by
  obtain ⟨slash, hbase⟩ := h.isCanonical_base hg
  constructor
  · intro hnone
    rw [hbase, hnone]
    simp [absolute]
  · intro hroot
    rw [hroot]
    rfl

/-- **Where a mount lands.**  For every group that is held on a site and every relative path without
parameters, a mount that is taken in adds a route for each of the methods that read, all with one
pattern.  That pattern is the catch-all below the place of the *cleaned* relative path.  It is the
one below the place of the relative path itself unless the path is rooted, climbs above its own
root, and the group has a path of its own; and then a mount on the group does, refused or not, what
a mount of nothing does on the subgroup of that relative path. -/
theorem mount_lands {limit : Nat} {s : Site} (hreachable : s.Reachable limit) {on : String}
    {g : Group} (hg : s.group? on = some g) {relative : String}
    (hplain : Group.mentionsParameters relative = false) (label : String) (m : Mount) :
    ∃ pattern composed,
      (under g.base relative >>= fun base => under base "/*filepath") = .ok composed ∧
      (under g.base (clean relative) >>= fun base => under base "/*filepath") = .ok pattern ∧
      (∀ t, ((g.declare (.mount label relative m)).run t).1 = .ok () →
        ((g.declare (.mount label relative m)).run t).2.routes = t.routes ++
          Group.readingMethods.map fun method =>
            ⟨method, pattern, g.middleware ++ [Handler.mount label m]⟩) ∧
      (pattern = composed ↔
        ¬ (isRooted relative = true ∧ climbsOut relative = true ∧ g.base ≠ "/")) ∧
      (pattern = composed → ∀ limit made, g.sub limit relative [] = .ok made →
        ∀ t, (g.declare (.mount label relative m)).run t =
          (made.declare (.mount label "" m)).run t) := by
  have hrooted := hreachable.isRooted_base hg
  have hproper := resolve_nil_isProper g.base
  have hpattern := Group.under_mountPattern hrooted relative
  have hcomposed := under_under_catchAll hrooted relative
  have hproper' : ∀ r, ∀ s ∈ catchAll :: resolve (resolve [] g.base) r, IsProper s := fun r =>
    List.forall_mem_cons.mpr ⟨isProper_catchAll, resolve_isProper hproper r⟩
  refine ⟨_, _, hcomposed, under_under_catchAll hrooted (clean relative),
    fun t hdone => Group.declare_mount_done hplain hpattern hdone, ?_, ?_⟩
  · have hroot : resolve [] g.base ≠ [] ↔ g.base ≠ "/" :=
      not_congr (hreachable.resolve_base_eq_nil_iff hg)
    rw [absolute_inj (hproper' _) (hproper' _), List.cons.injEq, and_iff_right rfl,
      resolve_clean_eq_iff hproper, hroot]
  · intro hsame limit made hmade t
    obtain ⟨hmiddleware, -, hbase⟩ := Group.sub_eq_ok hmade
    rw [Group.declare_mount hplain, Group.declare_mount rfl]
    refine Group.registerEach_congr (by rw [hmiddleware, List.append_nil]) ?_ _ _ t
    rw [hpattern, hsame, ← hcomposed, hbase]
    rfl

/-- A site with a group of its own path. -/
def grouped : Site := (empty 63).execAll [.sub "root" "/api" [] "api"]

/-- A folder that is served from the disk. -/
def www : Mount := ⟨"www", ["index.html"], false⟩

/-- A mount at a rooted relative path that does not climb out of its root. -/
theorem mount_lands_below :
    grouped.Reachable 63 ∧ grouped.group? "api" = some ⟨"/api", []⟩ ∧
      Group.mentionsParameters "/v1/../pub/" = false ∧
      (((⟨"/api", []⟩ : Group).declare (.mount "folder" "/v1/../pub/" www)).run
        grouped.table).2.routes.map Route.pattern =
          ["/api/pub/*filepath", "/api/pub/*filepath"] := by
  have hreachable : grouped.Reachable 63 := ⟨_, rfl⟩
  have hg : grouped.group? "api" = some ⟨"/api", []⟩ := rfl
  have hplain : Group.mentionsParameters "/v1/../pub/" = false := by decide
  obtain ⟨pattern, composed, hcomposed, -, hroutes, hiff, -⟩ :=
    mount_lands hreachable hg hplain "folder" www
  have hsame : pattern = composed := hiff.mpr (by decide)
  obtain rfl : "/api/pub/*filepath" = composed := Except.ok.inj hcomposed
  refine ⟨hreachable, hg, hplain, ?_⟩
  rw [hroutes grouped.table rfl, hsame]
  rfl

/-- **A folder can be mounted elsewhere.**  A rooted relative path that climbs above its own root
leaves the group when a subgroup is made of it, and stays below when a folder is mounted at it. -/
theorem not_mount_lands :
    ¬ ∀ (limit : Nat) (s : Site) (on : String) (g made : Group) (label relative : String)
        (m : Mount) (t : Table), s.Reachable limit → s.group? on = some g →
      Group.mentionsParameters relative = false → g.sub limit relative [] = .ok made →
        ((g.declare (.mount label relative m)).run t).2.routes.map Route.pattern =
          ((made.declare (.mount label "" m)).run t).2.routes.map Route.pattern := by
  intro hclaim
  have hsame := hclaim 63 grouped "api" ⟨"/api", []⟩ ⟨"/pub", []⟩ "folder" "/../pub" www
    grouped.table
    ⟨_, rfl⟩ rfl (by decide) rfl
  have hmounted : ["/api/pub/*filepath", "/api/pub/*filepath"] =
      ["/pub/*filepath", "/pub/*filepath"] := hsame
  exact absurd hmounted (by decide)

end Site
end Gatehouse
