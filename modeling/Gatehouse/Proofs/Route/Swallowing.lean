/-
# What a catch-all swallows

A path is told apart by the segments of a pattern up to its first catch-all, and by these alone:
whatever stands behind it is never looked at.  Nothing that registers a route asks where the
catch-alls of its pattern stand.

* `Segment.fit?_eq_iff`: **two patterns are met by the same paths with the same parameters exactly
  if they are alike up to their first catch-all**;
* `Segment.restLast_iff`: **all segments of a pattern take part in every match exactly if its
  catch-all comes last**;
* `Site.pattern?_of_added`: a command adds routes of one pattern alone, and which one;
* `Site.routes_end_iff`: **the catch-alls of a table come last exactly as long as those of the
  patterns do that are added to it**;
* `Site.not_routes_end`: they need not.
-/
import Gatehouse.Proofs.Route.Excess
import Gatehouse.Proofs.Route.Mounting

namespace Gatehouse

/-! ## 1. Up to the first catch-all -/

namespace Segment

/-- The segments of a pattern up to its first catch-all. -/
def upToRest : List Segment → List Segment
  | [] => []
  | .rest key :: _ => [.rest key]
  | .literal name :: more => .literal name :: upToRest more
  | .one key :: more => .one key :: upToRest more

/-- **Nothing behind a catch-all is looked at.** -/
theorem fit?_upToRest (segs : List Segment) (ns : List String) :
    fit? (upToRest segs) ns = fit? segs ns := by
  induction segs generalizing ns with
  | nil => rfl
  | cons s more ih =>
    cases s with
    | rest key => cases ns <;> rfl
    | literal name =>
      cases ns with
      | nil => rfl
      | cons n ns => simp only [upToRest, fit?, ih]
    | one key =>
      cases ns with
      | nil => rfl
      | cons n ns => simp only [upToRest, fit?, ih]

theorem upToRest_eq_self_iff (segs : List Segment) : upToRest segs = segs ↔ RestLast segs := by
  induction segs with
  | nil => exact iff_of_true rfl trivial
  | cons s more ih =>
    cases s with
    | rest key => simp [upToRest, RestLast, eq_comm]
    | literal name => simpa [upToRest, RestLast] using ih
    | one key => simpa [upToRest, RestLast] using ih

/-- Every pattern is met by some path. -/
theorem exists_fit? {segs : List Segment} (h : Plain segs) :
    ∃ ns params, (∀ n ∈ ns, Path.IsName n) ∧ fit? segs ns = some params := by
  induction segs with
  | nil => exact ⟨[], [], by simp, rfl⟩
  | cons s more ih =>
    obtain ⟨ns, params, hns, hfit⟩ := ih h.tail
    cases s with
    | rest key => exact ⟨[], [(key, "")], by simp, rfl⟩
    | literal name =>
      have hname := h name List.mem_cons_self
      exact ⟨name :: ns, params, List.forall_mem_cons.mpr ⟨hname, hns⟩, by simp [fit?, hfit]⟩
    | one key =>
      have hname : Path.IsName "x" := ⟨by decide, by decide⟩
      exact ⟨"x" :: ns, (key, "x") :: params, List.forall_mem_cons.mpr ⟨hname, hns⟩,
        by simp [fit?, hfit]⟩

/-- There is always another name. -/
theorem exists_isName_ne (name : String) : ∃ n, Path.IsName n ∧ n ≠ name := by
  by_cases hname : name = "x"
  · exact ⟨"y", ⟨by decide, by decide⟩, by rw [hname]; decide⟩
  · exact ⟨"x", ⟨by decide, by decide⟩, fun h => hname h.symm⟩

/-- Segments are met by the same names with the same parameters. -/
def Alike (segs segs' : List Segment) : Prop :=
  ∀ ns, (∀ n ∈ ns, Path.IsName n) → fit? segs ns = fit? segs' ns

section

variable {segs segs' more more' : List Segment} {name name' key key' : String}

theorem Alike.symm (h : Alike segs segs') : Alike segs' segs := fun ns hns => (h ns hns).symm

/-- It is enough to look at the names of paths, for all names come from a path. -/
theorem alike_iff_forall_path :
    Alike segs segs' ↔ ∀ path, fit? segs (Path.names path) = fit? segs' (Path.names path) := by
  constructor
  · intro h path
    exact h (Path.names path) fun n => Path.isName_of_mem_names
  · intro h ns hns
    have hfit := h (Path.joinPieces ns)
    rwa [Path.names_joinPieces hns] at hfit

/-- Literals that are alike are the same. -/
theorem Alike.literal (hplain : Plain (.literal name :: more))
    (h : Alike (.literal name :: more) (.literal name' :: more')) :
    name = name' ∧ Alike more more' := by
  have hname := hplain name List.mem_cons_self
  have hsame : name = name' := by
    obtain ⟨ns, params, hns, hfit⟩ := exists_fit? hplain.tail
    have hmet := h (name :: ns) (List.forall_mem_cons.mpr ⟨hname, hns⟩)
    simp only [fit?, if_true, hfit] at hmet
    split at hmet
    · rename_i heq
      exact heq
    · cases hmet
  subst hsame
  refine ⟨rfl, ?_⟩
  intro ns hns
  have hmet := h (name :: ns) (List.forall_mem_cons.mpr ⟨hname, hns⟩)
  simpa [fit?] using hmet

/-- Holes that are alike have one key. -/
theorem Alike.one (hplain : Plain (.one key :: more))
    (h : Alike (.one key :: more) (.one key' :: more')) : key = key' ∧ Alike more more' := by
  have hname : Path.IsName "x" := ⟨by decide, by decide⟩
  have hsame : key = key' := by
    obtain ⟨ns, params, hns, hfit⟩ := exists_fit? hplain.tail
    have hmet := h ("x" :: ns) (List.forall_mem_cons.mpr ⟨hname, hns⟩)
    simp only [fit?, hfit, Option.map_some] at hmet
    obtain ⟨params', -, heq⟩ := Option.map_eq_some_iff.mp hmet.symm
    have hkeys := congrArg (fun ps => ps.map Prod.fst) heq
    simp only [List.map_cons, List.cons.injEq] at hkeys
    exact hkeys.1.symm
  subst hsame
  refine ⟨rfl, ?_⟩
  intro ns hns
  have hmet := h ("x" :: ns) (List.forall_mem_cons.mpr ⟨hname, hns⟩)
  exact Option.map_injective (fun _ _ heq => (List.cons.inj heq).2) hmet

/-- A literal and a hole are met by different names. -/
theorem not_alike_literal_one (hplain : Plain (.one key :: more')) :
    ¬ Alike (.literal name :: more) (.one key :: more') := by
  intro h
  obtain ⟨n, hn, hne⟩ := exists_isName_ne name
  obtain ⟨ns, params, hns, hfit⟩ := exists_fit? hplain.tail
  have hmet := h (n :: ns) (List.forall_mem_cons.mpr ⟨hn, hns⟩)
  simp [fit?, hfit, hne] at hmet

/-- What the empty path meets tells segments apart that begin with a name, begin with a catch-all
or are none. -/
theorem Alike.fit?_nil (h : Alike segs segs') : fit? segs [] = fit? segs' [] := h [] (by simp)

end

/-- Segments that are alike are the same up to their first catch-all. -/
theorem Alike.upToRest_eq {segs segs' : List Segment} (hplain : Plain segs) (hplain' : Plain segs')
    (h : Alike segs segs') : upToRest segs = upToRest segs' := by
  -- segment by segment: two that differ in kind are told apart by one name, or by none at all
  induction segs generalizing segs' with
  | nil =>
    have hnil := h.fit?_nil
    cases segs' with
    | nil => rfl
    | cons s' more' => cases s' <;> simp [fit?] at hnil
  | cons s more ih =>
    have hnil := h.fit?_nil
    cases segs' with
    | nil => cases s <;> simp [fit?] at hnil
    | cons s' more' =>
      cases s with
      | literal name =>
        cases s' with
        | literal name' =>
          obtain ⟨rfl, hmore⟩ := h.literal hplain
          rw [upToRest, upToRest, ih hplain.tail hplain'.tail hmore]
        | one key' => exact absurd h (not_alike_literal_one hplain')
        | rest key' => simp [fit?] at hnil
      | one key =>
        cases s' with
        | literal name' => exact absurd h.symm (not_alike_literal_one hplain)
        | one key' =>
          obtain ⟨rfl, hmore⟩ := h.one hplain
          rw [upToRest, upToRest, ih hplain.tail hplain'.tail hmore]
        | rest key' => simp [fit?] at hnil
      | rest key =>
        cases s' with
        | literal name' => simp [fit?] at hnil
        | one key' => simp [fit?] at hnil
        | rest key' =>
          have hkey : key = key' := by simpa [fit?] using hnil
          rw [upToRest, upToRest, hkey]

/-- **What tells patterns apart**: the segments up to the first catch-all, and nothing else. -/
theorem fit?_eq_iff {segs segs' : List Segment} (hplain : Plain segs) (hplain' : Plain segs') :
    Alike segs segs' ↔ upToRest segs = upToRest segs' := by
  constructor
  · exact Alike.upToRest_eq hplain hplain'
  · intro heq ns _
    rw [← fit?_upToRest segs, heq, fit?_upToRest]

/-- Where a match is the pattern filled in, nothing of the pattern has been passed over. -/
theorem restLast_of_fill {segs : List Segment} {ns : List String} {params : Params}
    (hns : ∀ n ∈ ns, Path.IsName n) (hfit : fit? segs ns = some params)
    (hassigns : Assigns segs params) (hfill : fill segs params = ns) : RestLast segs := by
  induction hassigns generalizing ns with
  | nil => exact trivial
  | literal _ ih =>
    subst hfill
    simp only [fill, fit?, if_true] at hfit
    exact ih (fun n hn => hns n (List.mem_cons_of_mem _ hn)) hfit rfl
  | one _ _ ih =>
    subst hfill
    obtain ⟨params', hmore, heq⟩ := Option.map_eq_some_iff.mp hfit
    obtain rfl := (List.cons.inj heq).2
    exact ih (fun n hn => hns n (List.mem_cons_of_mem _ hn)) hmore rfl
  | @rest key values more params hvalues hmore ih =>
    -- the catch-all has taken all names, so that nothing is left to fill the others with
    have hparams : [(key, Path.joinPieces ns)] = (key, Path.joinPieces values) :: params :=
      Option.some.inj hfit
    obtain ⟨hvalue, hnone⟩ := List.cons.inj hparams
    have hall : ns = values := by
      rw [← Path.names_joinPieces hns, ← Path.names_joinPieces hvalues, (Prod.mk.inj hvalue).2]
    rw [fill, Path.names_joinPieces hvalues, hall] at hfill
    have hrest : fill more params = [] := List.append_right_eq_self.mp hfill
    rw [← hnone] at hrest hmore
    cases hmore with
    | nil => rfl
    | literal _ => cases hrest

/-- **All segments take part in every match exactly if the catch-all comes last**: then, and only
then, is a path that fits always the pattern with the parameters filled in. -/
theorem restLast_iff {segs : List Segment} (hplain : Plain segs) :
    RestLast segs ↔ ∀ ns params, (∀ n ∈ ns, Path.IsName n) → fit? segs ns = some params →
      Assigns segs params ∧ fill segs params = ns := by
  constructor
  · intro hlast ns params hns hfit
    exact assigns_of_fit? hlast hns hfit
  · intro hall
    obtain ⟨ns, params, hns, hfit⟩ := exists_fit? hplain
    obtain ⟨hassigns, hfill⟩ := hall ns params hns hfit
    exact restLast_of_fill hns hfit hassigns hfill

end Segment

/-! ## 2. Where routes are added -/

namespace Registration

/-- A route that is added to a table itself is the one that was asked for. -/
theorem adds_add (method : Method) (path : String) (chain : Chain) :
    Adds (fun _ r => r.pattern = path) (Table.add method path chain) := by
  intro t r hr
  rw [Table.add_run] at hr
  split at hr
  · exact Or.inl hr
  · rcases List.mem_append.mp hr with hr | hr
    · exact Or.inl hr
    · rw [List.mem_singleton.mp hr]
      exact Or.inr rfl

end Registration

namespace Group

theorem adds_register_place (g : Group) (method : Method) (relative : String) (handlers : Chain) :
    Registration.Adds (fun _ r => Path.under g.base relative = .ok r.pattern)
      (g.register method relative handlers) := by
  intro t r hr
  rw [register_run] at hr
  cases hpath : Path.under g.base relative with
  | error _ =>
    rw [hpath] at hr
    exact Or.inl hr
  | ok path =>
    rw [hpath] at hr
    dsimp only at hr
    split at hr
    · exact Or.inl hr
    · rcases Registration.adds_add _ _ _ t r hr with hr | hr
      · exact Or.inl hr
      · exact Or.inr (congrArg Except.ok hr.symm)

/-- **All routes of a declaration have one pattern**, the place of its path below the group. -/
theorem adds_place (g : Group) (d : Declaration) :
    Registration.Adds (fun _ r => Path.under g.base d.placed = .ok r.pattern) (g.declare d) :=
  (g.declare_of_placed Registration.composes_adds d fun method handlers =>
    ⟨grows_register g method d.placed handlers,
      adds_register_place g method d.placed handlers⟩).2

theorem adds_place_named (g : Group) (h : Handler) (name : String) (d : Declaration) :
    Registration.Adds (fun _ r => Path.under g.base d.placed = .ok r.pattern)
      (g.declareNamed h name d) :=
  (Registration.adds_modify (f := fun t => t.setName h name) fun _ => rfl).then (adds_place g d)
    (Registration.grows_modify fun t => Table.grown_setName t h name)

end Group

/-- The pattern that a command adds routes of, if it adds any. -/
def Command.pattern? (s : Site) : Command → Option String
  | .declare on d | .declareNamed on _ _ d =>
    (s.group? on).bind fun g => (Path.under g.base d.placed).toOption
  | .add _ path _ => some path
  | _ => none

namespace Site

variable {s : Site}

/-- **All routes that a command adds have one pattern.** -/
theorem pattern?_of_added {c : Command} {r : Route} (hr : r ∈ (s.exec c).2.table.routes) :
    r ∈ s.table.routes ∨ c.pattern? s = some r.pattern := by
  have hplaced : ∀ {on : String} {g : Group} {d : Declaration}, s.group? on = some g →
      Path.under g.base d.placed = .ok r.pattern →
        ((s.group? on).bind fun g => (Path.under g.base d.placed).toOption) = some r.pattern := by
    intro on g d hg hplace
    rw [hg, Option.bind_some, hplace]
    rfl
  rcases table_exec s c with hsame | ⟨committed, hcommitted, htable⟩
  · rw [hsame] at hr
    exact Or.inl hr
  · rw [htable] at hr
    cases hcommitted with
    | declare hg d => exact (Group.adds_place _ d s.table r hr).imp id (hplaced hg)
    | declareNamed hg h name d =>
      exact (Group.adds_place_named _ h name d s.table r hr).imp id (hplaced hg)
    | add method path chain =>
      rcases Registration.adds_add method path chain s.table r hr with hold | hnew
      · exact Or.inl hold
      · exact Or.inr (congrArg some hnew.symm)
    | setName h name => exact Or.inl hr

end Site

/-! ## 3. Tables -/

/-- The pattern that a command adds a route of has nothing behind a catch-all. -/
def Command.EndsAtRest (s : Site) (c : Command) : Prop :=
  (∃ r ∈ (s.exec c).2.table.routes, r ∉ s.table.routes) →
    ∀ pattern, c.pattern? s = some pattern → Segment.RestLast (Segment.ofPattern pattern)

namespace Site

/-- **One command keeps the catch-alls last** exactly if it adds no pattern with another one. -/
theorem restLast_exec_iff (s : Site) (c : Command) :
    (s.exec c).2.table.RestLast ↔ s.table.RestLast ∧ c.EndsAtRest s := by
  constructor
  · intro h
    constructor
    · intro r hr
      exact h r ((exec_moves s c).grown.routes.subset hr)
    · rintro ⟨r, hr, hnew⟩ pattern hpattern
      rcases pattern?_of_added hr with hold | hr'
      · exact absurd hold hnew
      · obtain rfl : r.pattern = pattern := Option.some.inj (hr'.symm.trans hpattern)
        exact h r hr
  · rintro ⟨h, hends⟩ r hr
    by_cases hold : r ∈ s.table.routes
    · exact h r hold
    · rcases pattern?_of_added hr with hold' | hpattern
      · exact absurd hold' hold
      · exact hends ⟨r, hr, hold⟩ r.pattern hpattern

/-- **When all segments of all patterns count.**  Whatever is done to a new table:

* the catch-alls of its patterns come last exactly if this can be said of each pattern when a route
  of it is added, and nothing asks for it then: the table itself takes in whatever is rooted, has a
  handler and is not taken;
* the pattern of a route has its catch-all last exactly if each path that fits it is the pattern
  with the parameters filled in, so that every segment takes part in the match;
* the paths that fit it, and their parameters, are those of its segments up to the first catch-all,
  and of no segments that are others up to there. -/
theorem routes_end_iff (limit : Nat) (commands : List Command) :
    let s := (empty limit).execAll commands
    (s.table.RestLast ↔ (empty limit).Throughout (fun s c => c.EndsAtRest s) commands) ∧
      (∀ method path chain, (s.exec (.add method path chain)).1 = .done ↔
        Path.isRooted path = true ∧ chain ≠ [] ∧ s.table.registered? method path = none) ∧
      ∀ r ∈ s.table.routes,
        (Segment.RestLast r.segments ↔
          ∀ path params, Table.fit? r path = some params → r.Matches path params) ∧
        ∀ segs, Segment.Plain segs →
          ((∀ path, Table.fit? r path = Segment.fit? segs (Path.names path)) ↔
            Segment.upToRest r.segments = Segment.upToRest segs) := by
  intro s
  refine ⟨?_, exec_add_done_iff s, ?_⟩
  · have hiff := execAll_iff (P := fun s => s.table.RestLast) restLast_exec_iff (empty limit)
      commands
    have hempty : (empty limit).table.RestLast := by
      intro r hr
      cases hr
    exact hiff.trans (and_iff_right hempty)
  · intro r _
    have hplain : Segment.Plain r.segments := Segment.plain_ofPattern r.pattern
    constructor
    · constructor
      · intro hlast path params hfit
        exact (Table.fit?_eq_some_iff hlast path params).mp hfit
      · intro hall
        -- every list of names is that of some path, so what holds of paths holds of names
        refine (Segment.restLast_iff hplain).mpr ?_
        intro ns params hns hfit
        have hnames : Path.names (Path.joinPieces ns) = ns := Path.names_joinPieces hns
        have hmatches := hall (Path.joinPieces ns) params (by rwa [Table.fit?, hnames])
        refine ⟨hmatches.assigns, ?_⟩
        have hfill := hmatches.fill
        rwa [hnames] at hfill
    · intro segs hsegs
      rw [← Segment.fit?_eq_iff hplain hsegs]
      exact Segment.alike_iff_forall_path.symm

/-- A route whose catch-all comes last. -/
def versionPage : Route :=
  ⟨Method.GET, "/docs/:version/*page", [⟨"docs", [.edit (.text 200 "docs")]⟩]⟩

/-- It is added to a new table, and each path that is served there has all that its pattern asks
for. -/
theorem routes_end_iff_versionPage :
    let s := (empty 63).execAll [.add versionPage.method versionPage.pattern versionPage.chain]
    s.table.RestLast ∧ versionPage ∈ s.table.routes ∧
      (∀ path params, Table.fit? versionPage path = some params →
        versionPage.Matches path params) ∧
      Table.fit? versionPage "/docs/v1/a/b" = some [("version", "v1"), ("page", "a/b")] := by
  intro s
  obtain ⟨hiff, -, hroutes⟩ := routes_end_iff 63
    [.add versionPage.method versionPage.pattern versionPage.chain]
  have hsegments : versionPage.segments = [.literal "docs", .one "version", .rest "page"] := by
    decide
  have hends : Segment.RestLast versionPage.segments := by
    rw [hsegments]
    rfl
  have hr : versionPage ∈ s.table.routes := List.mem_cons_self
  have hlast : s.table.RestLast := by
    refine hiff.mpr ⟨?_, trivial⟩
    intro _ pattern hpattern
    obtain rfl : versionPage.pattern = pattern := Option.some.inj hpattern
    exact hends
  exact ⟨hlast, hr, (hroutes versionPage hr).1.mp hends, rfl⟩

/-- A route with a name behind its catch-all. -/
def editing : Route := ⟨Method.GET, "/docs/*page/edit", [⟨"edit", [.edit (.text 200 "edit")]⟩]⟩

/-- A site with a group whose path ends in a catch-all, and a route below it. -/
def swallowed : Site :=
  (empty 63).execAll
    [.sub "root" "/docs/*page" [] "docs", .declare "docs" (.route Method.GET "edit" editing.chain)]

/-- **A route need not end with its catch-all**, and then it answers for paths without what stands
behind that. -/
theorem not_routes_end :
    (¬ ∀ (limit : Nat) (s : Site), s.Reachable limit →
      ∀ r ∈ s.table.routes, Segment.RestLast r.segments) ∧
      ¬ ∀ (limit : Nat) (s : Site), s.Reachable limit →
        ∀ r ∈ s.table.routes, ∀ path params, Table.fit? r path = some params →
          r.Matches path params := by
  have hreachable : swallowed.Reachable 63 := ⟨_, rfl⟩
  have hr : editing ∈ swallowed.table.routes := List.mem_cons_self
  have hsegments : editing.segments = [.literal "docs", .rest "page", .literal "edit"] := by decide
  have hnames : Path.names "/docs/a/view" = ["docs", "a", "view"] := by decide
  constructor
  · intro hclaim
    have hlast := hclaim 63 swallowed hreachable editing hr
    rw [hsegments] at hlast
    have hnone : [Segment.literal "edit"] = [] := hlast
    cases hnone
  · intro hclaim
    have hfit : Table.fit? editing "/docs/a/view" = some [("page", "a/view")] := by
      rw [Table.fit?, hnames, ← Route.segments, hsegments]
      rfl
    have hfill := (hclaim 63 swallowed hreachable editing hr _ _ hfit).fill
    rw [hsegments, hnames] at hfill
    -- the pattern filled in ends in a name that the path does not have
    have hlast := congrArg List.getLast? hfill
    exact absurd hlast (by decide)

end Site
end Gatehouse
