/-
# Which route a request meets

An assignment gives a value to every hole of a pattern, and putting the values back makes the names
of a path again.  `Route.Matches` says that a path comes from a route's pattern in this way; nothing
in it says how such an assignment is found.

* `Segment.fit?_eq_some_iff`: **fitting finds the assignment if there is one, and no other**;
* `Table.lookup_eq_some_iff`, `Table.lookup_eq_none_iff`: a look-up finds the first route of the
  method that matches, and nothing only when none does;
* `Table.lookup_exact`: both, with what an assignment is and what a look-up does not depend on.

A catch-all swallows whatever stands behind it in a pattern, so all this is about patterns that end
with their catch-all (`Segment.RestLast`).
-/
import Gatehouse.Proofs.Path.Pieces
import Gatehouse.Route.Table

namespace Gatehouse
namespace Segment

/-! ## 1. Assignments -/

/-- Nothing stands behind a catch-all. -/
def RestLast : List Segment → Prop
  | [] => True
  | .rest _ :: more => more = []
  | .literal _ :: more | .one _ :: more => RestLast more

def keys : List Segment → List String
  | [] => []
  | .literal _ :: more => keys more
  | .one key :: more | .rest key :: more => key :: keys more

/-- Parameters that give a value to every hole of a pattern, in order: a name where one stands for
one, and names with slashes between them, perhaps none, where it stands for all that is left. -/
inductive Assigns : List Segment → Params → Prop
  | nil : Assigns [] []
  | literal {name : String} {more : List Segment} {params : Params} (h : Assigns more params) :
    Assigns (.literal name :: more) params
  | one {key value : String} {more : List Segment} {params : Params} (hvalue : Path.IsName value)
    (h : Assigns more params) : Assigns (.one key :: more) ((key, value) :: params)
  | rest {key : String} {values : List String} {more : List Segment} {params : Params}
    (hvalues : ∀ v ∈ values, Path.IsName v) (h : Assigns more params) :
    Assigns (.rest key :: more) ((key, Path.joinPieces values) :: params)

/-- A pattern with values put back into its holes, as the names of a path. -/
def fill : List Segment → Params → List String
  | .literal name :: more, params => name :: fill more params
  | .one _ :: more, (_, value) :: params => value :: fill more params
  | .rest _ :: more, (_, value) :: params => Path.names value ++ fill more params
  | _, _ => []

/-- An assignment has the keys of the pattern, in its order. -/
theorem Assigns.map_fst {segs : List Segment} {params : Params} (h : Assigns segs params) :
    params.map Prod.fst = keys segs := by
  induction h with
  | nil => rfl
  | literal _ ih => exact ih
  | one _ _ ih => exact congrArg (_ :: ·) ih
  | rest _ _ ih => exact congrArg (_ :: ·) ih

/-- The literal segments of a pattern are names. -/
def Plain (segs : List Segment) : Prop := ∀ name, .literal name ∈ segs → Path.IsName name

theorem Plain.tail {s : Segment} {more : List Segment} (h : Plain (s :: more)) : Plain more :=
  fun name hname => h name (List.mem_cons_of_mem _ hname)

theorem plain_ofPattern (pattern : String) : Plain (ofPattern pattern) := by
  intro name hname
  obtain ⟨piece, hpiece, hread⟩ := List.mem_map.mp hname
  unfold ofName at hread
  split at hread
  · cases hread
  · cases hread
  · cases hread
    exact Path.isName_of_mem_names hpiece

/-- A filled pattern is made of names. -/
theorem Assigns.isName_of_mem_fill {segs : List Segment} {params : Params}
    (h : Assigns segs params) (hplain : Plain segs) : ∀ n ∈ fill segs params, Path.IsName n := by
  induction h with
  | nil => simp [fill]
  | literal _ ih =>
    intro n hn
    rcases List.mem_cons.mp hn with rfl | hn
    · exact hplain n List.mem_cons_self
    · exact ih hplain.tail n hn
  | one hvalue _ ih =>
    intro n hn
    rcases List.mem_cons.mp hn with rfl | hn
    · exact hvalue
    · exact ih hplain.tail n hn
  | rest _ _ ih =>
    intro n hn
    rcases List.mem_append.mp hn with hn | hn
    · exact Path.isName_of_mem_names hn
    · exact ih hplain.tail n hn

/-! ## 2. Fitting -/

/-- What fits is an assignment, and filling the pattern with it gives the names back. -/
theorem assigns_of_fit? {segs : List Segment} {ns : List String} {params : Params}
    (hlast : RestLast segs) (hns : ∀ n ∈ ns, Path.IsName n) (h : fit? segs ns = some params) :
    Assigns segs params ∧ fill segs params = ns := by
  induction segs generalizing ns params with
  | nil =>
    cases ns with
    | nil =>
      cases h
      exact ⟨.nil, rfl⟩
    | cons n ns => cases h
  | cons s more ih =>
    cases s with
    | rest key =>
      -- the catch-all takes all that is left, and nothing is left of the pattern
      obtain rfl : more = [] := hlast
      cases h
      refine ⟨.rest hns .nil, ?_⟩
      simp [fill, Path.names_joinPieces hns]
    | literal name =>
      cases ns with
      | nil => cases h
      | cons n ns =>
        simp only [fit?] at h
        split at h
        · rename_i hname
          obtain ⟨hassigns, hfill⟩ := ih hlast (fun m hm => hns m (List.mem_cons_of_mem _ hm)) h
          refine ⟨.literal hassigns, ?_⟩
          rw [fill, hfill, hname]
        · cases h
    | one key =>
      cases ns with
      | nil => cases h
      | cons n ns =>
        obtain ⟨params', hfit, rfl⟩ := Option.map_eq_some_iff.mp h
        obtain ⟨hassigns, hfill⟩ := ih hlast (fun m hm => hns m (List.mem_cons_of_mem _ hm)) hfit
        refine ⟨.one (hns n List.mem_cons_self) hassigns, ?_⟩
        rw [fill, hfill]

/-- A filled pattern fits, with the values it was filled with. -/
theorem fit?_fill {segs : List Segment} {params : Params} (hlast : RestLast segs)
    (h : Assigns segs params) : fit? segs (fill segs params) = some params := by
  induction h with
  | nil => rfl
  | literal _ ih => simp [fill, fit?, ih hlast]
  | one _ _ ih => simp [fill, fit?, ih hlast]
  | rest hvalues h _ =>
    obtain rfl := hlast
    cases h
    simp [fill, fit?, Path.names_joinPieces hvalues]

/-- **Fitting finds the assignment that gives the names, if there is one.** -/
theorem fit?_eq_some_iff {segs : List Segment} {ns : List String} (hlast : RestLast segs)
    (hns : ∀ n ∈ ns, Path.IsName n) (params : Params) :
    fit? segs ns = some params ↔ Assigns segs params ∧ fill segs params = ns := by
  constructor
  · exact assigns_of_fit? hlast hns
  · rintro ⟨hassigns, rfl⟩
    exact fit?_fill hlast hassigns

end Segment

/-! ## 3. Routes and tables -/

namespace Route

def segments (r : Route) : List Segment := Segment.ofPattern r.pattern

/-- A path has the names that the route's pattern has when it is filled with the parameters. -/
structure Matches (r : Route) (path : String) (params : Params) : Prop where
  assigns : Segment.Assigns r.segments params
  fill : Segment.fill r.segments params = Path.names path

/-- The path that a route's pattern is when it is filled with the parameters. -/
def filled (r : Route) (params : Params) : String :=
  "/" ++ Path.joinPieces (Segment.fill r.segments params)

/-- **The path filled in matches with what it was filled with.** -/
theorem matches_filled {r : Route} {params : Params} (h : Segment.Assigns r.segments params) :
    r.Matches (r.filled params) params := by
  refine ⟨h, ?_⟩
  rw [filled, Path.names_slash_append,
    Path.names_joinPieces (h.isName_of_mem_fill (Segment.plain_ofPattern r.pattern))]

end Route

namespace Table

variable {t : Table}

theorem fit?_eq_some_iff {r : Route} (hlast : Segment.RestLast r.segments) (path : String)
    (params : Params) : fit? r path = some params ↔ r.Matches path params := by
  refine (Segment.fit?_eq_some_iff hlast (fun n => Path.isName_of_mem_names) params).trans ?_
  exact ⟨fun ⟨hassigns, hfill⟩ => ⟨hassigns, hfill⟩, fun h => ⟨h.assigns, h.fill⟩⟩

theorem fit?_eq_none_iff {r : Route} (hlast : Segment.RestLast r.segments) (path : String) :
    fit? r path = none ↔ ∀ params, ¬ r.Matches path params := by
  rw [Option.eq_none_iff_forall_ne_some]
  exact forall_congr' fun params => not_congr (fit?_eq_some_iff hlast path params)

/-- The match that a route gives to a path that fits it. -/
def matchOf (r : Route) (path : String) : Option RouteMatch :=
  (fit? r path).map fun params => ⟨r.pattern, params, r.chain⟩

theorem lookup_eq (t : Table) (method : Method) (path : String) :
    t.lookup method path = (t.routes.filter (·.method = method)).findSome? (matchOf · path) := rfl

/-- An answer comes from a route of the method that the path fits. -/
theorem exists_route_of_lookup_eq {method : Method} {path : String}
    {found : RouteMatch} (h : t.lookup method path = some found) :
    ∃ r ∈ t.routes, r.method = method ∧
      ∃ params, fit? r path = some params ∧ found = ⟨r.pattern, params, r.chain⟩ := by
  obtain ⟨r, hr, hfound⟩ := List.exists_of_findSome?_eq_some h
  obtain ⟨hr, hmethod⟩ := List.mem_filter.mp hr
  obtain ⟨params, hfit, rfl⟩ := Option.map_eq_some_iff.mp hfound
  exact ⟨r, hr, of_decide_eq_true hmethod, params, hfit, rfl⟩

/-- The catch-all of every pattern is its end. -/
def RestLast (t : Table) : Prop := ∀ r ∈ t.routes, Segment.RestLast r.segments

/-- **A look-up that finds something has found the first route of the method that matches.** -/
theorem lookup_eq_some_iff (hlast : t.RestLast) (method : Method) (path : String)
    (found : RouteMatch) :
    t.lookup method path = some found ↔
      ∃ before r behind params, t.routes = before ++ r :: behind ∧ r.method = method ∧
        r.Matches path params ∧
        (∀ q ∈ before, q.method = method → ∀ other, ¬ q.Matches path other) ∧
        found = ⟨r.pattern, params, r.chain⟩ := by
  rw [lookup_eq, List.findSome?_eq_some_iff]
  constructor
  · rintro ⟨skipped, r, others, hfilter, hfound, hskipped⟩
    -- the routes passed over are those of other methods and those that do not fit
    obtain ⟨front, back, hroutes, hfront, hback⟩ := List.filter_eq_append_iff.mp hfilter
    obtain ⟨between, behind, rfl, hbetween, hmethod, -⟩ := List.filter_eq_cons_iff.mp hback
    obtain ⟨params, hfit, rfl⟩ := Option.map_eq_some_iff.mp hfound
    have hmem : ∀ q ∈ front ++ between ++ r :: behind, q ∈ t.routes := fun q hq => by
      rw [hroutes, ← List.append_assoc]
      exact hq
    have hr := hmem r (List.mem_append_right _ List.mem_cons_self)
    refine ⟨front ++ between, r, behind, params, ?_, by simpa using hmethod,
      (fit?_eq_some_iff (hlast r hr) path params).mp hfit, ?_, rfl⟩
    · rw [hroutes, List.append_assoc]
    · intro q hq hqm
      have hqt := hmem q (List.mem_append_left _ hq)
      have hpassed : matchOf q path = none := by
        rcases List.mem_append.mp hq with hq | hq
        · exact hskipped q (hfront ▸ List.mem_filter.mpr ⟨hq, by simpa using hqm⟩)
        · exact absurd (by simpa using hqm) (hbetween q hq)
      exact (fit?_eq_none_iff (hlast q hqt) path).mp (Option.map_eq_none_iff.mp hpassed)
  · rintro ⟨before, r, behind, params, hroutes, hmethod, hmatches, hbefore, rfl⟩
    have hr : r ∈ t.routes := by rw [hroutes]; exact List.mem_append_cons_self
    refine ⟨before.filter (·.method = method), r, behind.filter (·.method = method), ?_, ?_, ?_⟩
    · rw [hroutes, List.filter_append, List.filter_cons_of_pos (by simpa using hmethod)]
    · rw [matchOf, (fit?_eq_some_iff (hlast r hr) path params).mpr hmatches]
      rfl
    · intro q hq
      obtain ⟨hq, hqm⟩ := List.mem_filter.mp hq
      have hqt : q ∈ t.routes := by rw [hroutes]; exact List.mem_append_left _ hq
      rw [matchOf, (fit?_eq_none_iff (hlast q hqt) path).mpr (hbefore q hq (by simpa using hqm))]
      rfl

/-- **A look-up finds nothing when no route of the method matches.** -/
theorem lookup_eq_none_iff (hlast : t.RestLast) (method : Method) (path : String) :
    t.lookup method path = none ↔
      ∀ r ∈ t.routes, r.method = method → ∀ params, ¬ r.Matches path params := by
  rw [lookup_eq, List.findSome?_eq_none_iff]
  constructor
  · intro h r hr hmethod
    have hnone := h r (List.mem_filter.mpr ⟨hr, by simpa using hmethod⟩)
    exact (fit?_eq_none_iff (hlast r hr) path).mp (Option.map_eq_none_iff.mp hnone)
  · intro h r hr
    obtain ⟨hr, hmethod⟩ := List.mem_filter.mp hr
    rw [matchOf, (fit?_eq_none_iff (hlast r hr) path).mpr (h r hr (by simpa using hmethod))]
    rfl

/-- Only the names of a path count. -/
theorem lookup_congr_names (t : Table) (method : Method) {path path' : String}
    (h : Path.names path = Path.names path') : t.lookup method path = t.lookup method path' := by
  simp only [lookup, fit?, h]

/-- A slash behind a path, or two where one would do, makes no difference. -/
theorem lookup_append_slash (t : Table) (method : Method) (path : String) :
    t.lookup method (path ++ "/") = t.lookup method path :=
  lookup_congr_names t method (Path.names_append_slash path)

theorem lookup_doubled_slash (t : Table) (method : Method) (a b : String) :
    t.lookup method (a ++ "/" ++ ("/" ++ b)) = t.lookup method (a ++ "/" ++ b) := by
  refine lookup_congr_names t method ?_
  rw [Path.names_append, Path.names_append, Path.names_slash_append]

/-- Only the routes of the method count. -/
theorem lookup_congr_routes {t t' : Table} {method : Method} (path : String)
    (h : t.routes.filter (·.method = method) = t'.routes.filter (·.method = method)) :
    t.lookup method path = t'.lookup method path := by
  simp only [lookup, h]

/-- **What a look-up finds, exactly.**  In order: the first route of the method that matches;
nothing when none does; what fits is an assignment and gives the path's names; every assignment
fits the path it fills in; slashes make no difference; nor do the routes of other methods. -/
theorem lookup_exact (hlast : t.RestLast) (method : Method) (path : String) :
    (∀ found, t.lookup method path = some found ↔
      ∃ before r behind params, t.routes = before ++ r :: behind ∧ r.method = method ∧
        r.Matches path params ∧
        (∀ q ∈ before, q.method = method → ∀ other, ¬ q.Matches path other) ∧
        found = ⟨r.pattern, params, r.chain⟩) ∧
      (t.lookup method path = none ↔
        ∀ r ∈ t.routes, r.method = method → ∀ params, ¬ r.Matches path params) ∧
      (∀ r ∈ t.routes, ∀ params, fit? r path = some params →
        params.map Prod.fst = Segment.keys r.segments ∧ Segment.Assigns r.segments params ∧
        Segment.fill r.segments params = Path.names path) ∧
      (∀ r ∈ t.routes, ∀ params, Segment.Assigns r.segments params →
        fit? r (r.filled params) = some params) ∧
      (∀ path', Path.names path' = Path.names path →
        t.lookup method path' = t.lookup method path) ∧
      (∀ t' : Table,
        t'.routes.filter (·.method = method) = t.routes.filter (·.method = method) →
        t'.lookup method path = t.lookup method path) := by
  refine ⟨lookup_eq_some_iff hlast method path, lookup_eq_none_iff hlast method path, ?_, ?_,
    fun _ => lookup_congr_names t method, fun _ => lookup_congr_routes path⟩
  · intro r hr params hfit
    have hmatches := (fit?_eq_some_iff (hlast r hr) path params).mp hfit
    exact ⟨hmatches.assigns.map_fst, hmatches.assigns, hmatches.fill⟩
  · intro r hr params hassigns
    exact (fit?_eq_some_iff (hlast r hr) _ params).mpr (Route.matches_filled hassigns)

/-- Two routes that one path matches, behind one of another method. -/
def overlapping : Table :=
  { empty 63 with routes :=
      [⟨Method.POST, "/files/:name", []⟩, ⟨Method.GET, "/files/:name", []⟩,
        ⟨Method.GET, "/files/*path", []⟩] }

/-- The first of the two that are for reading is found, and its catch-all sibling takes the paths
that go further down. -/
theorem lookup_exact_overlapping :
    overlapping.RestLast ∧
      overlapping.lookup Method.GET "/files//a/" = some ⟨"/files/:name", [("name", "a")], []⟩ ∧
      overlapping.lookup Method.GET "/files" = some ⟨"/files/*path", [("path", "")], []⟩ ∧
      overlapping.lookup Method.POST "/files/a/b" = none := by
  have hlast : overlapping.RestLast := by
    intro r hr
    simp only [overlapping, List.mem_cons, List.not_mem_nil, or_false] at hr
    rcases hr with rfl | rfl | rfl
    · exact trivial
    · exact trivial
    · rfl
  obtain ⟨hfound, -, -, -, hslashes, -⟩ := lookup_exact hlast Method.GET "/files/a"
  have hfirst : overlapping.lookup Method.GET "/files/a" =
      some ⟨"/files/:name", [("name", "a")], []⟩ := by
    refine (hfound _).mpr ⟨[⟨Method.POST, "/files/:name", []⟩], ⟨Method.GET, "/files/:name", []⟩,
      [⟨Method.GET, "/files/*path", []⟩], [("name", "a")], rfl, rfl, ⟨?_, rfl⟩, ?_, rfl⟩
    · exact .literal (.one ⟨by decide, by decide⟩ .nil)
    · intro q hq hmethod
      rw [List.mem_singleton.mp hq] at hmethod
      exact absurd hmethod (by decide)
  exact ⟨hlast, (hslashes "/files//a/" rfl).trans hfirst, rfl, rfl⟩

end Table
end Gatehouse
