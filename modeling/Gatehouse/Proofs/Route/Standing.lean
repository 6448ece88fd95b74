/-
# Routes that stand

A table takes in one route at most for each method and pattern, and puts it behind the others.  So
what has been registered stands: nothing that is done later to the table, or to the groups on it,
changes what a look-up has answered before.

* `Site.Reachable.distinct`: no two routes of a table have one method and one pattern;
* `Table.lookup_of_routes`: what more routes make of a look-up;
* `Site.lookup_execAll`: **a look-up that has been answered is always answered so**;
* `Site.answers_stand`: what one command may change: **a new answer comes from a route that the
  command has added**.
-/
import Gatehouse.Proofs.Route.Lookup
import Gatehouse.Proofs.Route.Views

namespace Gatehouse

/-! ## 1. One route for each method and pattern -/

namespace Table

/-- No two routes have one method and one pattern. -/
def Distinct (t : Table) : Prop :=
  t.routes.Pairwise fun r r' => ¬ (r.method = r'.method ∧ r.pattern = r'.pattern)

variable {t : Table} {method : Method} {pattern : String} {r : Route}

theorem registered?_eq_none_iff :
    t.registered? method pattern = none ↔
      ∀ r ∈ t.routes, ¬ (r.method = method ∧ r.pattern = pattern) := by
  simp [registered?]

/-- A route is found by its method and its pattern. -/
theorem Distinct.registered?_of_mem (h : t.Distinct) (hr : r ∈ t.routes) :
    t.registered? r.method r.pattern = some r := by
  obtain ⟨front, behind, hroutes⟩ := List.append_of_mem hr
  rw [Distinct, hroutes] at h
  obtain ⟨-, -, hapart⟩ := List.pairwise_append.mp h
  have hfront : front.find? (fun r' => r'.method = r.method && r'.pattern = r.pattern) = none :=
    List.find?_eq_none.mpr fun r' hr' hsame =>
      hapart r' hr' r List.mem_cons_self (by simpa using hsame)
  rw [registered?, hroutes, List.find?_append, hfront, Option.none_or,
    List.find?_cons_of_pos (by simp)]

/-- A route is taken in only if its method and pattern are free. -/
theorem Distinct.withRoute (h : t.Distinct) (hfree : t.registered? r.method r.pattern = none) :
    (t.withRoute r).Distinct := by
  refine List.pairwise_append.mpr ⟨h, List.pairwise_singleton _ _, fun r' hr' r'' hr'' => ?_⟩
  rw [List.mem_singleton.mp hr'']
  exact registered?_eq_none_iff.mp hfree r' hr'

/-- A table refuses a route whose method and pattern are taken. -/
theorem registered?_of_refusal?_eq_none {chain : Chain}
    (h : t.refusal? method pattern chain = none) : t.registered? method pattern = none := by
  unfold refusal? at h
  split at h
  · cases h
  · split at h
    · cases h
    · split at h
      · cases h
      · rename_i hfree
        simpa using hfree

end Table

/-! ## 2. Registrations -/

namespace Registration

/-- A registration that adds no route whose method and pattern are taken. -/
def KeepsDistinct (r : Registration Unit) : Prop := ∀ t : Table, t.Distinct → (r.run t).2.Distinct

theorem KeepsDistinct.then {r r' : Registration Unit} (h : KeepsDistinct r)
    (h' : KeepsDistinct r') : KeepsDistinct (do r; r') := by
  intro t ht
  have hfirst := h t ht
  rw [run_bind]
  generalize r.run t = ran at hfirst ⊢
  obtain ⟨_ | _, t'⟩ := ran
  · exact hfirst
  · exact h' t' hfirst

theorem composes_keepsDistinct : Composes KeepsDistinct where
  done _ ht := ht
  refusal _ _ ht := ht
  next := KeepsDistinct.then

theorem keepsDistinct_add (method : Method) (path : String) (chain : Chain) :
    KeepsDistinct (Table.add method path chain) := by
  intro t ht
  rw [Table.add_run]
  split
  · exact ht
  · rename_i hrefusal
    exact ht.withRoute (Table.registered?_of_refusal?_eq_none hrefusal)

end Registration

namespace Group

theorem keepsDistinct_register (g : Group) (method : Method) (relative : String)
    (handlers : Chain) : Registration.KeepsDistinct (g.register method relative handlers) := by
  intro t ht
  rw [register_run]
  split
  · exact ht
  · split
    · exact ht
    · exact Registration.keepsDistinct_add _ _ _ t ht

/-- **Whatever is declared through a group, no method and pattern are taken twice**, also when it is
refused halfway. -/
theorem keepsDistinct_declare (g : Group) (d : Declaration) :
    Registration.KeepsDistinct (g.declare d) :=
  g.declare_of_register Registration.composes_keepsDistinct (keepsDistinct_register g) d

theorem keepsDistinct_declareNamed (g : Group) (h : Handler) (name : String) (d : Declaration) :
    Registration.KeepsDistinct (g.declareNamed h name d) :=
  Registration.KeepsDistinct.then (fun _ ht => ht) (keepsDistinct_declare g d)

end Group

/-! ## 3. Look-ups on a table that grows -/

namespace Table

/-- **What more routes make of a look-up**: they are asked when the others have not answered. -/
theorem lookup_of_routes {t t' : Table} {added : List Route} (h : t'.routes = t.routes ++ added)
    (method : Method) (path : String) :
    t'.lookup method path =
      (t.lookup method path).or (({ t with routes := added } : Table).lookup method path) := by
  simp only [lookup, h, List.filter_append, List.findSome?_append]

/-- **A table that grows keeps its answers.** -/
theorem Grown.lookup {t t' : Table} (h : t.Grown t') {method : Method} {path : String}
    {found : RouteMatch} (hfound : t.lookup method path = some found) :
    t'.lookup method path = some found := by
  obtain ⟨added, hadded⟩ := h.routes
  rw [lookup_of_routes hadded.symm, hfound]
  rfl

end Table

/-! ## 4. Sites -/

namespace Site

variable {s : Site}

/-- **No command takes a method and a pattern twice.** -/
theorem distinct_exec (h : s.table.Distinct) (c : Command) : (s.exec c).2.table.Distinct := by
  rcases table_exec s c with hsame | ⟨r, hr, htable⟩
  · rw [hsame]
    exact h
  · rw [htable]
    cases hr with
    | declare _ d => exact Group.keepsDistinct_declare _ d _ h
    | declareNamed _ handler name d => exact Group.keepsDistinct_declareNamed _ handler name d _ h
    | add method path chain => exact Registration.keepsDistinct_add method path chain _ h
    | setName handler name => exact h

theorem distinct_execAll (h : s.table.Distinct) (commands : List Command) :
    (s.execAll commands).table.Distinct := by
  induction commands generalizing s with
  | nil => exact h
  | cons c commands ih => exact ih (distinct_exec h c)

theorem Reachable.distinct {limit : Nat} (h : s.Reachable limit) : s.table.Distinct := by
  obtain ⟨commands, rfl⟩ := h
  have hempty : (empty limit).table.Distinct := List.Pairwise.nil
  exact distinct_execAll hempty commands

/-- **A look-up that has been answered is always answered so.** -/
theorem lookup_execAll (commands : List Command) {method : Method} {path : String}
    {found : RouteMatch} (h : s.table.lookup method path = some found) :
    (s.execAll commands).table.lookup method path = some found :=
  (grown_execAll commands s).lookup h

/-- **What a command may change.**  On every site that can be reached and for every command, whether
it is done, refused or refused halfway: no method and pattern are taken twice, before and after, so
that what is found for them is the one route that has them; the routes from before are the first of
those after; a look-up that was answered before has the same answer after; and if one is answered
that was not, then by a route that the command has added. -/
theorem answers_stand {limit : Nat} (h : s.Reachable limit) (c : Command) :
    s.table.Distinct ∧ (s.exec c).2.table.Distinct ∧
      (∀ r ∈ (s.exec c).2.table.routes,
        (s.exec c).2.table.registered? r.method r.pattern = some r) ∧
      ∃ added, (s.exec c).2.table.routes = s.table.routes ++ added ∧
        (∀ method path found, s.table.lookup method path = some found →
          (s.exec c).2.table.lookup method path = some found) ∧
        ∀ method path found, s.table.lookup method path = none →
          (s.exec c).2.table.lookup method path = some found →
            ∃ r ∈ added, r.method = method ∧ ∃ params, Table.fit? r path = some params ∧
              found = ⟨r.pattern, params, r.chain⟩ := by
  have hdistinct := distinct_exec h.distinct c
  have hgrown := (exec_moves s c).grown
  obtain ⟨added, hadded⟩ := hgrown.routes
  refine ⟨h.distinct, hdistinct, fun r hr => hdistinct.registered?_of_mem hr, added, hadded.symm,
    fun method path found hfound => hgrown.lookup hfound, fun method path found hnone hnew => ?_⟩
  rw [Table.lookup_of_routes hadded.symm, hnone, Option.none_or] at hnew
  exact Table.exists_route_of_lookup_eq hnew

/-- A handler that goes on. -/
def plain : Handler := ⟨"plain", [.proceed]⟩

/-- A site with a route for every page, and one for the head of one of them. -/
def paged : Site :=
  (empty 63).execAll [.add Method.GET "/:page" [plain], .add Method.HEAD "/logo" [plain]]

/-- A file is served at that page.  Its route for reading is added, and the one for its head is
refused; the request that was answered before has the same answer. -/
theorem answers_stand_halfway :
    paged.Reachable 63 ∧
      (paged.exec (.declare "root" (.file "image" "/logo" "logo.png"))).1 =
        .refused (.duplicate "HEAD" "/logo") ∧
      (paged.exec (.declare "root" (.file "image" "/logo" "logo.png"))).2.table.routes.map
        (fun r => (r.method, r.pattern)) =
        [(Method.GET, "/:page"), (Method.HEAD, "/logo"), (Method.GET, "/logo")] ∧
      (paged.exec (.declare "root" (.file "image" "/logo" "logo.png"))).2.table.lookup Method.GET
          "/logo" =
        some ⟨"/:page", [("page", "logo")], [plain]⟩ := by
  have hreachable : paged.Reachable 63 := ⟨_, rfl⟩
  obtain ⟨-, -, -, added, -, hstands, -⟩ :=
    answers_stand hreachable (.declare "root" (.file "image" "/logo" "logo.png"))
  have hbefore : paged.table.lookup Method.GET "/logo" =
      some ⟨"/:page", [("page", "logo")], [plain]⟩ := rfl
  exact ⟨hreachable, rfl, rfl, hstands _ _ _ hbefore⟩

end Site
end Gatehouse
