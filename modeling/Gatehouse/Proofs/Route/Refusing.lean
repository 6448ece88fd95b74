/-
# Refusals that leave nothing behind

What registers one route, or makes a group, is refused before it changes anything.  One thing is
done in front of that: a registration that comes with a name gives the name to its handler first,
and the name stays.  Names are for listings alone, so this can be seen in one place: routes that end
in the same handler are listed under the new name.

* `HandlerNames.get?_set_same`, `HandlerNames.get?_set_other`: whom a name reaches;
* `Group.firm_declare`: a declaration of one route that is refused leaves the table alone;
* `Site.exec_of_refused`: **a refused command leaves its site as giving the name does**, and as it
  is when there is none to give;
* `Site.refused_leaves`: what others see of the site then;
* `Site.not_refused_leaves`: a refusal can be seen in a listing.
-/
import Gatehouse.Proofs.Route.Views

namespace Gatehouse

/-! ## 1. Names -/

/-- Two handlers are the same one: they have one label. -/
def Handler.Same (h e : Handler) : Prop := h.label = e.label

instance (h e : Handler) : Decidable (h.Same e) := inferInstanceAs (Decidable (h.label = e.label))

namespace HandlerNames

variable (names : HandlerNames) {h e : Handler} (name : String)

/-- A name that is given is found. -/
theorem get?_set_same (hsame : h.Same e) : (names.set h name).get? e = some name := by
  have hlabel : h.label = e.label := hsame
  simp [get?, set, hlabel]

/-- **A name reaches no other handler.** -/
theorem get?_set_other (hother : ¬ h.Same e) : (names.set h name).get? e = names.get? e := by
  have hkey : (e.label == h.label) = false := beq_eq_false_iff_ne.mpr (Ne.symm hother)
  rw [get?, set, List.lookup_cons, hkey]
  exact Site.lookup_filter_ne hother names

end HandlerNames

/-- A route ends in a handler. -/
def Route.EndsIn (r : Route) (h : Handler) : Prop := ∃ e, r.chain.getLast? = some e ∧ h.Same e

namespace Table

/-- The name that a route is listed under. -/
def shown (t : Table) (r : Route) : String := (r.chain.getLast?.map t.names.display).getD ""

theorem listing_eq (t : Table) :
    t.listing = t.routes.map fun r => ⟨r.method, r.pattern, t.shown r, r.chain.length⟩ := rfl

variable (t : Table) {r : Route} {h : Handler} (name : String)

theorem shown_setName_of_endsIn (hends : r.EndsIn h) : (t.setName h name).shown r = name := by
  obtain ⟨e, hlast, hsame⟩ := hends
  simp [shown, hlast, setName, HandlerNames.display, HandlerNames.get?_set_same t.names name hsame]

theorem shown_setName_of_not_endsIn (hends : ¬ r.EndsIn h) :
    (t.setName h name).shown r = t.shown r := by
  cases hlast : r.chain.getLast? with
  | none => simp [shown, hlast]
  | some e =>
    have hother : ¬ h.Same e := by
      intro hsame
      exact hends ⟨e, hlast, hsame⟩
    simp [shown, hlast, setName, HandlerNames.display,
      HandlerNames.get?_set_other t.names name hother]

/-- **A listing shows a new name exactly if a route ends in its handler** and was listed under
another one. -/
theorem listing_setName_eq_iff :
    (t.setName h name).listing = t.listing ↔
      ∀ r ∈ t.routes, r.EndsIn h → t.shown r = name := by
  have hroutes : (t.setName h name).routes = t.routes := rfl
  rw [listing_eq, listing_eq, hroutes, List.map_inj_left]
  constructor
  · intro hsame r hr hends
    have hshown := congrArg RouteListing.handler (hsame r hr)
    rw [← shown_setName_of_endsIn t name hends]
    exact hshown.symm
  · intro hnamed r hr
    by_cases hends : r.EndsIn h
    · rw [shown_setName_of_endsIn t name hends, hnamed r hr hends]
    · rw [shown_setName_of_not_endsIn t name hends]

end Table

/-! ## 2. Registrations -/

/-- A registration that leaves the table alone when it is refused. -/
def Registration.Firm (r : Registration Unit) : Prop :=
  ∀ (t : Table) (fault : RouteFault), (r.run t).1 = .error fault → (r.run t).2 = t

theorem Registration.firm_add (method : Method) (path : String) (chain : Chain) :
    Registration.Firm (Table.add method path chain) := by
  intro t fault hrefused
  rw [Table.add_run] at hrefused ⊢
  split
  · rfl
  · rename_i hnone
    rw [hnone] at hrefused
    cases hrefused

/-- A declaration of one route. -/
def Declaration.Single : Declaration → Prop
  | .route _ _ _ | .named _ _ _ => True
  | _ => False

namespace Group

theorem firm_register (g : Group) (method : Method) (relative : String) (handlers : Chain) :
    Registration.Firm (g.register method relative handlers) := by
  intro t fault hrefused
  rw [register_run] at hrefused ⊢
  cases hpath : Path.under g.base relative with
  | error _ => rfl
  | ok path =>
    rw [hpath] at hrefused
    dsimp only at hrefused ⊢
    cases hchain : Chain.combine g.middleware handlers t.limit with
    | error _ => rfl
    | ok chain =>
      rw [hchain] at hrefused
      exact Registration.firm_add method path chain t fault hrefused

/-- **A declaration of one route that is refused leaves the table alone.** -/
theorem firm_declare (g : Group) {d : Declaration} (hd : d.Single) :
    Registration.Firm (g.declare d) := by
  cases d with
  | route method relative handlers => exact firm_register g method relative handlers
  | named text relative handlers =>
    simp only [declare]
    cases Method.ofName? text with
    | some method => exact firm_register g method relative handlers
    | none =>
      intro t fault _
      rfl
  | _ => exact hd.elim

/-- A name is given before anything else. -/
theorem declareNamed_run (g : Group) (h : Handler) (name : String) (d : Declaration) (t : Table) :
    (g.declareNamed h name d).run t = (g.declare d).run (t.setName h name) := by
  rw [declareNamed, Registration.run_bind]
  rfl

end Group

/-! ## 3. Commands -/

namespace Command

/-- A command that registers one route, or makes a group. -/
def Single : Command → Prop
  | .sub _ _ _ _ | .add _ _ _ => True
  | .declare _ d | .declareNamed _ _ _ d => d.Single
  | _ => False

/-- The handler and the name that a command gives it before anything else, if it does. -/
def naming? : Command → Option (Handler × String)
  | .declareNamed _ h name _ => some (h, name)
  | _ => none

end Command

namespace Site

/-- A site when a command has given the name that it gives before anything else. -/
def afterNaming (s : Site) (c : Command) : Site :=
  match c.naming? with
  | some (h, name) => { s with table := s.table.setName h name }
  | none => s

/-- What a refused registration leaves of the table, it leaves of the site. -/
theorem commit_refused {s : Site} {r : Registration Unit} {t : Table} {fault : RouteFault}
    (hr : (r.run s.table).1 = .error fault → (r.run s.table).2 = t)
    (hrefused : (s.commit r).1 = .refused fault) : (s.commit r).2 = { s with table := t } := by
  rw [commit_snd, hr ((commit_fst_eq_refused_iff s r fault).mp hrefused)]

theorem withGroup_commit_refused {s : Site} {on : String} {r : Group → Registration Unit}
    {t : Table} {fault : RouteFault}
    (hr : ∀ g, ((r g).run s.table).1 = .error fault → ((r g).run s.table).2 = t)
    (hrefused : (s.withGroup on fun g => s.commit (r g)).1 = .refused fault) :
    (s.withGroup on fun g => s.commit (r g)).2 = { s with table := t } := by
  unfold withGroup at hrefused ⊢
  cases hg : s.group? on with
  | none =>
    rw [hg] at hrefused
    cases hrefused
  | some g =>
    rw [hg] at hrefused
    exact commit_refused (hr g) hrefused

/-- **A refused command leaves its site as giving the name does.** -/
theorem exec_of_refused {s : Site} {c : Command} (hc : c.Single) {fault : RouteFault}
    (hrefused : (s.exec c).1 = .refused fault) : (s.exec c).2 = s.afterNaming c := by
  cases c with
  | sub on relative middleware name =>
    simp only [exec, withGroup] at hrefused ⊢
    cases hg : s.group? on with
    | none => rfl
    | some g =>
      rw [hg] at hrefused
      dsimp only at hrefused ⊢
      cases hmade : g.sub s.table.limit relative middleware with
      | ok made =>
        rw [hmade] at hrefused
        cases hrefused
      | error fault => rfl
  | declare on d =>
    exact withGroup_commit_refused (fun g => g.firm_declare hc s.table fault) hrefused
  | declareNamed on h name d =>
    refine withGroup_commit_refused (fun g hg => ?_) hrefused
    rw [Group.declareNamed_run] at hg ⊢
    exact g.firm_declare hc (s.table.setName h name) fault hg
  | add method path chain =>
    exact commit_refused (Registration.firm_add method path chain s.table fault) hrefused
  | _ => exact hc.elim

/-- **What a refusal leaves.**  On every site, when a command that registers one route or makes a
group is refused, whatever the reason: every group is held as before; the routes are the same, and
so is the answer of every look-up; and without a name to give, nothing at all has changed.  With
one, the routes that end in its handler are listed under the name and all others as before, so that
the listing is the same exactly if those were listed under it already. -/
theorem refused_leaves {s : Site} {c : Command} (hc : c.Single) {fault : RouteFault}
    (hrefused : (s.exec c).1 = .refused fault) :
    let after := (s.exec c).2
    (∀ name, after.group? name = s.group? name) ∧
      after.table.routes = s.table.routes ∧
      (∀ method path, after.table.lookup method path = s.table.lookup method path) ∧
      (after.table.listing = s.table.routes.map fun r =>
        ⟨r.method, r.pattern, after.table.shown r, r.chain.length⟩) ∧
      (c.naming? = none → after = s) ∧
      ∀ h name, c.naming? = some (h, name) →
        (∀ r, r.EndsIn h → after.table.shown r = name) ∧
        (∀ r, ¬ r.EndsIn h → after.table.shown r = s.table.shown r) ∧
        (after.table.listing = s.table.listing ↔
          ∀ r ∈ s.table.routes, r.EndsIn h → s.table.shown r = name) := by
  intro after
  have hafter : after = s.afterNaming c := exec_of_refused hc hrefused
  rw [hafter, afterNaming]
  cases hnaming : c.naming? with
  | none => exact ⟨fun _ => rfl, rfl, fun _ _ => rfl, rfl, fun _ => rfl, nofun⟩
  | some p =>
    obtain ⟨h, name⟩ := p
    refine ⟨fun _ => rfl, rfl, fun _ _ => rfl, rfl, nofun, ?_⟩
    rintro h' name' heq
    cases heq
    refine ⟨?_, ?_, ?_⟩
    · intro r hends
      exact Table.shown_setName_of_endsIn s.table name hends
    · intro r hends
      exact Table.shown_setName_of_not_endsIn s.table name hends
    · exact Table.listing_setName_eq_iff s.table name

/-- A handler that says which one it is. -/
def labelled (label : String) : Handler := ⟨label, [.note (.value (.text label))]⟩

/-- A site with a route that is listed under a name. -/
def named : Site :=
  (empty 63).execAll
    [.declareNamed "root" (labelled "users") "list" (.route Method.GET "/users" [labelled "users"])]

/-- A handler, with a name, for the path that is taken. -/
def again (h : Handler) : Command :=
  .declareNamed "root" h "list all" (.route Method.GET "/users" [h])

/-- When it is refused, the listing has not changed. -/
theorem refused_leaves_draft :
    (again (labelled "drafts")).Single ∧
      (named.exec (again (labelled "drafts"))).1 = .refused (.duplicate "GET" "/users") ∧
      (named.exec (again (labelled "drafts"))).2.table.listing =
        [⟨Method.GET, "/users", "list", 1⟩] := by
  have hrefused : (named.exec (again (labelled "drafts"))).1 =
      .refused (.duplicate "GET" "/users") := rfl
  obtain ⟨-, -, -, -, -, hnaming⟩ :=
    refused_leaves (c := again (labelled "drafts")) trivial hrefused
  obtain ⟨-, -, hlisting⟩ := hnaming _ _ rfl
  refine ⟨trivial, hrefused, ?_⟩
  rw [hlisting.mpr]
  · rfl
  · rintro r hr ⟨e, hlast, hsame⟩
    -- the one route there is ends in another handler
    obtain rfl := List.mem_singleton.mp hr
    cases hlast
    exact absurd hsame (by decide)

/-- **A refusal can be seen in a listing.**  A handler that has a route is registered once more
under another name; this is refused, and the route is listed under that name. -/
theorem not_refused_leaves :
    ¬ ∀ (limit : Nat) (s : Site) (c : Command) (fault : RouteFault), s.Reachable limit → c.Single →
      (s.exec c).1 = .refused fault → (s.exec c).2.table.listing = s.table.listing := by
  intro hclaim
  have hsame := hclaim 63 named (again (labelled "users")) _ ⟨_, rfl⟩ trivial rfl
  have hshown : [(⟨Method.GET, "/users", "list all", 1⟩ : RouteListing)] =
      [⟨Method.GET, "/users", "list", 1⟩] := hsame
  exact absurd hshown (by decide)

end Site
end Gatehouse
