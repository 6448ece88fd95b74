/-
# Up to the first refusal

Registering for several methods goes from one to the next and stops at the first refusal.  What it
has added by then are routes for other methods, and these make no difference to a refusal; so every
method is taken in, or refused, as it would be alone.

* `Table.refusal?_withRoute_of_ne`: a route for another method leaves every refusal as it is;
* `Group.registerEach_alone`: **the methods in front of the first refusal are registered for**, and
  it is refused as the method after them would be alone;
* `Site.every_alone`: the same of a route for each of the standard methods, when all of them are
  taken in, and what comes of doing it again.
-/
import Gatehouse.Proofs.Route.Refusing
import Gatehouse.Proofs.Route.Whole

namespace Gatehouse

/-! ## 1. Routes for other methods -/

namespace Table

variable {t : Table} {method : Method} {r : Route}

/-- A route for another method leaves every refusal as it is. -/
theorem refusal?_withRoute_of_ne (hne : r.method ≠ method) (path : String) (chain : Chain) :
    (t.withRoute r).refusal? method path chain = t.refusal? method path chain := by
  simp only [refusal?, registered?_withRoute_of_ne hne]

end Table

namespace Group

variable {g : Group} {relative pattern : String} {handlers : Chain} {t : Table} {m : Method}

/-- What is refused beside a route for another method is refused without it, and for the same
reason. -/
theorem register_withRoute_of_ne {r : Route} (hne : r.method ≠ m) :
    ((g.register m relative handlers).run (t.withRoute r)).1 =
      ((g.register m relative handlers).run t).1 := by
  have hlimit : (t.withRoute r).limit = t.limit := rfl
  rw [register_run, register_run, hlimit]
  cases Path.under g.base relative with
  | error fault => rfl
  | ok path =>
    dsimp only
    cases Chain.combine g.middleware handlers t.limit with
    | error fault => rfl
    | ok chain =>
      dsimp only
      rw [Table.add_run, Table.add_run, Table.refusal?_withRoute_of_ne hne]
      cases t.refusal? m path chain <;> rfl

/-- What registering for several methods comes to on a table, said of each of them alone: all are
taken in, or those in front of the first that is refused. -/
inductive Alone (g : Group) (relative pattern : String) (handlers : Chain) (t : Table)
    (methods : List Method) : Except RouteFault Unit × Table → Prop
  | all (hdone : ∀ m ∈ methods, ((g.register m relative handlers).run t).1 = .ok ()) :
      Alone g relative pattern handlers t methods
        (.ok (), t.withRoutes (methods.map fun m => ⟨m, pattern, g.middleware ++ handlers⟩))
  | stopped {before behind : List Method} {m : Method} {fault : RouteFault}
      (hmethods : methods = before ++ m :: behind)
      (hdone : ∀ m' ∈ before, ((g.register m' relative handlers).run t).1 = .ok ())
      (hrefused : ((g.register m relative handlers).run t).1 = .error fault) :
      Alone g relative pattern handlers t methods
        (.error fault, t.withRoutes (before.map fun m' => ⟨m', pattern, g.middleware ++ handlers⟩))

/-- **The methods in front of the first refusal are registered for**, each as it would be alone. -/
theorem registerEach_alone (hpath : Path.under g.base relative = .ok pattern)
    {methods : List Method} (hnodup : methods.Nodup) :
    Alone g relative pattern handlers t methods
      ((g.registerEach relative handlers methods).run t) := by
  induction methods generalizing t with
  | nil =>
    have hnothing : Alone g relative pattern handlers t [] (.ok (), t.withRoutes
        (List.map (fun m => ⟨m, pattern, g.middleware ++ handlers⟩) [])) := .all nofun
    rwa [List.map_nil, Table.withRoutes_nil] at hnothing
  | cons m methods ih =>
    obtain ⟨hnew, hnodup⟩ := List.nodup_cons.mp hnodup
    rw [registerEach, Registration.run_bind]
    cases hfirst : ((g.register m relative handlers).run t).1 with
    | error fault =>
      have hrun : (g.register m relative handlers).run t = (.error fault, t) :=
        Prod.ext hfirst (g.firm_register m relative handlers t fault hfirst)
      have hstopped : Alone g relative pattern handlers t (m :: methods) (.error fault,
          t.withRoutes (List.map (fun m' => ⟨m', pattern, g.middleware ++ handlers⟩) [])) :=
        .stopped rfl nofun hfirst
      rw [List.map_nil, Table.withRoutes_nil] at hstopped
      rw [hrun]
      exact hstopped
    | ok u =>
      have hrun : (g.register m relative handlers).run t =
          (.ok (), t.withRoute ⟨m, pattern, g.middleware ++ handlers⟩) :=
        Prod.ext hfirst (register_done hpath hfirst)
      -- the rest is decided as if the route just registered were not there
      have hother : ∀ m' ∈ methods, ∀ e, ((g.register m' relative handlers).run
          (t.withRoute ⟨m, pattern, g.middleware ++ handlers⟩)).1 = e →
          ((g.register m' relative handlers).run t).1 = e := by
        intro m' hm' e he
        have hne : m ≠ m' := by
          rintro rfl
          exact hnew hm'
        exact (register_withRoute_of_ne hne).symm.trans he
      rw [hrun]
      dsimp only
      have hrest := ih (t := t.withRoute ⟨m, pattern, g.middleware ++ handlers⟩) hnodup
      generalize (g.registerEach relative handlers methods).run
        (t.withRoute ⟨m, pattern, g.middleware ++ handlers⟩) = outcome at hrest
      cases hrest with
      | all hdone =>
        rw [Table.withRoutes_withRoute]
        refine .all fun m' hm' => ?_
        rcases List.mem_cons.mp hm' with rfl | hm'
        · exact hfirst
        · exact hother m' hm' _ (hdone m' hm')
      | @stopped before behind m' fault hmethods hdone hrefused =>
        subst hmethods
        rw [Table.withRoutes_withRoute]
        refine @Alone.stopped _ _ _ _ _ _ (m :: before) behind m' fault rfl (fun m'' hm'' => ?_) ?_
        · rcases List.mem_cons.mp hm'' with rfl | hm''
          · exact hfirst
          · exact hother m'' (List.mem_append_left _ hm'') _ (hdone m'' hm'')
        · exact hother m' (List.mem_append_right _ List.mem_cons_self) _ hrefused

end Group

/-! ## 2. A route for each of the standard methods -/

namespace Site

variable {s : Site} {on : String} {g : Group} {relative pattern : String} {handlers : Chain}

/-- A site with one more route for each of several methods, with one pattern and one chain. -/
def withEach (s : Site) (methods : List Method) (pattern : String) (chain : Chain) : Site :=
  { s with table := s.table.withRoutes (methods.map fun m => ⟨m, pattern, chain⟩) }

theorem withEach_nil (s : Site) (pattern : String) (chain : Chain) :
    s.withEach [] pattern chain = s := by
  rw [withEach, List.map_nil, Table.withRoutes_nil]

theorem commit_of_ok {r : Registration Unit} {t : Table} (hrun : r.run s.table = (.ok (), t)) :
    s.commit r = (.done, { s with table := t }) := by
  rw [commit, hrun]

theorem commit_of_error {r : Registration Unit} {t : Table} {fault : RouteFault}
    (hrun : r.run s.table = (.error fault, t)) :
    s.commit r = (.refused fault, { s with table := t }) := by
  rw [commit, hrun]

/-- A command for all of the standard methods, said of the command for each of them alone: all are
taken in, or those in front of the first that is refused. -/
theorem exec_every (hg : s.group? on = some g) (hpath : Path.under g.base relative = .ok pattern)
    (handlers : Chain) :
    ((∀ m ∈ Method.every, (s.exec (.declare on (.route m relative handlers))).1 = .done) ∧
        s.exec (.declare on (.every relative handlers)) =
          (.done, s.withEach Method.every pattern (g.middleware ++ handlers))) ∨
      ∃ before m behind fault, Method.every = before ++ m :: behind ∧
        (∀ m' ∈ before, (s.exec (.declare on (.route m' relative handlers))).1 = .done) ∧
        (s.exec (.declare on (.route m relative handlers))).1 = .refused fault ∧
        s.exec (.declare on (.every relative handlers)) =
          (.refused fault, s.withEach before pattern (g.middleware ++ handlers)) := by
  have hroute : ∀ m, s.exec (.declare on (.route m relative handlers)) =
      s.commit (g.register m relative handlers) := fun m => exec_declare hg _
  have hevery : s.exec (.declare on (.every relative handlers)) =
      s.commit (g.registerEach relative handlers Method.every) := exec_declare hg _
  have halone : Group.Alone g relative pattern handlers s.table Method.every
      ((g.registerEach relative handlers Method.every).run s.table) :=
    Group.registerEach_alone hpath (by decide)
  generalize houtcome : (g.registerEach relative handlers Method.every).run s.table = outcome
    at halone
  cases halone with
  | all hall =>
    refine Or.inl ⟨fun m hm => ?_, hevery.trans (commit_of_ok houtcome)⟩
    rw [hroute]
    exact (commit_fst_eq_done_iff s _).mpr (hall m hm)
  | @stopped before behind m fault hmethods hbefore hrefused =>
    refine Or.inr ⟨before, m, behind, fault, hmethods, fun m' hm' => ?_, ?_,
      hevery.trans (commit_of_error houtcome)⟩
    · rw [hroute]
      exact (commit_fst_eq_done_iff s _).mpr (hbefore m' hm')
    · rw [hroute]
      exact (commit_fst_eq_refused_iff s _ fault).mpr hrefused

/-- What has been registered for every method is refused for the first of them when it is registered
again. -/
theorem exec_every_again (hg : s.group? on = some g)
    (hpath : Path.under g.base relative = .ok pattern) (hrooted : Path.isRooted pattern = true)
    (hshort : (g.middleware ++ handlers).length < s.table.limit)
    (hfilled : g.middleware ++ handlers ≠ []) :
    let after := s.withEach Method.every pattern (g.middleware ++ handlers)
    after.exec (.declare on (.every relative handlers)) =
      (.refused (.duplicate "GET" pattern), after) := by
  intro after
  have hg' : after.group? on = some g := hg
  have htaken : after.table.registered? Method.GET pattern ≠ none := by
    intro hfree
    have hmem : ⟨Method.GET, pattern, g.middleware ++ handlers⟩ ∈ after.table.routes :=
      List.mem_append_right _ List.mem_cons_self
    exact Table.registered?_eq_none_iff.mp hfree _ hmem ⟨rfl, rfl⟩
  have hrun := Group.registerEach_taken (t := after.table) hpath hrooted hshort hfilled []
    Method.every.tail (by decide) nofun htaken
  rw [List.map_nil, Table.withRoutes_nil] at hrun
  rw [exec_declare hg']
  exact commit_of_error hrun

/-- **Registering for every method goes up to the first refusal.**  For every group that is held on
a site, every relative path and all handlers: a route for each of the standard methods is registered
exactly if the chain is not empty and stays below the limit and the pattern is free for all of them;
then there is one route for each, in their order, with one pattern and one chain, and to do it again
is refused for `GET` and changes nothing.  Else some method is the first that would be refused
alone: the command is refused as that one would be, and leaves routes for the methods in front of it
and nothing else; for a chain that is empty or too long these are none. -/
theorem every_alone {limit : Nat} (hreachable : s.Reachable limit) (hg : s.group? on = some g)
    (relative : String) (handlers : Chain) :
    ∃ pattern, Path.under g.base relative = .ok pattern ∧
      let chain := g.middleware ++ handlers
      let every := Command.declare on (.every relative handlers)
      ((s.exec every).1 = .done ↔ chain.length < s.table.limit ∧ chain ≠ [] ∧
        ∀ m ∈ Method.every, s.table.registered? m pattern = none) ∧
      ((s.exec every).1 = .done → (s.exec every).2 = s.withEach Method.every pattern chain ∧
        (s.exec every).2.exec every = (.refused (.duplicate "GET" pattern), (s.exec every).2)) ∧
      ((s.exec every).1 ≠ .done → ∃ before m behind fault, Method.every = before ++ m :: behind ∧
        (∀ m' ∈ before, (s.exec (.declare on (.route m' relative handlers))).1 = .done) ∧
        (s.exec (.declare on (.route m relative handlers))).1 = .refused fault ∧
        s.exec every = (.refused fault, s.withEach before pattern chain)) ∧
      (¬ (chain.length < s.table.limit ∧ chain ≠ []) → ∃ fault,
        (s.exec (.declare on (.route Method.GET relative handlers))).1 = .refused fault ∧
        s.exec every = (.refused fault, s)) := by
  obtain ⟨pattern, hpath, hrooted⟩ := Path.exists_under (hreachable.isRooted_base hg) relative
  refine ⟨pattern, hpath, ?_⟩
  intro chain every
  -- when a method is taken in alone
  have halone : ∀ m, (s.exec (.declare on (.route m relative handlers))).1 = .done ↔
      chain.length < s.table.limit ∧ chain ≠ [] ∧ s.table.registered? m pattern = none := by
    intro m
    rw [exec_declare hg]
    exact (commit_register hpath hrooted m handlers).1
  rcases exec_every hg hpath handlers with ⟨hall, hexec⟩ |
    ⟨before, m, behind, fault, hmethods, hbefore, hrefused, hexec⟩
  · have hdone : (s.exec every).1 = .done := congrArg Prod.fst hexec
    have hafter : (s.exec every).2 = s.withEach Method.every pattern chain :=
      congrArg Prod.snd hexec
    obtain ⟨hshort, hfilled, -⟩ := (halone Method.GET).mp (hall _ (by decide))
    refine ⟨iff_of_true hdone ⟨hshort, hfilled, fun m hm => ((halone m).mp (hall m hm)).2.2⟩,
      fun _ => ⟨hafter, ?_⟩, fun hnot => absurd hdone hnot, fun hchain => ?_⟩
    · rw [hafter]
      exact exec_every_again hg hpath hrooted hshort hfilled
    · exact absurd ⟨hshort, hfilled⟩ hchain
  · have hnot : (s.exec every).1 ≠ .done := by
      intro hdone
      exact nomatch (congrArg Prod.fst hexec).symm.trans hdone
    refine ⟨iff_of_false hnot ?_, fun hdone => absurd hdone hnot,
      fun _ => ⟨before, m, behind, fault, hmethods, hbefore, hrefused, hexec⟩, fun hchain => ?_⟩
    · rintro ⟨hshort, hfilled, hfree⟩
      have hmem : m ∈ Method.every := hmethods ▸ List.mem_append_right _ List.mem_cons_self
      have hdone := (halone m).mpr ⟨hshort, hfilled, hfree m hmem⟩
      exact nomatch hdone.symm.trans hrefused
    · -- no method is taken in with this chain, so that the first of all is the one that is refused
      cases before with
      | nil =>
        obtain ⟨rfl, -⟩ := List.cons.inj hmethods
        rw [withEach_nil] at hexec
        exact ⟨fault, hrefused, hexec⟩
      | cons m' before =>
        obtain ⟨hshort, hfilled, -⟩ := (halone m').mp (hbefore m' List.mem_cons_self)
        exact absurd ⟨hshort, hfilled⟩ hchain

/-- A site where one of the methods has a page of its own, behind a guard. -/
def guarded : Site :=
  (empty 3).execAll [.use "root" [labelled "guard"],
    .declare "root" (.route Method.PUT "/users" [labelled "users"])]

/-- Registering for every method at that page stops in front of it; at another page it goes through,
but with one more handler nothing is registered. -/
theorem every_alone_guarded :
    guarded.Reachable 3 ∧ guarded.group? "root" = some ⟨"/", [labelled "guard"]⟩ ∧
      (∃ before fault, guarded.exec (.declare "root" (.every "users" [labelled "any"])) =
          (.refused fault, guarded.withEach before "/users" [labelled "guard", labelled "any"]) ∧
        Method.PUT ∉ before) ∧
      (guarded.exec (.declare "root" (.every "/teams" [labelled "any"]))).2 =
        guarded.withEach Method.every "/teams" [labelled "guard", labelled "any"] ∧
      (∃ fault, guarded.exec (.declare "root" (.every "/teams" [labelled "any", labelled "late"])) =
        (.refused fault, guarded)) := by
  have hreachable : guarded.Reachable 3 := ⟨_, rfl⟩
  have hg : guarded.group? "root" = some ⟨"/", [labelled "guard"]⟩ := rfl
  refine ⟨hreachable, hg, ?_, ?_, ?_⟩
  · obtain ⟨pattern, hpath, hdone, -, hrefused, -⟩ :=
      every_alone hreachable hg "users" [labelled "any"]
    obtain rfl : "/users" = pattern := Except.ok.inj hpath
    have hnot : (guarded.exec (.declare "root" (.every "users" [labelled "any"]))).1 ≠ .done := by
      intro h
      exact nomatch (hdone.mp h).2.2 Method.PUT (by decide)
    obtain ⟨before, m, behind, fault, -, hbefore, -, hexec⟩ := hrefused hnot
    exact ⟨before, fault, hexec, fun hput => nomatch hbefore _ hput⟩
  · obtain ⟨pattern, hpath, hdone, hafter, -, -⟩ :=
      every_alone hreachable hg "/teams" [labelled "any"]
    obtain rfl : "/teams" = pattern := Except.ok.inj hpath
    refine (hafter (hdone.mpr ⟨by decide, nofun, fun m hm => ?_⟩)).1
    refine Table.registered?_eq_none_iff.mpr fun r hr hsame => ?_
    obtain rfl := List.mem_singleton.mp hr
    exact absurd hsame.2 (by decide)
  · obtain ⟨pattern, -, -, -, -, hlong⟩ :=
      every_alone hreachable hg "/teams" [labelled "any", labelled "late"]
    obtain ⟨fault, -, hexec⟩ := hlong fun h => absurd h.1 (by decide)
    exact ⟨fault, hexec⟩

end Site
end Gatehouse
