/-
# Registrations that stop halfway

What is served from the disk is registered twice, for `GET` and then for `HEAD`.  The second of the
two can be refused when the first has been done, and then the first one stays.

* `Group.registerEach_free`, `Group.registerEach_taken`: what registering for several methods does
  when all of them are free, and when one of them is taken;
* `Group.serve_run`: what serving files through a group does to a table, refusals included;
* `Site.serves_whole_iff`: **serving files is all or nothing exactly unless `HEAD` alone is taken**,
  and what is left behind when it is;
* `Site.not_serves_whole`: it can stop halfway.
-/
import Gatehouse.Proofs.Route.Reading
import Gatehouse.Proofs.Route.Standing

namespace Gatehouse

/-! ## 1. Several methods, one after the other -/

namespace Table

variable {t : Table} {method : Method} {pattern : String} {r : Route}

/-- A route for another method does not take the place of one. -/
theorem registered?_withRoute_of_ne (hne : r.method ≠ method) :
    (t.withRoute r).registered? method pattern = t.registered? method pattern := by
  simp [registered?, withRoute, List.find?_append, hne]

def withRoutes (t : Table) (more : List Route) : Table := { t with routes := t.routes ++ more }

theorem withRoutes_nil (t : Table) : t.withRoutes [] = t := by simp [withRoutes]

theorem withRoutes_withRoute (t : Table) (r : Route) (more : List Route) :
    (t.withRoute r).withRoutes more = t.withRoutes (r :: more) := by
  simp [withRoutes, withRoute]

/-- A path that is taken is refused, whatever handlers it is to have. -/
theorem add_run_taken (hrooted : Path.isRooted pattern = true) {chain : Chain} (hchain : chain ≠ [])
    (htaken : t.registered? method pattern ≠ none) :
    (add method pattern chain).run t = (.error (.duplicate method.token pattern), t) := by
  have hsome : (t.registered? method pattern).isSome := Option.isSome_iff_ne_none.mpr htaken
  have hrefusal : t.refusal? method pattern chain = some (.duplicate method.token pattern) := by
    simp [refusal?, hrooted, hchain, hsome]
  rw [add_run, hrefusal]

end Table

namespace Group

section

variable {g : Group} {relative pattern : String} {handlers : Chain} {t : Table}
  (hpath : Path.under g.base relative = .ok pattern) (hrooted : Path.isRooted pattern = true)

include hpath in
/-- A chain that reaches the limit is refused for the first method already. -/
theorem registerEach_long (hlong : t.limit ≤ (g.middleware ++ handlers).length) (m : Method)
    (methods : List Method) :
    (g.registerEach relative handlers (m :: methods)).run t =
      (.error (.tooManyHandlers (g.middleware ++ handlers).length t.limit), t) := by
  rw [registerEach, Registration.run_bind, register_eq hpath, if_pos hlong]

variable (hshort : (g.middleware ++ handlers).length < t.limit)
  (hfilled : g.middleware ++ handlers ≠ [])
include hpath hrooted hshort hfilled

/-- One route whose method is free. -/
theorem register_free {m : Method} (hfree : t.registered? m pattern = none) :
    (g.register m relative handlers).run t =
      (.ok (), t.withRoute ⟨m, pattern, g.middleware ++ handlers⟩) := by
  have hdone := (register_done_iff hpath hrooted m handlers t).mpr ⟨hshort, hfilled, hfree⟩
  exact Prod.ext hdone (register_done hpath hdone)

/-- **Methods that are free are registered for**, one route for each. -/
theorem registerEach_free {methods : List Method} (hnodup : methods.Nodup)
    (hfree : ∀ m ∈ methods, t.registered? m pattern = none) :
    (g.registerEach relative handlers methods).run t =
      (.ok (), t.withRoutes (methods.map fun m => ⟨m, pattern, g.middleware ++ handlers⟩)) := by
  induction methods generalizing t with
  | nil =>
    rw [List.map_nil, Table.withRoutes_nil]
    rfl
  | cons m methods ih =>
    obtain ⟨hnew, hnodup⟩ := List.nodup_cons.mp hnodup
    have hfirst := register_free hpath hrooted hshort hfilled (hfree m List.mem_cons_self)
    have hshort' : (g.middleware ++ handlers).length <
        (t.withRoute ⟨m, pattern, g.middleware ++ handlers⟩).limit := hshort
    rw [registerEach, Registration.run_bind, hfirst]
    dsimp only
    rw [ih hshort' hnodup, Table.withRoutes_withRoute]
    · rfl
    · -- the route just registered is for another method
      intro m' hm'
      have hne : m ≠ m' := by
        rintro rfl
        exact hnew hm'
      rw [Table.registered?_withRoute_of_ne hne]
      exact hfree m' (List.mem_cons_of_mem _ hm')

/-- **A method that is taken stops the registration there**, and the routes for those before it
stay. -/
theorem registerEach_taken (before behind : List Method) {m : Method}
    (hnodup : (before ++ [m]).Nodup) (hfree : ∀ m' ∈ before, t.registered? m' pattern = none)
    (htaken : t.registered? m pattern ≠ none) :
    (g.registerEach relative handlers (before ++ m :: behind)).run t =
      (.error (.duplicate m.token pattern),
        t.withRoutes (before.map fun m' => ⟨m', pattern, g.middleware ++ handlers⟩)) := by
  induction before generalizing t with
  | nil =>
    have hlong : ¬ t.limit ≤ (g.middleware ++ handlers).length := Nat.not_le.mpr hshort
    rw [List.nil_append, registerEach, Registration.run_bind, register_eq hpath, if_neg hlong,
      Table.add_run_taken hrooted hfilled htaken, List.map_nil, Table.withRoutes_nil]
  | cons m' before ih =>
    obtain ⟨hnew, hnodup⟩ := List.nodup_cons.mp hnodup
    have hother : ∀ {n : Method}, n ∈ before ++ [m] → (t.withRoute ⟨m', pattern,
        g.middleware ++ handlers⟩).registered? n pattern = t.registered? n pattern := by
      intro n hn
      refine Table.registered?_withRoute_of_ne ?_
      rintro rfl
      exact hnew hn
    have hfirst := register_free hpath hrooted hshort hfilled (hfree m' List.mem_cons_self)
    have hshort' : (g.middleware ++ handlers).length <
        (t.withRoute ⟨m', pattern, g.middleware ++ handlers⟩).limit := hshort
    rw [List.cons_append, registerEach, Registration.run_bind, hfirst]
    dsimp only
    rw [ih hshort' hnodup, Table.withRoutes_withRoute]
    · rfl
    · intro n hn
      rw [hother (List.mem_append_left _ hn)]
      exact hfree n (List.mem_cons_of_mem _ hn)
    · rw [hother (List.mem_append_right _ List.mem_cons_self)]
      exact htaken

end

end Group

/-! ## 2. Serving files through a group -/

/-- A declaration that serves files at a relative path: what it places below the group's base, the
handler that it registers there, and the fault that it has on a path with parameters. -/
inductive Declaration.Serves : Declaration → String → Handler → RouteFault → Prop
  | file (label relative location : String) :
    Serves (.file label relative location) relative (Handler.file label location)
      (.fileOnParameters relative)
  | mount (label relative : String) (m : Mount) :
    Serves (.mount label relative m) relative (Handler.mount label m)
      (.folderOnParameters relative)

namespace Group

open Declaration (Serves)

variable {g : Group} {d : Declaration} {relative pattern : String} {handler : Handler}
  {fault : RouteFault}

/-- Files are served for each of the methods that read, at one place, on a path without
parameters. -/
theorem declare_serving (hd : d.Serves relative handler fault) :
    g.declare d = if mentionsParameters relative then throw fault
      else g.registerEach d.placed [handler] readingMethods := by
  cases hd <;> rfl

/-- **What serving files through a group does**, in the order in which it may be refused: for
parameters in its path, for the length of its chain, because `GET` is taken at its pattern, and
because `HEAD` is.  Only the last of these refusals leaves something behind. -/
theorem serve_run (hd : d.Serves relative handler fault)
    (hpath : Path.under g.base d.placed = .ok pattern) (hrooted : Path.isRooted pattern = true)
    (t : Table) :
    (g.declare d).run t =
      let chain := g.middleware ++ [handler]
      if mentionsParameters relative then (.error fault, t)
      else if t.limit ≤ chain.length then (.error (.tooManyHandlers chain.length t.limit), t)
      else if t.registered? Method.GET pattern ≠ none then
        (.error (.duplicate "GET" pattern), t)
      else if t.registered? Method.HEAD pattern ≠ none then
        (.error (.duplicate "HEAD" pattern), t.withRoutes [⟨Method.GET, pattern, chain⟩])
      else
        (.ok (), t.withRoutes [⟨Method.GET, pattern, chain⟩, ⟨Method.HEAD, pattern, chain⟩]) := by
  have hfilled : g.middleware ++ [handler] ≠ [] := by simp
  rw [declare_serving hd]
  dsimp only
  split
  · rfl
  · split
    · rename_i hlong
      exact registerEach_long hpath hlong _ _
    · rename_i hlong
      have hshort := Nat.not_le.mp hlong
      split
      · rename_i htaken
        have hrun := registerEach_taken hpath hrooted hshort hfilled [] [Method.HEAD]
          (by decide) (by simp) htaken
        rw [List.map_nil, Table.withRoutes_nil] at hrun
        exact hrun
      · rename_i hget
        have hget := not_not.mp hget
        split
        · rename_i htaken
          exact registerEach_taken hpath hrooted hshort hfilled [Method.GET] []
            (by decide) (by simpa using hget) htaken
        · rename_i hhead
          have hhead := not_not.mp hhead
          refine registerEach_free hpath hrooted hshort hfilled (by decide) ?_
          intro m hm
          simp only [readingMethods, List.mem_cons, List.not_mem_nil, or_false] at hm
          rcases hm with rfl | rfl
          · exact hget
          · exact hhead

end Group

/-! ## 3. All or nothing -/

namespace Table

/-- A pattern is free for a method when nothing is served under it. -/
theorem registered?_eq_none_iff_served {t : Table} {method : Method} {pattern : String} :
    t.registered? method pattern = none ↔ ∀ p ∈ served t.routes method, p.1 ≠ pattern := by
  rw [registered?_eq_none_iff]
  constructor
  · intro h p hp
    obtain ⟨r, hr, rfl⟩ := List.mem_map.mp hp
    obtain ⟨hr, hmethod⟩ := List.mem_filter.mp hr
    intro hpattern
    exact h r hr ⟨of_decide_eq_true hmethod, hpattern⟩
  · rintro h r hr ⟨rfl, hpattern⟩
    exact h (r.pattern, r.chain)
      (List.mem_map.mpr ⟨r, List.mem_filter.mpr ⟨hr, by simp⟩, rfl⟩) hpattern

/-- Where both methods that read have the same, a pattern is free for both or taken for both. -/
theorem Paired.registered?_iff {t : Table} (h : t.Paired) (pattern : String) :
    t.registered? Method.GET pattern = none ↔ t.registered? Method.HEAD pattern = none := by
  rw [registered?_eq_none_iff_served, registered?_eq_none_iff_served, h]

end Table

namespace Site

open Declaration (Serves)

/-- A command adds one route for each of the methods that read, with one pattern and one chain, or
it is refused and leaves the site as it is. -/
def AllOrNothing (s : Site) (c : Command) : Prop :=
  (∃ pattern chain, s.exec c = (.done, (s.withRoute ⟨Method.GET, pattern, chain⟩).withRoute
    ⟨Method.HEAD, pattern, chain⟩)) ∨ ∃ fault, s.exec c = (.refused fault, s)

/-- Files could be served at a pattern, but that `HEAD` is taken there. -/
structure HeadTaken (s : Site) (relative pattern : String) (chain : Chain) : Prop where
  plain : Group.mentionsParameters relative = false
  short : chain.length < s.table.limit
  free : s.table.registered? Method.GET pattern = none
  taken : s.table.registered? Method.HEAD pattern ≠ none

variable {s : Site} {on : String} {g : Group} {d : Declaration} {relative pattern : String}
  {handler : Handler} {fault : RouteFault}

/-- What a command to serve files leads to. -/
theorem exec_serving (hg : s.group? on = some g) (hd : d.Serves relative handler fault)
    (hpath : Path.under g.base d.placed = .ok pattern) (hrooted : Path.isRooted pattern = true) :
    s.exec (.declare on d) =
      let chain := g.middleware ++ [handler]
      let served := s.withRoute ⟨Method.GET, pattern, chain⟩
      if Group.mentionsParameters relative then (.refused fault, s)
      else if s.table.limit ≤ chain.length then
        (.refused (.tooManyHandlers chain.length s.table.limit), s)
      else if s.table.registered? Method.GET pattern ≠ none then
        (.refused (.duplicate "GET" pattern), s)
      else if s.table.registered? Method.HEAD pattern ≠ none then
        (.refused (.duplicate "HEAD" pattern), served)
      else (.done, served.withRoute ⟨Method.HEAD, pattern, chain⟩) := by
  rw [exec_declare hg, commit, Group.serve_run hd hpath hrooted]
  dsimp only
  split_ifs
  · rfl
  · rfl
  · rfl
  · rfl
  · simp [withRoute, Table.withRoute, Table.withRoutes]

/-- **When serving files is all or nothing.**  For every group that is held on a site and everything
that serves files at a relative path, all is registered or nothing unless `HEAD` alone is taken at
the pattern.  It is done exactly if the path has no parameters, the chain stays below the limit, and
both methods are free there.  If `HEAD` alone is taken, the command is refused and the route for
`GET` stays; and this never happens on a table where both methods have the same. -/
theorem serves_whole_iff {limit : Nat} (hreachable : s.Reachable limit) (hg : s.group? on = some g)
    (hd : d.Serves relative handler fault) :
    ∃ pattern, Path.under g.base d.placed = .ok pattern ∧
      let chain := g.middleware ++ [handler]
      (s.AllOrNothing (.declare on d) ↔ ¬ s.HeadTaken relative pattern chain) ∧
      ((s.exec (.declare on d)).1 = .done ↔
        Group.mentionsParameters relative = false ∧ chain.length < s.table.limit ∧
          s.table.registered? Method.GET pattern = none ∧
          s.table.registered? Method.HEAD pattern = none) ∧
      (s.HeadTaken relative pattern chain → s.exec (.declare on d) =
        (.refused (.duplicate "HEAD" pattern), s.withRoute ⟨Method.GET, pattern, chain⟩)) ∧
      (s.table.Paired → s.AllOrNothing (.declare on d)) := by
  obtain ⟨pattern, hpath, hrooted⟩ :=
    Path.exists_under (hreachable.isRooted_base hg) d.placed
  have hexec := exec_serving hg hd hpath hrooted
  refine ⟨pattern, hpath, ?_⟩
  intro chain
  -- the checks of the command in its order: only the last one stands behind the route for `GET`
  have hhalf : s.HeadTaken relative pattern chain → s.exec (.declare on d) =
      (.refused (.duplicate "HEAD" pattern), s.withRoute ⟨Method.GET, pattern, chain⟩) := by
    rintro ⟨hplain, hshort, hfree, htaken⟩
    have hlong : ¬ s.table.limit ≤ chain.length := Nat.not_le.mpr hshort
    rw [hexec]
    dsimp only
    rw [if_neg (by simp [hplain]), if_neg hlong, if_neg (not_not.mpr hfree), if_pos htaken]
  have hwhole : ¬ s.HeadTaken relative pattern chain → s.AllOrNothing (.declare on d) := by
    intro hnot
    rw [AllOrNothing, hexec]
    dsimp only
    split_ifs with hplain hlong hget hhead
    · exact Or.inr ⟨_, rfl⟩
    · exact Or.inr ⟨_, rfl⟩
    · exact Or.inr ⟨_, rfl⟩
    · exact absurd ⟨by simpa using hplain, Nat.not_le.mp hlong, not_not.mp hget, hhead⟩ hnot
    · exact Or.inl ⟨pattern, chain, rfl⟩
  refine ⟨⟨?_, hwhole⟩, ?_, hhalf, ?_⟩
  · -- halfway, the command is refused and yet there is one more route
    rintro (⟨pattern', chain', hdone⟩ | ⟨fault', hrefused⟩) htaken
    · rw [hhalf htaken] at hdone
      cases hdone
    · rw [hhalf htaken] at hrefused
      have hroutes : (s.withRoute ⟨Method.GET, pattern, chain⟩).table.routes = s.table.routes :=
        congrArg (fun p => p.2.table.routes) hrefused
      simp [withRoute, Table.withRoute] at hroutes
  · rw [hexec]
    dsimp only
    split_ifs with hplain hlong hget hhead
    · simp [hplain]
    · refine iff_of_false ?_ ?_
      · intro hdone
        cases hdone
      · rintro ⟨-, hshort, -⟩
        exact Nat.not_lt.mpr hlong hshort
    · simp [hget]
    · simp [hhead]
    · exact iff_of_true rfl
        ⟨by simpa using hplain, Nat.not_le.mp hlong, not_not.mp hget, not_not.mp hhead⟩
  · intro hpaired
    refine hwhole ?_
    rintro ⟨-, -, hfree, htaken⟩
    exact htaken ((hpaired.registered?_iff pattern).mp hfree)

/-- A site where the head of a page is answered apart. -/
def headed : Site :=
  (empty 63).execAll
    [.declare "root" (.route Method.HEAD "/logo" [⟨"head", [.edit (.status 204)]⟩])]

/-- A folder is served there as a whole, and below the page nothing is in its way. -/
theorem serves_whole_iff_headed :
    headed.Reachable 63 ∧ headed.group? "root" = some Group.root ∧
      headed.AllOrNothing (.declare "root" (.mount "folder" "/logo/" ⟨"www", [], false⟩)) ∧
      (headed.exec (.declare "root" (.mount "folder" "/logo/" ⟨"www", [], false⟩))).1 = .done := by
  have hreachable : headed.Reachable 63 := ⟨_, rfl⟩
  have hg : headed.group? "root" = some Group.root := rfl
  obtain ⟨pattern, hpath, hwhole, hdone, -, -⟩ :=
    serves_whole_iff hreachable hg (.mount "folder" "/logo/" ⟨"www", [], false⟩)
  obtain rfl : "/logo/*filepath" = pattern := Except.ok.inj hpath
  refine ⟨hreachable, hg, hwhole.mpr ?_, hdone.mpr ⟨by decide, by decide, rfl, rfl⟩⟩
  intro htaken
  exact htaken.taken rfl

/-- **Serving a file can stop halfway.**  Where the head of a page is answered apart, a file served
at that page is refused, and its route for `GET` is there. -/
theorem not_serves_whole :
    ¬ ∀ (limit : Nat) (s : Site) (on : String) (g : Group) (d : Declaration) (relative : String)
        (handler : Handler) (fault : RouteFault), s.Reachable limit → s.group? on = some g →
      d.Serves relative handler fault → s.AllOrNothing (.declare on d) := by
  intro hclaim
  have hall := hclaim 63 headed "root" Group.root (.file "image" "/logo" "logo.png") "/logo" _ _
    ⟨_, rfl⟩ rfl (.file "image" "/logo" "logo.png")
  have hverdict : (headed.exec (.declare "root" (.file "image" "/logo" "logo.png"))).1 =
      .refused (.duplicate "HEAD" "/logo") := rfl
  have hcount :
      (headed.exec (.declare "root" (.file "image" "/logo" "logo.png"))).2.table.routes.length =
      2 := rfl
  rcases hall with ⟨pattern, chain, hdone⟩ | ⟨fault, hrefused⟩
  · rw [hdone] at hverdict
    cases hverdict
  · rw [hrefused] at hcount
    have hbefore : headed.table.routes.length = 1 := rfl
    exact absurd (hbefore.symm.trans hcount) (by decide)

end Site
end Gatehouse
