/-
# Groups inside groups

A caller makes a group below another one, a group below that one and so on, with other things done
to the site in between, and registers a route through the innermost.  `Site.nest` is the way in, and
`Level.flatten` the one declaration that says the same on the group where it starts.

* `Group.register_below`: a route below a nested group, registered on the outer one;
* `Site.nest_declare_route`: **the two ways are refused together, and add the same route when they
  are not**, with the outer group as it was at the first step and the table as it is at the last.
-/
import Gatehouse.Proofs.Route.Views

namespace Gatehouse

/-! ## 1. One route, registered through two groups -/

namespace Group

/-- **A route below a nested group is the route of the joined path on the outer group**, whatever
the table. -/
theorem register_below {g inner : Group} {relatives : List String} {more : Chain}
    (hrooted : Path.isRooted g.base = true)
    (hbase : relatives.foldlM Path.under g.base = .ok inner.base)
    (hmiddleware : inner.middleware = g.middleware ++ more) (method : Method) (relative : String)
    (handlers : Chain) (t : Table) :
    (inner.register method relative handlers).run t =
      (g.register method (Path.joinAll (relatives ++ [relative])) (more ++ handlers)).run t := by
  have hpath : Path.under inner.base relative =
      Path.under g.base (Path.joinAll (relatives ++ [relative])) := by
    rw [← Path.foldlM_under _ hrooted, List.foldlM_append, hbase]
    exact (bind_pure (Path.under inner.base relative)).symm
  have hchain : Chain.combine inner.middleware handlers t.limit =
      Chain.combine g.middleware (more ++ handlers) t.limit := by
    rw [Chain.combine_eq, Chain.combine_eq, hmiddleware, List.append_assoc]
  rw [register_run, register_run, hpath, hchain]

end Group

/-! ## 2. The way in -/

/-- One step of the way in: a group made below the last one and kept under a name, and what is done
to the site before the next step. -/
structure Level where
  relative : String
  middleware : Chain
  name : String
  meanwhile : List Command

namespace Level

/-- The group of a level stays as it was made until the next step. -/
structure Kept (l : Level) : Prop where
  name_ne : l.name ≠ Site.rootName
  meanwhile_ne : ∀ c ∈ l.meanwhile, c.target? ≠ some l.name

/-- The declaration that says on the outer group what a route says inside all levels. -/
def flatten (levels : List Level) (method : Method) (relative : String) (handlers : Chain) :
    Declaration :=
  .route method (Path.joinAll (levels.map Level.relative ++ [relative]))
    (levels.flatMap Level.middleware ++ handlers)

end Level

namespace Site

/-- Makes groups one below the other, from the group under `on` inwards, up to the first that is
refused.  The name is that of the innermost group, if all are made. -/
def nest (s : Site) (on : String) : List Level → Option String × Site
  | [] => (some on, s)
  | l :: levels =>
    match s.exec (.sub on l.relative l.middleware l.name) with
    | (.made _, held) => (held.execAll l.meanwhile).nest l.name levels
    | (_, s) => (none, s)

/-- One step of the way in from a rooted group. -/
theorem nest_cons {s : Site} {on : String} {g : Group} {base : String} {l : Level}
    (hg : s.group? on = some g) (hbase : Path.under g.base l.relative = .ok base)
    (levels : List Level) :
    s.nest on (l :: levels) =
      if s.table.limit ≤ (g.middleware ++ l.middleware).length then (none, s)
      else ((s.hold l.name ⟨base, g.middleware ++ l.middleware⟩).execAll l.meanwhile).nest l.name
        levels := by
  by_cases hlong : s.table.limit ≤ (g.middleware ++ l.middleware).length
  · simp only [nest, exec, withGroup, hg, Group.sub_eq hbase, if_pos hlong]
  · simp only [nest, exec, withGroup, hg, Group.sub_eq hbase, if_neg hlong]

/-- A step of the way in keeps the limit, and the group it makes stands until the next one. -/
theorem step_in {s : Site} {l : Level} (hkept : l.Kept) (made : Group) :
    ((s.hold l.name made).execAll l.meanwhile).group? l.name = some made ∧
      ((s.hold l.name made).execAll l.meanwhile).table.limit = s.table.limit := by
  constructor
  · rw [group?_execAll hkept.meanwhile_ne, group?_hold_self hkept.name_ne]
  · rw [(grown_execAll _ _).limit, table_hold]

/-- **Where the way in ends.**  Either all groups are made, and the innermost has the joined path
and all the middleware; or one is refused, and then all the middleware together is too long as
well. -/
theorem nest_spec {s : Site} {on : String} {g : Group} {levels : List Level}
    (hg : s.group? on = some g) (hrooted : Path.isRooted g.base = true)
    (hkept : ∀ l ∈ levels, l.Kept) :
    (s.nest on levels).2.table.limit = s.table.limit ∧
      match (s.nest on levels).1 with
      | some inner => ∃ made, (s.nest on levels).2.group? inner = some made ∧
          (levels.map Level.relative).foldlM Path.under g.base = .ok made.base ∧
          made.middleware = g.middleware ++ levels.flatMap Level.middleware
      | none => s.table.limit ≤ (g.middleware ++ levels.flatMap Level.middleware).length := by
  induction levels generalizing s on g with
  | nil => exact ⟨rfl, g, hg, rfl, by simp⟩
  | cons l levels ih =>
    obtain ⟨base, hbase, hbelow⟩ := Path.exists_under hrooted l.relative
    rw [nest_cons hg hbase]
    split
    · rename_i hlong
      refine ⟨rfl, ?_⟩
      simp only [List.length_append, List.flatMap_cons] at hlong ⊢
      omega
    · obtain ⟨hmade, hlimit⟩ := step_in (s := s) (hkept l List.mem_cons_self)
        ⟨base, g.middleware ++ l.middleware⟩
      obtain ⟨hreached, hrest⟩ :=
        ih hmade hbelow fun l' hl' => hkept l' (List.mem_cons_of_mem _ hl')
      refine ⟨hreached.trans hlimit, ?_⟩
      rw [hlimit] at hrest
      split <;> rename_i hinner <;> rw [hinner] at hrest
      · obtain ⟨made, hfound, hpath, hmiddleware⟩ := hrest
        refine ⟨made, hfound, ?_, ?_⟩
        · rw [List.map_cons, List.foldlM_cons, hbase]
          exact hpath
        · rw [hmiddleware, List.flatMap_cons, List.append_assoc]
      · rw [List.flatMap_cons, ← List.append_assoc]
        exact hrest

section
variable {s : Site} {on : String} {g : Group} {levels : List Level} (hg : s.group? on = some g)
  (hrooted : Path.isRooted g.base = true) (hkept : ∀ l ∈ levels, l.Kept)
  (method : Method) (relative : String) (handlers : Chain)
include hg hrooted hkept

/-- Inside all levels a route does what the flat declaration does, refused or not. -/
theorem exec_declare_nest {inner : String} (hinner : (s.nest on levels).1 = some inner) :
    (s.nest on levels).2.exec (.declare inner (.route method relative handlers)) =
      (s.nest on levels).2.commit (g.declare (Level.flatten levels method relative handlers)) := by
  obtain ⟨-, hspec⟩ := nest_spec hg hrooted hkept
  rw [hinner] at hspec
  obtain ⟨made, hmade, hbase, hmiddleware⟩ := hspec
  have hrun : ∀ t, (made.declare (.route method relative handlers)).run t =
      (g.declare (Level.flatten levels method relative handlers)).run t :=
    Group.register_below hrooted hbase hmiddleware method relative handlers
  rw [exec_declare hmade, commit, commit, hrun]

/-- Where the flat declaration is done, all groups are made. -/
theorem exists_innermost_of_done
    (hdone : ((s.nest on levels).2.commit
      (g.declare (Level.flatten levels method relative handlers))).1 = .done) :
    ∃ inner, (s.nest on levels).1 = some inner := by
  obtain ⟨pattern, hpath, hpattern⟩ := Path.exists_under hrooted
    (Path.joinAll (levels.map Level.relative ++ [relative]))
  obtain ⟨hlimit, hspec⟩ := nest_spec hg hrooted hkept
  obtain ⟨hshort, -⟩ := (commit_register hpath hpattern method _).1.mp hdone
  cases hinner : (s.nest on levels).1 with
  | some inner => exact ⟨inner, rfl⟩
  | none =>
    -- a group is refused only when all the middleware together is too long
    rw [hinner] at hspec
    simp only [hlimit, List.length_append] at hshort hspec
    omega

end

/-- **A route registered inside groups is the flat route.**  Both are refused or both done; they are
done when the whole chain is short enough and not empty and the joined path is free; and then the
one route that they add has that path and that chain. -/
theorem nest_declare_route {limit : Nat} {s : Site} (hreachable : s.Reachable limit) {on : String}
    {g : Group} (hg : s.group? on = some g) {levels : List Level} (hkept : ∀ l ∈ levels, l.Kept)
    (method : Method) (relative : String) (handlers : Chain) :
    let reached := (s.nest on levels).2
    let inside := fun inner => reached.exec (.declare inner (.route method relative handlers))
    let flat := reached.commit (g.declare (Level.flatten levels method relative handlers))
    let chain := g.middleware ++ levels.flatMap Level.middleware ++ handlers
    ((∃ inner, (s.nest on levels).1 = some inner ∧ (inside inner).1 = .done) ↔ flat.1 = .done) ∧
      (∀ inner, (s.nest on levels).1 = some inner → inside inner = flat) ∧
      ∃ pattern,
        Path.under g.base (Path.joinAll (levels.map Level.relative ++ [relative])) = .ok pattern ∧
        (flat.1 = .done ↔ chain.length < reached.table.limit ∧ chain ≠ [] ∧
          reached.table.registered? method pattern = none) ∧
        (flat.1 = .done → flat.2 = reached.withRoute ⟨method, pattern, chain⟩) := by
  intro reached inside flat chain
  have hrooted := hreachable.isRooted_base hg
  have hinside : ∀ inner, (s.nest on levels).1 = some inner → inside inner = flat :=
    fun inner => exec_declare_nest hg hrooted hkept method relative handlers
  refine ⟨⟨?_, ?_⟩, hinside, ?_⟩
  · rintro ⟨inner, hinner, hdone⟩
    exact hinside inner hinner ▸ hdone
  · intro hdone
    obtain ⟨inner, hinner⟩ :=
      exists_innermost_of_done hg hrooted hkept method relative handlers hdone
    exact ⟨inner, hinner, (hinside inner hinner).symm ▸ hdone⟩
  · obtain ⟨pattern, hpath, hpattern⟩ := Path.exists_under hrooted
      (Path.joinAll (levels.map Level.relative ++ [relative]))
    have hchain : chain = g.middleware ++ (levels.flatMap Level.middleware ++ handlers) :=
      List.append_assoc _ _ _
    rw [hchain]
    exact ⟨pattern, hpath, commit_register hpath hpattern method _⟩

/-- Two levels of which the second climbs out of the first, with middleware added to the outer
groups when the next one is there. -/
def climbing : List Level :=
  [⟨"v1/", [⟨"auth", []⟩], "v1", [.use rootName [⟨"late", []⟩]]⟩,
    ⟨"../users", [⟨"audit", []⟩], "users", [.use "v1" [⟨"late", []⟩]]⟩]

/-- The route of the innermost group has left the first level's path and kept its middleware. -/
theorem nest_declare_route_climbing :
    (empty 63).Reachable 63 ∧ (empty 63).group? rootName = some Group.root ∧
      (∀ l ∈ climbing, l.Kept) ∧
      ((empty 63).nest rootName climbing).1 = some "users" ∧
      ((((empty 63).nest rootName climbing).2.exec
        (.declare "users" (.route Method.GET ":id/" [⟨"show", []⟩]))).2.table.routes) =
        [⟨Method.GET, "/users/:id/",
          [⟨"auth", []⟩, ⟨"audit", []⟩, ⟨"show", []⟩]⟩] := by
  have hreachable : (empty 63).Reachable 63 := ⟨[], rfl⟩
  have hroot : (empty 63).group? rootName = some Group.root := rfl
  have hkept : ∀ l ∈ climbing, l.Kept := by
    intro l hl
    simp only [climbing, List.mem_cons, List.not_mem_nil, or_false] at hl
    rcases hl with rfl | rfl
    · exact ⟨by decide, by simp [Command.target?, rootName]⟩
    · exact ⟨by decide, by simp [Command.target?]⟩
  have hinner : ((empty 63).nest rootName climbing).1 = some "users" := rfl
  obtain ⟨-, hsame, pattern, hpattern, hdone, hflat⟩ :=
    nest_declare_route hreachable hroot hkept Method.GET ":id/" [⟨"show", []⟩]
  obtain rfl : pattern = "/users/:id/" := (Except.ok.inj hpattern).symm
  have hroute := hflat (hdone.mpr ⟨by decide, by simp [climbing], rfl⟩)
  refine ⟨hreachable, hroot, hkept, hinner, ?_⟩
  exact congrArg (fun way => way.2.table.routes)
    ((hsame "users" hinner).trans (Prod.ext rfl hroute))

end Site

end Gatehouse
