/-
# Where the limit is not looked at

The limit is looked at where two chains are put together, for a route or for a subgroup.  Two things
go past that place: a route that is added to the table itself, and middleware that is added to a
group.  This file says what becomes of the limit then.

* `Site.routes_below_iff`: **the routes of a table stay below its limit exactly as long as those do
  that are added to the table itself**, and the table takes those in whatever their length;
* `Site.groups_below_iff`: **the groups stay below it exactly as long as no middleware takes one of
  them there**, and nothing comes from a group that is there: no route and no subgroup;
* `Site.not_routes_below`, `Site.not_groups_below`: each of the two happens.
-/
import Gatehouse.Proofs.Route.Fronting

namespace Gatehouse

/-! ## 1. Routes of the table itself -/

/-- A route that a command adds to the table itself stays below the limit, or it is refused. -/
def Command.AddsBelow (s : Site) : Command → Prop
  | .add method path chain =>
    (s.exec (.add method path chain)).1 = .done → chain.length < s.table.limit
  | _ => True

namespace Site

/-- Every route stays below the limit. -/
def RoutesBelow (s : Site) : Prop := ∀ r ∈ s.table.routes, r.chain.length < s.table.limit

/-- A route is added to the table itself when it is not refused, and it stands behind the others
then. -/
theorem exec_add (s : Site) (method : Method) (path : String) (chain : Chain) :
    s.exec (.add method path chain) =
      match s.table.refusal? method path chain with
      | some fault => (.refused fault, s)
      | none => (.done, s.withRoute ⟨method, path, chain⟩) := by
  show s.commit (Table.add method path chain) = _
  simp only [commit, Table.add_run]
  cases s.table.refusal? method path chain <;> rfl

theorem exec_add_of_done {s : Site} {method : Method} {path : String} {chain : Chain}
    (hdone : (s.exec (.add method path chain)).1 = .done) :
    (s.exec (.add method path chain)).2 = s.withRoute ⟨method, path, chain⟩ := by
  rw [exec_add] at hdone ⊢
  cases hrefusal : s.table.refusal? method path chain with
  | some fault =>
    rw [hrefusal] at hdone
    cases hdone
  | none => rfl

theorem exec_add_of_not_done {s : Site} {method : Method} {path : String} {chain : Chain}
    (hrefused : (s.exec (.add method path chain)).1 ≠ .done) :
    (s.exec (.add method path chain)).2 = s := by
  rw [exec_add] at hrefused ⊢
  cases hrefusal : s.table.refusal? method path chain with
  | some fault => rfl
  | none =>
    rw [hrefusal] at hrefused
    exact absurd rfl hrefused

/-- **When the table itself takes a route in**: its path is rooted, it has a handler, and its method
and path are free.  Its length is not asked for. -/
theorem exec_add_done_iff (s : Site) (method : Method) (path : String) (chain : Chain) :
    (s.exec (.add method path chain)).1 = .done ↔
      Path.isRooted path = true ∧ chain ≠ [] ∧ s.table.registered? method path = none := by
  rw [exec_add]
  by_cases hrooted : Path.isRooted path = true
  · rw [← Table.refusal?_eq_none_iff hrooted]
    cases s.table.refusal? method path chain with
    | some fault => simp
    | none => simp [hrooted]
  · have hrefused : s.table.refusal? method path chain = some (.notAbsolute path) := by
      simp [Table.refusal?, hrooted]
    simp [hrefused, hrooted]

theorem limit_exec (s : Site) (c : Command) : (s.exec c).2.table.limit = s.table.limit :=
  (exec_moves s c).grown.limit

/-- What short routes have that start with a group's middleware, and what the routes have that are
added to the table itself, all routes have, if they had it before. -/
theorem EveryRoute.exec_or_add {P : Nat → Route → Prop} {s : Site}
    (hcarries : ∀ g limit r, Group.Carries g limit r → r.chain ≠ [] → P limit r)
    (h : s.EveryRoute P) {c : Command}
    (hadd : ∀ method path chain, c = .add method path chain → (s.exec c).1 = .done →
      P s.table.limit ⟨method, path, chain⟩) : (s.exec c).2.EveryRoute P := by
  have hthrough : c.ThroughGroups → (s.exec c).2.EveryRoute P :=
    h.exec (G := fun _ => True) (fun g _ => hcarries g) fun _ _ _ => trivial
  cases c with
  | add method path chain =>
    by_cases hdone : (s.exec (.add method path chain)).1 = .done
    · have hnew := hadd method path chain rfl hdone
      rw [exec_add_of_done hdone]
      intro r hr
      rcases List.mem_append.mp hr with hr | hr
      · exact h r hr
      · obtain rfl := List.mem_singleton.mp hr
        exact hnew
    · rw [exec_add_of_not_done hdone]
      exact h
  | _ => exact hthrough trivial

/-- **One command keeps the routes below the limit** exactly if it adds no longer one. -/
theorem routesBelow_exec_iff (s : Site) (c : Command) :
    (s.exec c).2.RoutesBelow ↔ s.RoutesBelow ∧ c.AddsBelow s := by
  constructor
  · intro h
    constructor
    · intro r hr
      rw [← limit_exec s c]
      exact h r ((exec_moves s c).grown.routes.subset hr)
    · cases c with
      | add method path chain =>
        intro hdone
        rw [exec_add_of_done hdone] at h
        exact h ⟨method, path, chain⟩ (List.mem_append_right _ List.mem_cons_self)
      | _ => exact trivial
  · rintro ⟨h, hnew⟩
    have hevery : s.EveryRoute fun limit r => r.chain.length < limit := h
    refine hevery.exec_or_add (fun g limit r hr _ => hr.2) ?_
    rintro method path chain rfl hdone
    exact hnew hdone

/-- A route that reaches the limit has been added to the table itself. -/
theorem EveryRoute.below_or_added {added : List Command} {s : Site}
    (h : s.EveryRoute fun limit r => r.chain.length < limit ∨
      .add r.method r.pattern r.chain ∈ added) {commands : List Command}
    (hadded : ∀ c ∈ commands, c ∈ added) :
    (s.execAll commands).EveryRoute fun limit r => r.chain.length < limit ∨
      .add r.method r.pattern r.chain ∈ added := by
  induction commands generalizing s with
  | nil => exact h
  | cons c commands ih =>
    refine ih (s := (s.exec c).2) ?_ fun c' hc' => hadded c' (List.mem_cons_of_mem _ hc')
    refine h.exec_or_add (fun g limit r hr _ => Or.inl hr.2) ?_
    rintro method path chain rfl -
    exact Or.inr (hadded _ List.mem_cons_self)

/-- **When the routes of a table stay below its limit.**  Whatever groups are held on the table and
whatever is done, they do so exactly if each route that is added to the table itself does; any
other route is below the limit, and the table itself takes in a route of any length. -/
theorem routes_below_iff (limit : Nat) (top : Group) (groups : List (String × Group))
    (commands : List Command) :
    let start : Site := ⟨Table.empty limit, top, groups⟩
    let s := start.execAll commands
    s.table.limit = limit ∧
      (s.RoutesBelow ↔ start.Throughout (fun s c => c.AddsBelow s) commands) ∧
      (∀ r ∈ s.table.routes, r.chain.length < limit ∨
        .add r.method r.pattern r.chain ∈ commands) ∧
      ∀ method path chain, (s.exec (.add method path chain)).1 = .done ↔
        Path.isRooted path = true ∧ chain ≠ [] ∧ s.table.registered? method path = none := by
  intro start s
  have hlimit : s.table.limit = limit := (grown_execAll commands start).limit
  have hstart : start.RoutesBelow := by
    intro r hr
    cases hr
  refine ⟨hlimit, ?_, ?_, exec_add_done_iff s⟩
  · have hiff := execAll_iff routesBelow_exec_iff start commands
    exact hiff.trans (and_iff_right hstart)
  · have hevery : start.EveryRoute fun limit r => r.chain.length < limit ∨
        .add r.method r.pattern r.chain ∈ commands := fun r hr => Or.inl (hstart r hr)
    have hadded := @EveryRoute.below_or_added commands start hevery commands fun _ hc => hc
    rw [EveryRoute, hlimit] at hadded
    exact hadded

/-- Two handlers on a table whose chains are to stay below two. -/
def addedAtLimit : List Command :=
  [.add Method.GET "/x" [⟨"watch", [.proceed]⟩, ⟨"deny", [.abort none]⟩]]

/-- **A table holds chains that reach its limit.** -/
theorem not_routes_below :
    ¬ ∀ (limit : Nat) (commands : List Command),
      ∀ r ∈ ((empty limit).execAll commands).table.routes,
        r.chain.length < ((empty limit).execAll commands).table.limit := by
  intro hclaim
  have hshort := hclaim 2 addedAtLimit
    ⟨Method.GET, "/x", [⟨"watch", [.proceed]⟩, ⟨"deny", [.abort none]⟩]⟩ List.mem_cons_self
  exact absurd hshort (by decide)

end Site

/-! ## 2. Middleware of a group -/

/-- Middleware that a command adds to a group leaves it below the limit. -/
def Command.UsesBelow (s : Site) : Command → Prop
  | .use on middleware =>
    ∀ g, s.group? on = some g → (g.middleware ++ middleware).length < s.table.limit
  | _ => True

namespace Group

section
variable {g : Group} {t : Table} (hfull : t.limit ≤ g.middleware.length)
include hfull

/-- Nothing is registered below a group that has reached the limit. -/
theorem register_full (method : Method) (relative : String) (handlers : Chain) :
    ∃ fault, (g.register method relative handlers).run t = (.error fault, t) := by
  cases hpath : Path.under g.base relative with
  | error fault => exact ⟨fault, by rw [register_run, hpath]⟩
  | ok pattern =>
    have hlong : t.limit ≤ (g.middleware ++ handlers).length := by
      rw [List.length_append]
      omega
    exact ⟨_, by rw [register_eq hpath, if_pos hlong]⟩

theorem registerEach_full (relative : String) (handlers : Chain) (m : Method) (ms : List Method) :
    ∃ fault, (g.registerEach relative handlers (m :: ms)).run t = (.error fault, t) := by
  obtain ⟨fault, hfault⟩ := register_full hfull m relative handlers
  exact ⟨fault, by rw [registerEach, Registration.run_bind, hfault]⟩

/-- **Whatever is declared through a group that has reached the limit is refused**, and leaves the
table as it is. -/
theorem declare_full (d : Declaration) : ∃ fault, (g.declare d).run t = (.error fault, t) := by
  cases d with
  | route method relative handlers => exact register_full hfull method relative handlers
  | named text relative handlers =>
    simp only [declare]
    cases Method.ofName? text with
    | some method => exact register_full hfull method relative handlers
    | none => exact ⟨_, rfl⟩
  | every relative handlers => exact registerEach_full hfull relative handlers _ _
  | file label relative location =>
    simp only [declare]
    split
    · exact ⟨_, rfl⟩
    · exact registerEach_full hfull relative _ _ _
  | mount label relative m =>
    simp only [declare]
    split
    · exact ⟨_, rfl⟩
    · exact registerEach_full hfull _ _ _ _

end

/-- No subgroup is made below a group that has reached the limit. -/
theorem sub_full {g : Group} {limit : Nat} (hfull : limit ≤ g.middleware.length) (relative : String)
    (more : Chain) :
    g.sub limit relative more = .error (.tooManyHandlers (g.middleware ++ more).length limit) := by
  have hlong : limit ≤ (g.middleware ++ more).length := by
    rw [List.length_append]
    omega
  simp only [sub, Chain.combine_eq, if_pos hlong]
  rfl

end Group

namespace Site

/-- Every group stays below the limit. -/
def GroupsBelow (s : Site) : Prop := s.Every fun g => g.middleware.length < s.table.limit

/-- **One command keeps the groups below the limit** exactly if it adds no middleware that takes a
group there. -/
theorem groupsBelow_exec_iff (s : Site) (c : Command) (h : s.GroupsBelow) :
    (s.exec c).2.GroupsBelow ↔ c.UsesBelow s := by
  have hevery : s.Every fun g => g.middleware.length < s.table.limit := h
  -- a command that leaves the limit alone is judged by the old one
  unfold GroupsBelow
  rw [limit_exec]
  have hwith : ∀ {on : String} {f : Group → Verdict × Site},
      (∀ g, s.group? on = some g → (f g).2.Every fun g => g.middleware.length < s.table.limit) →
        (s.withGroup on f).2.Every fun g => g.middleware.length < s.table.limit := by
    intro on f hf
    unfold withGroup
    split
    · rename_i g hg
      exact hf g hg
    · exact hevery
  have hcommit : ∀ r : Registration Unit,
      (s.commit r).2.Every fun g => g.middleware.length < s.table.limit := by
    intro r
    rw [commit_snd]
    exact hevery
  cases c with
  | use on middleware =>
    constructor
    · intro hafter g hg
      refine hafter on (g.use middleware) ?_
      simp only [exec, withGroup, hg]
      exact group?_change_self on s _
    · intro hshort
      refine hwith fun g hg => hevery.change on ?_
      exact hshort g hg
  | sub on relative middleware name =>
    refine iff_of_true (hwith fun g _ => ?_) trivial
    split
    · rename_i made hmade
      exact hevery.hold name (Group.sub_eq_ok hmade).2.1
    · exact hevery
  | copy on name =>
    exact iff_of_true (hwith fun g hg => hevery.hold name (hevery on g hg)) trivial
  | declare on d => exact iff_of_true (hwith fun g _ => hcommit _) trivial
  | declareNamed on handler name d => exact iff_of_true (hwith fun g _ => hcommit _) trivial
  | add method path chain => exact iff_of_true (hcommit _) trivial
  | setName handler name => exact iff_of_true hevery trivial

/-- What comes of a group that has reached the limit: every subgroup and every route is refused, and
no refusal leaves anything behind but perhaps a handler's name. -/
structure Spent (s : Site) (on : String) (g : Group) : Prop where
  sub : ∀ relative more name, s.exec (.sub on relative more name) =
    (.refused (.tooManyHandlers (g.middleware ++ more).length s.table.limit), s)
  declare : ∀ d, ∃ fault, s.exec (.declare on d) = (.refused fault, s)
  declareNamed : ∀ h name d, ∃ fault,
    s.exec (.declareNamed on h name d) = (.refused fault, (s.exec (.setName h name)).2)

/-- **Nothing comes of a group that has reached the limit.** -/
theorem spent_of_full {s : Site} {on : String} {g : Group} (hg : s.group? on = some g)
    (hfull : s.table.limit ≤ g.middleware.length) : s.Spent on g where
  sub relative more name := by
    simp only [exec, withGroup, hg, Group.sub_full hfull]
  declare d := by
    obtain ⟨fault, hfault⟩ := Group.declare_full hfull d
    exact ⟨fault, by rw [exec_declare hg, commit, hfault]⟩
  declareNamed h name d := by
    have hnamed : (s.table.setName h name).limit ≤ g.middleware.length := hfull
    obtain ⟨fault, hfault⟩ := Group.declare_full hnamed d
    have hrun : (g.declareNamed h name d).run s.table = (.error fault, s.table.setName h name) := by
      rw [Group.declareNamed, Registration.run_bind]
      exact hfault
    exact ⟨fault, by rw [exec_declareNamed hg, commit, hrun]; rfl⟩

/-- **When the groups of a table stay below its limit.**  They do so at every moment exactly if the
limit leaves room for one and no middleware that is added to a group takes it there; and of a group
that has got there, nothing comes. -/
theorem groups_below_iff (limit : Nat) (commands : List Command) :
    ((empty limit).Always GroupsBelow commands ↔
        0 < limit ∧ (empty limit).Throughout (fun s c => c.UsesBelow s) commands) ∧
      ∀ on g, ((empty limit).execAll commands).group? on = some g →
        limit ≤ g.middleware.length → ((empty limit).execAll commands).Spent on g := by
  constructor
  · have hstart : (empty limit).GroupsBelow ↔ 0 < limit := by
      constructor
      · intro h
        exact h rootName Group.root rfl
      · intro hlimit name g hg
        simp only [group?, empty, List.lookup_nil] at hg
        split at hg
        · cases hg
          exact hlimit
        · cases hg
    rw [always_iff groupsBelow_exec_iff, hstart]
  · intro on g hg hfull
    refine spent_of_full hg ?_
    rw [(grown_execAll commands (empty limit)).limit]
    exact hfull

/-- Middleware that takes the group of a whole table to its limit. -/
def usedAtLimit : List Command := [.use rootName [⟨"watch", [.proceed]⟩, ⟨"guard", [.proceed]⟩]]

/-- Nothing can be registered through the group any more, not even a file. -/
theorem groups_below_iff_used :
    ((empty 2).execAll usedAtLimit).group? rootName =
        some ⟨"/", [⟨"watch", [.proceed]⟩, ⟨"guard", [.proceed]⟩]⟩ ∧
      ¬ (empty 2).Always GroupsBelow usedAtLimit ∧
      ∃ fault, ((empty 2).execAll usedAtLimit).exec
        (.declare rootName (.file "image" "/logo" "logo.png")) =
          (.refused fault, (empty 2).execAll usedAtLimit) := by
  obtain ⟨hiff, hspent⟩ := groups_below_iff 2 usedAtLimit
  refine ⟨rfl, fun halways => ?_, (hspent rootName _ rfl (by decide)).declare _⟩
  obtain ⟨-, hbelow, -⟩ := hiff.mp halways
  exact absurd (hbelow Group.root rfl) (by decide)

/-- **A group can have middleware that reaches the limit.** -/
theorem not_groups_below :
    ¬ ∀ (limit : Nat) (commands : List Command), 1 ≤ limit →
      ∀ name g, ((empty limit).execAll commands).group? name = some g →
        g.middleware.length < ((empty limit).execAll commands).table.limit := by
  intro hclaim
  have hshort := hclaim 2 usedAtLimit (by decide) rootName _ rfl
  exact absurd hshort (by decide)

end Site
end Gatehouse
