/-
# Registering routes

Everything that is registered runs on the table, and this file says what each kind of registration
makes of it.

* `Table.add_run`, `Group.register_run`, `Group.sub_eq`: what adding a route, registering one
  through a group and making a subgroup do, refusals included;
* `Group.register_done_iff`, `Group.register_done`: **when a route is taken in, and that it then
  stands behind the others**, below the group's path and behind its middleware;
* `Group.registerEach_routes`: the same of one route for each of several methods;
* `Group.declare_of_placed`, `Group.declare_of_register`: what registering one route has, at one
  place or at any, every declaration has;
* `Group.grows_declare`: **a table only grows**, whatever is declared and whether or not it is
  refused.
-/
import Gatehouse.Proofs.Path.Resolve
import Gatehouse.Route.Group

namespace Gatehouse

/-! ## 1. Running a registration -/

theorem Chain.combine_eq (existing additional : Chain) (limit : Nat) :
    Chain.combine existing additional limit =
      if limit ≤ (existing ++ additional).length
      then .error (.tooManyHandlers (existing ++ additional).length limit)
      else .ok (existing ++ additional) := by
  simp only [Chain.combine, List.length_append]

/-- Two chains stay below a limit together, or they are not put together. -/
theorem Chain.combine_eq_ok_iff {existing additional chain : Chain} {limit : Nat} :
    Chain.combine existing additional limit = .ok chain ↔
      chain = existing ++ additional ∧ (existing ++ additional).length < limit := by
  rw [Chain.combine_eq]
  split
  · rename_i hlong
    exact ⟨fun h => (nomatch h), fun h => absurd h.2 (Nat.not_lt.mpr hlong)⟩
  · rename_i hshort
    constructor
    · intro h
      exact ⟨(Except.ok.inj h).symm, Nat.not_le.mp hshort⟩
    · rintro ⟨rfl, -⟩
      rfl

namespace Registration

/-- One registration after another: the second one starts where the first one stopped. -/
theorem run_bind {α β : Type} (x : Registration α) (f : α → Registration β) (t : Table) :
    (x >>= f).run t =
      match x.run t with
      | (.ok a, t') => (f a).run t'
      | (.error fault, t') => (.error fault, t') := by
  change (match x.run t with | (e, t') => ExceptT.bindCont f e t') = _
  obtain ⟨_ | _, t'⟩ := x.run t <;> rfl

theorem run_lift {α : Type} (e : Except RouteFault α) (t : Table) :
    (ExceptT.mk (pure e) : Registration α).run t = (e, t) := rfl

theorem run_get (t : Table) : (get : Registration Table).run t = (.ok t, t) := rfl

end Registration

namespace Table

/-- A table with one more route behind its own. -/
def withRoute (t : Table) (r : Route) : Table := { t with routes := t.routes ++ [r] }

/-- A route is refused, or it stands behind the others. -/
theorem add_run (method : Method) (path : String) (chain : Chain) (t : Table) :
    (add method path chain).run t =
      match t.refusal? method path chain with
      | some fault => (.error fault, t)
      | none => (.ok (), t.withRoute ⟨method, path, chain⟩) := by
  simp only [add, Registration.run_bind, Registration.run_get]
  cases t.refusal? method path chain <;> rfl

/-- A rooted path is refused for an empty chain or because it is taken. -/
theorem refusal?_eq_none_iff {t : Table} {method : Method} {path : String} {chain : Chain}
    (hrooted : Path.isRooted path = true) :
    t.refusal? method path chain = none ↔ chain ≠ [] ∧ t.registered? method path = none := by
  simp only [refusal?, hrooted, Bool.not_true, Bool.false_eq_true, if_false, List.isEmpty_iff]
  split
  · rename_i hempty
    exact ⟨fun h => (nomatch h), fun h => absurd hempty h.1⟩
  · rename_i hchain
    cases t.registered? method path with
    | some r => exact ⟨fun h => (nomatch h), fun h => (nomatch h.2)⟩
    | none => exact ⟨fun _ => ⟨hchain, rfl⟩, fun _ => rfl⟩

theorem ne_nil_of_refusal?_eq_none {t : Table} {method : Method} {path : String} {chain : Chain}
    (h : t.refusal? method path chain = none) : chain ≠ [] := by
  rintro rfl
  simp only [refusal?, List.isEmpty_nil, if_true] at h
  split at h <;> cases h

end Table

namespace Group

/-- A subgroup whose path has a place is refused for the length of its chain alone. -/
theorem sub_eq {g : Group} {relative base : String} (hbase : Path.under g.base relative = .ok base)
    (limit : Nat) (more : Chain) :
    g.sub limit relative more =
      if limit ≤ (g.middleware ++ more).length
      then .error (.tooManyHandlers (g.middleware ++ more).length limit)
      else .ok ⟨base, g.middleware ++ more⟩ := by
  simp only [sub, Chain.combine_eq, hbase]
  split <;> rfl

/-- **A subgroup that is made** stays below the limit, with the group's middleware in front of its
own. -/
theorem sub_eq_ok {g made : Group} {limit : Nat} {relative : String} {more : Chain}
    (h : g.sub limit relative more = .ok made) :
    made.middleware = g.middleware ++ more ∧ made.middleware.length < limit ∧
      Path.under g.base relative = .ok made.base := by
  cases hcombined : Chain.combine g.middleware more limit with
  | error fault =>
    simp only [sub, hcombined] at h
    cases h
  | ok middleware =>
    obtain ⟨rfl, hshort⟩ := Chain.combine_eq_ok_iff.mp hcombined
    cases hbase : Path.under g.base relative with
    | error fault =>
      simp only [sub, hcombined, hbase] at h
      cases h
    | ok base =>
      simp only [sub, hcombined, hbase] at h
      cases h
      exact ⟨rfl, hshort, rfl⟩

/-- One route below a group: its path, then its chain, then the table itself may refuse it. -/
theorem register_run (g : Group) (method : Method) (relative : String) (handlers : Chain)
    (t : Table) :
    (g.register method relative handlers).run t =
      match Path.under g.base relative with
      | .error fault => (.error fault, t)
      | .ok path =>
        match Chain.combine g.middleware handlers t.limit with
        | .error fault => (.error fault, t)
        | .ok chain => (Table.add method path chain).run t := by
  simp only [register, Registration.run_bind, Registration.run_lift, Registration.run_get]
  cases Path.under g.base relative with
  | error fault => rfl
  | ok path =>
    dsimp only
    cases Chain.combine g.middleware handlers t.limit <;> rfl

/-- A route whose path has a place is refused for the length of its chain, or by the table. -/
theorem register_eq {g : Group} {relative pattern : String}
    (hpath : Path.under g.base relative = .ok pattern) (method : Method) (handlers : Chain)
    (t : Table) :
    (g.register method relative handlers).run t =
      if t.limit ≤ (g.middleware ++ handlers).length
      then (.error (.tooManyHandlers (g.middleware ++ handlers).length t.limit), t)
      else (Table.add method pattern (g.middleware ++ handlers)).run t := by
  rw [register_run, hpath, Chain.combine_eq]
  by_cases hlong : t.limit ≤ (g.middleware ++ handlers).length
  · simp only [if_pos hlong]
  · simp only [if_neg hlong]

/-- **When a route is taken in**: its chain is short enough and not empty, and nothing is registered
for its method and pattern. -/
theorem register_done_iff {g : Group} {relative pattern : String}
    (hpath : Path.under g.base relative = .ok pattern) (hrooted : Path.isRooted pattern = true)
    (method : Method) (handlers : Chain) (t : Table) :
    ((g.register method relative handlers).run t).1 = .ok () ↔
      (g.middleware ++ handlers).length < t.limit ∧ g.middleware ++ handlers ≠ [] ∧
        t.registered? method pattern = none := by
  rw [register_eq hpath, Table.add_run, ← Table.refusal?_eq_none_iff hrooted]
  by_cases hlong : t.limit ≤ (g.middleware ++ handlers).length
  · rw [if_pos hlong]
    exact ⟨fun h => (nomatch h), fun h => absurd h.1 (Nat.not_lt.mpr hlong)⟩
  · rw [if_neg hlong]
    cases hrefusal : t.refusal? method pattern (g.middleware ++ handlers) with
    | some fault => exact ⟨fun h => (nomatch h), fun h => (nomatch h.2)⟩
    | none => exact ⟨fun _ => ⟨Nat.not_le.mp hlong, rfl⟩, fun _ => rfl⟩

/-- **A route that is taken in stands behind the others**, with the group's middleware in front of
its own handlers. -/
theorem register_done {g : Group} {relative pattern : String}
    (hpath : Path.under g.base relative = .ok pattern) {method : Method} {handlers : Chain}
    {t : Table} (hdone : ((g.register method relative handlers).run t).1 = .ok ()) :
    ((g.register method relative handlers).run t).2 =
      t.withRoute ⟨method, pattern, g.middleware ++ handlers⟩ := by
  rw [register_eq hpath, Table.add_run] at hdone ⊢
  split at hdone
  · cases hdone
  · rename_i hshort
    rw [if_neg hshort]
    split at hdone
    · cases hdone
    · rfl

/-- **Registering for several methods that is done** puts one route for each of them behind the
others, with one pattern and one chain. -/
theorem registerEach_routes {g : Group} {relative pattern : String}
    (hpath : Path.under g.base relative = .ok pattern) {handlers : Chain} {methods : List Method}
    {t : Table} (hdone : ((g.registerEach relative handlers methods).run t).1 = .ok ()) :
    ((g.registerEach relative handlers methods).run t).2.routes =
      t.routes ++ methods.map fun m => ⟨m, pattern, g.middleware ++ handlers⟩ := by
  induction methods generalizing t with
  | nil => exact (List.append_nil _).symm
  | cons m methods ih =>
    have hfirst := @register_done g relative pattern hpath m handlers t
    simp only [registerEach, Registration.run_bind] at hdone ⊢
    generalize (g.register m relative handlers).run t = ran at hfirst hdone ⊢
    obtain ⟨fault | _, t'⟩ := ran
    · cases hdone
    · obtain rfl := hfirst rfl
      rw [ih hdone]
      simp [Table.withRoute]

/-- Groups with one middleware register alike what has one place below them. -/
theorem registerEach_congr {g g' : Group} {relative relative' : String}
    (hmiddleware : g.middleware = g'.middleware)
    (hpath : Path.under g.base relative = Path.under g'.base relative') (handlers : Chain)
    (methods : List Method) (t : Table) :
    (g.registerEach relative handlers methods).run t =
      (g'.registerEach relative' handlers methods).run t := by
  have hregister : ∀ m t, (g.register m relative handlers).run t =
      (g'.register m relative' handlers).run t := by
    intro m t
    rw [register_run, register_run, hmiddleware, hpath]
  induction methods generalizing t with
  | nil => rfl
  | cons m methods ih =>
    simp only [registerEach, Registration.run_bind, hregister, ih]

end Group

/-! ## 2. What declarations are made of -/

/-- What doing nothing and refusing at once have, and doing one thing after another keeps. -/
structure Registration.Composes (Q : Registration Unit → Prop) : Prop where
  done : Q (pure ())
  refusal : ∀ fault, Q (throw fault)
  next : ∀ {r r' : Registration Unit}, Q r → Q r' → Q (do r; r')

/-- The path that a declaration places below the base of its group. -/
def Declaration.placed : Declaration → String
  | .route _ relative _ | .named _ relative _ | .every relative _ | .file _ relative _ => relative
  | .mount _ relative _ => Group.mountPattern relative

namespace Group

section

variable {Q : Registration Unit → Prop} (hQ : Registration.Composes Q) (g : Group)
include hQ

theorem registerEach_of_register {relative : String} {handlers : Chain}
    (hregister : ∀ method, Q (g.register method relative handlers)) :
    ∀ methods, Q (g.registerEach relative handlers methods)
  | [] => hQ.done
  | m :: ms => hQ.next (hregister m) (registerEach_of_register hregister ms)

/-- **Declarations are made of registering single routes at one place, and of refusals.** -/
theorem declare_of_placed (d : Declaration)
    (hregister : ∀ method handlers, Q (g.register method d.placed handlers)) :
    Q (g.declare d) := by
  cases d with
  | route method relative handlers => exact hregister method handlers
  | named text relative handlers =>
    simp only [declare]
    cases Method.ofName? text with
    | some method => exact hregister method handlers
    | none => exact hQ.refusal _
  | every relative handlers =>
    exact registerEach_of_register hQ g (fun method => hregister method handlers) _
  | file label relative location =>
    simp only [declare]
    split
    · exact hQ.refusal _
    · exact registerEach_of_register hQ g (fun method => hregister method _) _
  | mount label relative m =>
    simp only [declare]
    split
    · exact hQ.refusal _
    · exact registerEach_of_register hQ g (fun method => hregister method _) _

/-- What registering a route has wherever it is placed, every declaration has. -/
theorem declare_of_register
    (hregister : ∀ method relative handlers, Q (g.register method relative handlers))
    (d : Declaration) : Q (g.declare d) :=
  declare_of_placed hQ g d fun method handlers => hregister method d.placed handlers

end

end Group

/-! ## 3. Tables only grow -/

namespace Table

/-- A table that has come from another one by registering: routes behind its own, and the same
limit. -/
structure Grown (t t' : Table) : Prop where
  routes : t.routes <+: t'.routes
  limit : t'.limit = t.limit

theorem Grown.refl (t : Table) : Grown t t := ⟨List.prefix_rfl, rfl⟩

theorem Grown.trans {t t' t'' : Table} (h : Grown t t') (h' : Grown t' t'') : Grown t t'' :=
  ⟨h.routes.trans h'.routes, h'.limit.trans h.limit⟩

theorem grown_withRoute (t : Table) (r : Route) : Grown t (t.withRoute r) :=
  ⟨List.prefix_append _ _, rfl⟩

theorem grown_setName (t : Table) (h : Handler) (name : String) : Grown t (t.setName h name) :=
  ⟨List.prefix_rfl, rfl⟩

end Table

namespace Registration

/-- A registration that only ever adds to a table. -/
def Grows (r : Registration Unit) : Prop := ∀ t : Table, t.Grown (r.run t).2

theorem grows_modify {f : Table → Table} (h : ∀ t : Table, t.Grown (f t)) : Grows (modify f) := h

theorem Grows.then {r r' : Registration Unit} (h : Grows r) (h' : Grows r') :
    Grows (do r; r') := by
  intro t
  have hfirst := h t
  rw [run_bind]
  generalize r.run t = ran at hfirst ⊢
  obtain ⟨_ | _, t'⟩ := ran
  · exact hfirst
  · exact hfirst.trans (h' t')

theorem composes_grows : Composes Grows where
  done := Table.Grown.refl
  refusal _ := Table.Grown.refl
  next := Grows.then

theorem grows_add (method : Method) (path : String) (chain : Chain) :
    Grows (Table.add method path chain) := by
  intro t
  rw [Table.add_run]
  split
  · exact Table.Grown.refl t
  · exact Table.grown_withRoute t _

end Registration

namespace Group

theorem grows_register (g : Group) (method : Method) (relative : String) (handlers : Chain) :
    Registration.Grows (g.register method relative handlers) := by
  intro t
  rw [register_run]
  split
  · exact Table.Grown.refl t
  · split
    · exact Table.Grown.refl t
    · exact Registration.grows_add _ _ _ t

/-- **Whatever is declared through a group, the table only grows**, also when it is refused. -/
theorem grows_declare (g : Group) (d : Declaration) : Registration.Grows (g.declare d) :=
  g.declare_of_register Registration.composes_grows (grows_register g) d

theorem grows_declareNamed (g : Group) (h : Handler) (name : String) (d : Declaration) :
    Registration.Grows (g.declareNamed h name d) :=
  (Registration.grows_modify fun t => Table.grown_setName t h name).then (grows_declare g d)

end Group

end Gatehouse
