/-
# Chains below the limit

The limit of a table comes from options, which never let it exceed `Chain.abortIndex`; every way of
registering through a group keeps a chain below it, and a table takes in no empty chain.  Middleware
may make a group longer than the limit, but then nothing more can be registered through it.

* `Site.EveryRoute.bounded_execAll`: **no route ever reaches the limit**, whatever is done through
  groups, refused or not;
* `Engine.sees_aborts`: **an aborted request says so, and no other does**, on every engine, at every
  moment.
-/
import Gatehouse.Proofs.Chain.Aborting
import Gatehouse.Proofs.Route.Fronting

namespace Gatehouse

/-! ## 1. Routes -/

/-- A route has a handler, and its chain stays below a limit. -/
def Route.Bounded (limit : Nat) (r : Route) : Prop := 1 ≤ r.chain.length ∧ r.chain.length < limit

namespace Site

variable {s : Site} {commands : List Command}

/-- **What is done through groups keeps every chain below the limit**, and none is empty. -/
theorem EveryRoute.bounded_execAll (h : s.EveryRoute Route.Bounded)
    (hcommands : ∀ c ∈ commands, c.ThroughGroups) :
    (s.execAll commands).EveryRoute Route.Bounded := by
  induction commands generalizing s with
  | nil => exact h
  | cons c commands ih =>
    refine ih ?_ fun c' hc' => hcommands c' (List.mem_cons_of_mem _ hc')
    refine h.exec (G := fun _ => True) ?_ (fun _ _ _ => trivial) (hcommands c List.mem_cons_self)
    intro g _ limit r hcarries hfilled
    exact ⟨List.length_pos_iff.mpr hfilled, hcarries.2⟩

end Site

/-! ## 2. Engines -/

namespace Engine

/-- An engine as options make one: a plain one, or one that starts with recovery. -/
def MadeBy (o : Options) (e : Engine) : Prop := e = new o ∨ ∃ label, e = withRecovery label o

/-- An engine starts without routes, with the limit that its options say. -/
theorem MadeBy.table_eq {o : Options} {e : Engine} (h : MadeBy o e) :
    e.site.table = Table.empty o.handlerLimit := by
  rcases h with rfl | ⟨label, rfl⟩ <;> rfl

/-- **Whether a request is aborted is exact on every engine.**  Whatever its options are built from
and whatever is done through its groups, each route has a handler and stays below the limit, which
does not exceed `Chain.abortIndex`; so while a request runs, and when it has, its context says that
it is aborted exactly if one of its handlers has aborted it. -/
theorem sees_aborts {settings : List Setting} {e : Engine} (he : MadeBy (Options.build settings) e)
    {commands : List Command} (hcommands : ∀ c ∈ commands, c.ThroughGroups) :
    let table := (e.site.execAll commands).table
    table.limit = (Options.build settings).handlerLimit ∧ table.limit ≤ Chain.abortIndex ∧
      (∀ r ∈ table.routes, r.Bounded table.limit) ∧
      ∀ (d : Disk) (id : RequestId) (request : Request) (m : RouteMatch),
        table.lookup request.method request.path = some m →
          (Table.arrive id request m).SeesAborts d := by
  intro table
  have hlimit : table.limit = (Options.build settings).handlerLimit := by
    rw [(Site.grown_execAll commands e.site).limit, he.table_eq]
    rfl
  have hle : table.limit ≤ Chain.abortIndex := hlimit ▸ (Options.build settings).handlerLimit_le
  have hroutes : (e.site.execAll commands).EveryRoute Route.Bounded := by
    refine Site.EveryRoute.bounded_execAll ?_ hcommands
    intro r hr
    rw [he.table_eq] at hr
    cases hr
  refine ⟨hlimit, hle, hroutes, fun d id request m hm => ?_⟩
  obtain ⟨r, hr, hchain⟩ := Table.exists_route_of_lookup hm
  have hshort := (hroutes r hr).2
  rw [hchain] at hshort
  exact Exchange.seesAborts d rfl (Nat.lt_of_lt_of_le hshort hle)

/-- Middleware that proceeds. -/
def passing : Handler := ⟨"pass", [.proceed]⟩

/-- Middleware behind which there is room for one handler, one route that takes the room and one
that asks for more. -/
def filling : List Command :=
  [.use Site.rootName (List.replicate 60 passing),
    .declare Site.rootName (.route Method.GET "/fits" [⟨"show", [.note .state]⟩]),
    .declare Site.rootName (.route Method.GET "/tight" [passing, ⟨"deny", [.abort none]⟩])]

/-- The longest chain there can be is answered for exactly. -/
theorem sees_aborts_filling :
    MadeBy (Options.build [.handlerLimit 1000])
        (withRecovery "recovery" (Options.build [.handlerLimit 1000])) ∧
      (∀ c ∈ filling, c.ThroughGroups) ∧
      ∃ m, ((withRecovery "recovery" (Options.build [.handlerLimit 1000])).site.execAll
          filling).table.lookup Method.GET "/fits" = some m ∧
        m.chain.length = 62 ∧
        ∀ d id, (Table.arrive id ⟨Method.GET, "/fits", [], []⟩ m).SeesAborts d := by
  have hcommands : ∀ c ∈ filling, c.ThroughGroups := by
    intro c hc
    simp only [filling, List.mem_cons, List.not_mem_nil, or_false] at hc
    rcases hc with rfl | rfl | rfl <;> exact trivial
  obtain ⟨-, -, -, hsees⟩ :=
    @sees_aborts [.handlerLimit 1000] _ (Or.inr ⟨"recovery", rfl⟩) _ hcommands
  exact ⟨Or.inr ⟨_, rfl⟩, hcommands, _, rfl, rfl, fun d id => hsees d id _ _ rfl⟩

end Engine
end Gatehouse
