/-
# What a mount is asked for

A mount looks for the file that the parameter `filepath` names.  Its pattern ends with a catch-all
of that name, which takes the remainder of a path behind the mount's own place; and a context gives
the first of its parameters that has a name.  So the mount is asked for the remainder unless
something that stands in front, in the path of the group, takes the name or the remainder first.

* `Segment.lookup_of_clear`, `Segment.lookup_of_taken`, `Segment.lookup_of_swallowed`: what the
  parameter of a name is, by what stands in front of its catch-all;
* `Exchange.params_visits`: parameters stay what they are throughout a run;
* `Site.mount_asked`: **a mount is asked for the remainder of the path when its place is clear**,
  and for what the place takes when it is not;
* `Site.not_mount_asked`: a mount can be asked for something else.
-/
import Gatehouse.Proofs.Chain.Aborting
import Gatehouse.Proofs.Route.Lookup
import Gatehouse.Proofs.Route.Mounting
import Gatehouse.Proofs.Route.Standing
import Gatehouse.Route.Dispatch

namespace Gatehouse

/-! ## 1. Parameters of a pattern -/

namespace Segment

/-- Segments leave a name, and what is behind them, to the rest of their pattern: none has the name,
and none is a catch-all. -/
structure Clear (key : String) (segs : List Segment) : Prop where
  unnamed : key ∉ keys segs
  bounded : ∀ other, .rest other ∉ segs

/-- Segments are clear, or the first that is not has the name or is a catch-all. -/
theorem clear_or (key : String) (segs : List Segment) :
    Clear key segs ∨ ∃ front seg behind, segs = front ++ seg :: behind ∧ Clear key front ∧
      (seg = .one key ∨ ∃ other, seg = .rest other) := by
  induction segs with
  | nil => exact Or.inl ⟨List.not_mem_nil, fun _ => List.not_mem_nil⟩
  | cons s segs ih =>
    -- a segment that is passed by is clear in front of whatever comes behind it
    have hpassed : (∀ segs, Clear key segs → Clear key (s :: segs)) →
        Clear key (s :: segs) ∨ ∃ front seg behind, s :: segs = front ++ seg :: behind ∧
          Clear key front ∧ (seg = .one key ∨ ∃ other, seg = .rest other) := by
      intro hstep
      rcases ih with hclear | ⟨front, seg, behind, rfl, hclear, hseg⟩
      · exact Or.inl (hstep segs hclear)
      · exact Or.inr ⟨s :: front, seg, behind, rfl, hstep front hclear, hseg⟩
    have hfirst : (s = .one key ∨ ∃ other, s = .rest other) →
        ∃ front seg behind, s :: segs = front ++ seg :: behind ∧ Clear key front ∧
          (seg = .one key ∨ ∃ other, seg = .rest other) := fun hs =>
      ⟨[], s, segs, rfl, ⟨List.not_mem_nil, fun _ => List.not_mem_nil⟩, hs⟩
    cases s with
    | literal name =>
      refine hpassed fun segs hclear => ⟨hclear.unnamed, fun other hmem => ?_⟩
      exact hclear.bounded other (by simpa using hmem)
    | one other =>
      by_cases hkey : other = key
      · exact Or.inr (hfirst (Or.inl (congrArg Segment.one hkey)))
      · refine hpassed fun segs hclear => ⟨fun hmem => ?_, fun other hmem => ?_⟩
        · exact hclear.unnamed (List.mem_of_ne_of_mem (fun heq => hkey heq.symm) hmem)
        · exact hclear.bounded other (by simpa using hmem)
    | rest other => exact Or.inr (hfirst (Or.inr ⟨other, rfl⟩))

/-- Names that fit segments without a catch-all and more behind them: as many names as segments
belong to these, and the others fit what is behind. -/
theorem fit?_append {front more : List Segment} (hfront : ∀ other, .rest other ∉ front)
    {ns : List String} {params : Params} (h : fit? (front ++ more) ns = some params) :
    ∃ ps qs, params = ps ++ qs ∧ ps.map Prod.fst = keys front ∧
      fit? more (ns.drop front.length) = some qs := by
  induction front generalizing ns params with
  | nil => exact ⟨[], params, rfl, rfl, h⟩
  | cons s front ih =>
    have hrest : ∀ other, .rest other ∉ front := fun other hmem =>
      hfront other (List.mem_cons_of_mem _ hmem)
    cases s with
    | rest other => exact absurd List.mem_cons_self (hfront other)
    | literal name =>
      cases ns with
      | nil => cases h
      | cons n ns =>
        simp only [List.cons_append, fit?] at h
        split at h
        · exact ih hrest h
        · cases h
    | one key =>
      cases ns with
      | nil => cases h
      | cons n ns =>
        obtain ⟨params', hfit, rfl⟩ := Option.map_eq_some_iff.mp h
        obtain ⟨ps, qs, rfl, hkeys, hbehind⟩ := ih hrest hfit
        exact ⟨(key, n) :: ps, qs, rfl, congrArg (key :: ·) hkeys, hbehind⟩

section

variable {key : String} {front more behind : List Segment} {ns : List String} {params : Params}

/-- Behind clear segments a name is found where it would be without them. -/
theorem lookup_behind (hclear : Clear key front) (h : fit? (front ++ more) ns = some params) :
    ∃ qs, fit? more (ns.drop front.length) = some qs ∧ params.lookup key = qs.lookup key := by
  obtain ⟨ps, qs, rfl, hkeys, hbehind⟩ := fit?_append hclear.bounded h
  have hnone : ps.lookup key = none := by
    rw [List.lookup_eq_none_iff]
    intro p hp
    have hmem : p.1 ∈ keys front := hkeys ▸ List.mem_map_of_mem hp
    have hne : key ≠ p.1 := fun heq => hclear.unnamed (heq ▸ hmem)
    simpa using hne
  exact ⟨qs, hbehind, by rw [List.lookup_append, hnone, Option.none_or]⟩

/-- **A catch-all behind clear segments gets all that is left.** -/
theorem lookup_of_clear (hclear : Clear key front)
    (h : fit? (front ++ .rest key :: behind) ns = some params) :
    params.lookup key = some (Path.joinPieces (ns.drop front.length)) := by
  obtain ⟨qs, hfit, hlookup⟩ := lookup_behind hclear h
  obtain rfl := Option.some.inj hfit
  rw [hlookup]
  simp

/-- A name that is taken on the way is the one piece that stands there. -/
theorem lookup_of_taken (hclear : Clear key front)
    (h : fit? (front ++ .one key :: behind) ns = some params) :
    params.lookup key = ns[front.length]? := by
  obtain ⟨qs, hfit, hlookup⟩ := lookup_behind hclear h
  cases hns : ns.drop front.length with
  | nil =>
    rw [hns] at hfit
    cases hfit
  | cons n left =>
    rw [hns] at hfit
    obtain ⟨qs, -, rfl⟩ := Option.map_eq_some_iff.mp hfit
    have hhead : ns[front.length]? = some n := by
      rw [← List.head?_drop, hns]
      rfl
    rw [hlookup, hhead]
    simp

/-- Behind a catch-all of another name nothing gets anything. -/
theorem lookup_of_swallowed {other : String} (hclear : Clear key front) (hother : key ≠ other)
    (h : fit? (front ++ .rest other :: behind) ns = some params) : params.lookup key = none := by
  obtain ⟨qs, hfit, hlookup⟩ := lookup_behind hclear h
  obtain rfl := Option.some.inj hfit
  rw [hlookup]
  simpa using hother

end

end Segment

/-! ## 2. Parameters of a run -/

namespace Exchange

/-- **At every moment of a run the parameters are those that it began with.** -/
theorem params_visits (d : Disk) (x : Exchange) :
    ∀ v ∈ x.visits d, v.2.context.params = x.context.params := by
  intro v hv
  obtain ⟨before, later, hsplit⟩ := List.append_of_mem hv
  have hpath : Path d x (x.visits d) (x.run d).exchange := path_runFor d _ x
  rw [hsplit] at hpath
  rw [hpath.eq_replay_of_split]
  exact (moves_replay d (before.map Prod.fst) x).params

end Exchange

/-! ## 3. The place of a mount -/

namespace Group

open Gatehouse.Path

/-- **The segments of a mount's pattern** are those of its place, and the catch-all. -/
theorem ofPattern_mountPattern {base : String} (hbase : isRooted base = true) (r : String) :
    ∃ place pattern, under base (clean r) = .ok place ∧
      under base (mountPattern r) = .ok pattern ∧
      Segment.ofPattern pattern =
        Segment.ofPattern place ++ [.rest Mount.parameterName] := by
  have hproper := resolve_isProper (resolve_nil_isProper base) (clean r)
  have hproper' : ∀ s ∈ catchAll :: resolve (resolve [] base) (clean r), IsProper s :=
    List.forall_mem_cons.mpr ⟨isProper_catchAll, hproper⟩
  refine ⟨_, _, under_eq hbase (clean_ne_empty r), under_mountPattern hbase r, ?_⟩
  rw [Segment.ofPattern, Segment.ofPattern, names_absolute hproper', names_absolute hproper,
    List.reverse_cons, List.map_append]
  rfl

end Group

/-! ## 4. Requests to a mount -/

namespace Site

open Segment (Clear)

/-- Whatever is done to a site: the requests that meet this pattern run this chain, and at every
moment of its run the parameter that names a mount's file is what `asked` makes of the names of
the request's path. -/
def Asks (s : Site) (pattern : String) (chain : Chain) (asked : List String → Option String) :
    Prop :=
  ∀ commands, ∀ method ∈ Group.readingMethods, ∀ path found,
    (s.execAll commands).table.lookup method path = some found → found.pattern = pattern →
      found.chain = chain ∧ ∀ d id request, ∀ v ∈ (Table.arrive id request found).visits d,
        v.2.context.param? Mount.parameterName = asked (Path.names path)

/-- A route that a site has registered is what its pattern is found with, whatever is done. -/
theorem asks_of_mem {s : Site} (hdistinct : s.table.Distinct) {pattern : String} {chain : Chain}
    (hroutes : ∀ method ∈ Group.readingMethods, ⟨method, pattern, chain⟩ ∈ s.table.routes)
    {asked : List String → Option String}
    (hasked : ∀ ns params, Segment.fit? (Segment.ofPattern pattern) ns = some params →
      params.lookup Mount.parameterName = asked ns) : s.Asks pattern chain asked := by
  intro commands method hmethod path found hfound hpattern
  obtain ⟨r, hr, hrm, params, hfit, rfl⟩ := Table.exists_route_of_lookup_eq hfound
  -- the route that is found is the one that was registered, for there is no other of its kind
  have hlater := distinct_execAll hdistinct commands
  have hkept := (grown_execAll commands s).routes.subset (hroutes method hmethod)
  have hown := hlater.registered?_of_mem hr
  have hsame : r.pattern = pattern := hpattern
  rw [hrm, hsame, hlater.registered?_of_mem hkept] at hown
  obtain rfl := Option.some.inj hown
  refine ⟨rfl, fun d id request v hv => ?_⟩
  rw [Context.param?, Exchange.params_visits d _ v hv]
  exact hasked _ params hfit

section

variable {limit : Nat} {s : Site} (hreachable : s.Reachable limit) {on : String} {g : Group}
  (hg : s.group? on = some g) {label relative : String} {m : Mount}
  (hdone : (s.exec (.declare on (.mount label relative m))).1 = .done)

include hg hdone

/-- A mount that is taken in stands with its routes in the table. -/
theorem mem_routes_of_mount {pattern : String}
    (hpattern : Path.under g.base (Group.mountPattern relative) = .ok pattern) :
    ∀ method ∈ Group.readingMethods, ⟨method, pattern, g.middleware ++ [Handler.mount label m]⟩ ∈
      (s.exec (.declare on (.mount label relative m))).2.table.routes := by
  have hexec : s.exec (.declare on (.mount label relative m)) =
      s.commit (g.declare (.mount label relative m)) := exec_declare hg _
  rw [hexec, commit_fst_eq_done_iff] at hdone
  have hplain : Group.mentionsParameters relative = false := by
    cases hmentions : Group.mentionsParameters relative with
    | false => rfl
    | true =>
      simp only [Group.declare, hmentions, if_true] at hdone
      cases hdone
  intro method hmethod
  rw [hexec, commit_snd]
  show _ ∈ ((g.declare (.mount label relative m)).run s.table).2.routes
  rw [Group.declare_mount_done hplain hpattern hdone]
  exact List.mem_append_right _ (List.mem_map_of_mem hmethod)

include hreachable

/-- **What a mount is asked for.**  For every group that is held on a site and every folder that is
mounted through it, the mount's pattern has the segments of its place and the catch-all behind them,
and the mount is registered for each of the methods that read.  Then, whatever is done to the site
and for every request that meets the pattern, the mount finds under `filepath`

* the remainder of the path behind the place, when the place is clear: none of its segments has the
  name `filepath`, and none is a catch-all;
* the one name that stands there, when a segment of the place has the name before anything else;
* all names from there on, when a catch-all of the place has it, and nothing when one of another
  name comes first. -/
theorem mount_asked :
    ∃ place pattern, Path.under g.base (Path.clean relative) = .ok place ∧
      Segment.ofPattern pattern = Segment.ofPattern place ++ [.rest Mount.parameterName] ∧
      let mounted := (s.exec (.declare on (.mount label relative m))).2
      let chain := g.middleware ++ [Handler.mount label m]
      (∀ method ∈ Group.readingMethods, ⟨method, pattern, chain⟩ ∈ mounted.table.routes) ∧
      (Clear Mount.parameterName (Segment.ofPattern place) →
        mounted.Asks pattern chain fun ns =>
          some (Path.joinPieces (ns.drop (Segment.ofPattern place).length))) ∧
      (∀ front behind, Segment.ofPattern place = front ++ .one Mount.parameterName :: behind →
        Clear Mount.parameterName front →
          mounted.Asks pattern chain fun ns => ns[front.length]?) ∧
      (∀ front other behind, Segment.ofPattern place = front ++ .rest other :: behind →
        Clear Mount.parameterName front →
          mounted.Asks pattern chain fun ns =>
            if other = Mount.parameterName then some (Path.joinPieces (ns.drop front.length))
            else none) ∧
      (Clear Mount.parameterName (Segment.ofPattern place) ∨
        ∃ front seg behind, Segment.ofPattern place = front ++ seg :: behind ∧
          Clear Mount.parameterName front ∧
          (seg = .one Mount.parameterName ∨ ∃ other, seg = .rest other)) := by
  obtain ⟨place, pattern, hplace, hpattern, hsegments⟩ :=
    Group.ofPattern_mountPattern (hreachable.isRooted_base hg) relative
  have hroutes := mem_routes_of_mount hg hdone hpattern
  have hdistinct := distinct_exec hreachable.distinct (.declare on (.mount label relative m))
  -- no two routes share a pattern, so a request that is answered by the mount meets its segments;
  -- which value the name has is then a matter of what stands in front
  refine ⟨place, pattern, hplace, hsegments, hroutes, ?_, ?_, ?_, Segment.clear_or _ _⟩
  · intro hclear
    refine asks_of_mem hdistinct hroutes fun ns params hfit => ?_
    rw [hsegments] at hfit
    exact Segment.lookup_of_clear hclear hfit
  · intro front behind hfront hclear
    refine asks_of_mem hdistinct hroutes fun ns params hfit => ?_
    rw [hsegments, hfront, List.append_assoc, List.cons_append] at hfit
    exact Segment.lookup_of_taken hclear hfit
  · intro front other behind hfront hclear
    refine asks_of_mem hdistinct hroutes fun ns params hfit => ?_
    rw [hsegments, hfront, List.append_assoc, List.cons_append] at hfit
    split
    · rename_i hother
      rw [hother] at hfit
      exact Segment.lookup_of_clear hclear hfit
    · rename_i hother
      exact Segment.lookup_of_swallowed hclear (Ne.symm hother) hfit

end

/-- A mount below a group without parameters, and a request for a file below both. -/
theorem mount_asked_below :
    grouped.Reachable 63 ∧ grouped.group? "api" = some ⟨"/api", []⟩ ∧
      (grouped.exec (.declare "api" (.mount "folder" "pub" www))).1 = .done ∧
      ∃ found, (grouped.exec (.declare "api" (.mount "folder" "pub" www))).2.table.lookup Method.GET
          "/api/pub/css//site.css" = some found ∧
        ∀ d id request, ∀ v ∈ (Table.arrive id request found).visits d,
          v.2.context.param? Mount.parameterName = some "css/site.css" := by
  have hreachable : grouped.Reachable 63 := ⟨_, rfl⟩
  have hg : grouped.group? "api" = some ⟨"/api", []⟩ := rfl
  have hdone : (grouped.exec (.declare "api" (.mount "folder" "pub" www))).1 = .done := rfl
  obtain ⟨place, pattern, hplace, -, hroutes, hasks, -⟩ := mount_asked hreachable hg hdone
  obtain rfl : "/api/pub" = place := Except.ok.inj hplace
  have hpattern : pattern ∈ ["/api/pub/*filepath", "/api/pub/*filepath"] :=
    List.mem_map_of_mem (f := Route.pattern) (hroutes Method.GET (by decide))
  have hclear : Clear Mount.parameterName (Segment.ofPattern "/api/pub") := by
    have hsegments : Segment.ofPattern "/api/pub" = [.literal "api", .literal "pub"] := by decide
    rw [hsegments]
    exact ⟨by decide, by simp⟩
  have hfound :
      (grouped.exec (.declare "api" (.mount "folder" "pub" www))).2.table.lookup Method.GET
      "/api/pub/css//site.css" =
        some ⟨"/api/pub/*filepath", [("filepath", "css/site.css")],
          [Handler.mount "folder" www]⟩ := rfl
  have hsame : "/api/pub/*filepath" = pattern := by simpa [eq_comm] using hpattern
  obtain ⟨-, hasked⟩ := hasks hclear [] Method.GET (by decide) _ _ hfound hsame
  exact ⟨hreachable, hg, hdone, _, hfound, hasked⟩

/-- A site with a group whose path has a parameter of the name that mounts read. -/
def versioned : Site := (empty 63).execAll [.sub "root" "/:filepath" [] "version"]

/-- **A mount can be asked for something else.**  When a segment in the path of its group has the
name `filepath`, what stands there is what the mount is asked for. -/
theorem not_mount_asked :
    ¬ ∀ (limit : Nat) (s : Site) (on : String) (g : Group) (label relative place : String)
        (m : Mount) (method : Method) (path : String) (found : RouteMatch) (d : Disk)
        (id : RequestId) (request : Request), s.Reachable limit → s.group? on = some g →
      (s.exec (.declare on (.mount label relative m))).1 = .done →
      Path.under g.base relative = .ok place →
      (s.exec (.declare on (.mount label relative m))).2.table.lookup method path = some found →
      found.chain = g.middleware ++ [Handler.mount label m] →
        ∀ v ∈ (Table.arrive id request found).visits d,
          v.2.context.param? Mount.parameterName =
            some (Path.joinPieces ((Path.names path).drop (Path.names place).length)) := by
  intro hclaim
  have hdone : (versioned.exec (.declare "version" (.mount "folder" "/files" www))).1 = .done := rfl
  have hplace : Path.under "/:filepath" "/files" = .ok "/:filepath/files" := rfl
  have hfound : (versioned.exec (.declare "version" (.mount "folder" "/files" www))).2.table.lookup
      Method.GET "/v1/files/a.txt" = some ⟨"/:filepath/files/*filepath",
        [("filepath", "v1"), ("filepath", "a.txt")], [Handler.mount "folder" www]⟩ := rfl
  have hasked := hclaim 63 versioned "version" ⟨"/:filepath", []⟩ "folder" "/files" _ www _ _ _
    Disk.bare ⟨0, 0, 0⟩ ⟨Method.GET, "/v1/files/a.txt", [], []⟩ ⟨_, rfl⟩ rfl hdone hplace hfound rfl _
    List.mem_cons_self
  have hname : some "v1" = some "a.txt" := hasked
  exact absurd hname (by decide)

end Site
end Gatehouse
