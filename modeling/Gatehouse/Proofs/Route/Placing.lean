/-
# Where groups and routes are placed

Every group has been placed below another one by a relative path, and every route below its group.
The relative paths on the way down from the root are the trail of a group.  This file says what a
trail comes to, and that nothing on it can go wrong.

* `Path.WellPlaced.under`: **what is placed below a well-placed path has a place, and is well
  placed**, whatever characters the relative path has;
* `Site.Placed.execAll`: every group that is held is well placed by its trail;
* `Group.register_outcome`: what registering a route comes to, in the order in which it may be
  refused;
* `Site.Placed.refused`, `Site.Placed.added`: no command through a group is refused for a place, and
  the routes that it adds are well placed;
* `Site.places_canonical`: **all paths on a site are well placed, no path is ever at fault, and a
  route is refused for its three reasons alone**.
-/
import Gatehouse.Proofs.Route.Mounting
import Gatehouse.Proofs.Route.Refusing
import Gatehouse.Proofs.Route.Swallowing
import Mathlib.Tactic.SplitIfs

namespace Gatehouse

/-! ## 1. Well-placed paths -/

namespace Path

/-- The last path of a trail that says anything. -/
def lastNamed (relatives : List String) : Option String := (relatives.filter (· ≠ "")).getLast?

/-- What relative paths, placed one below the other from the root on, come to. -/
structure WellPlaced (relatives : List String) (p : String) : Prop where
  leads : relatives.foldlM under "/" = .ok p
  rooted : isRooted p = true
  /-- Proper names alone stand between the slash in front and the one that may stand behind. -/
  names : ∃ ns, (∀ s ∈ ns, IsProper s) ∧ (pieces p = "" :: ns ∨ pieces p = "" :: ns ++ [""])
  slash : endsInSlash p = true ↔
    p = "/" ∨ ∃ r, lastNamed relatives = some r ∧ endsInSlash r = true

theorem lastNamed_concat_empty (relatives : List String) :
    lastNamed (relatives ++ [""]) = lastNamed relatives := by
  simp [lastNamed]

theorem lastNamed_concat {r : String} (hr : r ≠ "") (relatives : List String) :
    lastNamed (relatives ++ [r]) = some r := by
  simp [lastNamed, hr]

section

variable {stack : List String} (h : ∀ s ∈ stack, IsProper s) (slash : Bool)
include h

/-- The pieces of a written stack. -/
theorem pieces_absolute :
    pieces (absolute stack slash) = "" :: stack.reverse ∨
      pieces (absolute stack slash) = "" :: stack.reverse ++ [""] := by
  by_cases hnone : stack = []
  · subst hnone
    cases slash <;> exact Or.inr rfl
  · have hjoined : pieces ("/" ++ joinPieces stack.reverse) = "" :: stack.reverse := by
      rw [pieces_slash_append, pieces_join (by simpa using hnone) fun s hs =>
        (h s (List.mem_reverse.mp hs)).isName.2]
    cases slash with
    | false =>
      left
      simpa [absolute] using hjoined
    | true =>
      right
      have hwritten : absolute stack true = "/" ++ joinPieces stack.reverse ++ "/" := by
        simp [absolute, hnone]
      rw [hwritten, pieces_append_slash, hjoined]

theorem absolute_eq_root_iff : absolute stack slash = "/" ↔ stack = [] := by
  constructor
  · intro hroot
    rw [← resolve_absolute h slash, hroot]
    rfl
  · rintro rfl
    cases slash <;> rfl

/-- A written stack ends in a slash at the root, or where it is asked for. -/
theorem endsInSlash_absolute_iff :
    endsInSlash (absolute stack slash) = true ↔ absolute stack slash = "/" ∨ slash = true := by
  rw [absolute_eq_root_iff h]
  cases slash with
  | false => simp [endsInSlash_absolute h]
  | true =>
    by_cases hnone : stack = []
    · subst hnone
      exact iff_of_true (by decide) (Or.inl rfl)
    · have hwritten : absolute stack true = "/" ++ joinPieces stack.reverse ++ "/" := by
        simp [absolute, hnone]
      rw [hwritten, endsInSlash_append (by decide)]
      exact iff_of_true (by decide) (Or.inr rfl)

end

theorem wellPlaced_root : WellPlaced [] "/" where
  leads := rfl
  rooted := by decide
  names := ⟨[], List.forall_mem_nil _, Or.inr rfl⟩
  slash := iff_of_true (by decide) (Or.inl rfl)

/-- **What is placed below a well-placed path has a place, and is well placed.** -/
theorem WellPlaced.under {relatives : List String} {base : String}
    (h : WellPlaced relatives base) (r : String) :
    ∃ p, Path.under base r = .ok p ∧ WellPlaced (relatives ++ [r]) p := by
  have hleads : ∀ {p}, Path.under base r = .ok p →
      (relatives ++ [r]).foldlM Path.under "/" = .ok p := by
    intro p hp
    rw [List.foldlM_append, h.leads]
    change List.foldlM Path.under base [r] = .ok p
    rw [List.foldlM_cons, hp]
    rfl
  by_cases hr : r = ""
  · subst hr
    refine ⟨base, under_empty base, hleads (under_empty base), h.rooted, h.names, ?_⟩
    rw [lastNamed_concat_empty]
    exact h.slash
  · have hp := under_eq h.rooted hr
    have hproper := resolve_isProper (resolve_nil_isProper base) r
    refine ⟨_, hp, hleads hp, isRooted_absolute _ _, ⟨_, ?_, pieces_absolute hproper _⟩, ?_⟩
    · exact fun s hs => hproper s (List.mem_reverse.mp hs)
    · rw [lastNamed_concat hr, endsInSlash_absolute_iff hproper]
      simp

end Path

/-! ## 2. Why a registration is refused -/

/-- A fault that finds something wrong with where a route or a group is placed. -/
def RouteFault.OfPlace (fault : RouteFault) : Prop :=
  fault = .emptyPath ∨ ∃ p, fault = .notAbsolute p

namespace Group

variable {g : Group} {relative p : String} {t : Table} {fault : RouteFault}

/-- **What registering a route comes to.**  It may be refused for the length of its chain, for
having no handlers and for being there already, in this order. -/
theorem register_outcome (hpath : Path.under g.base relative = .ok p)
    (hrooted : Path.isRooted p = true) (method : Method) (handlers : Chain) :
    (g.register method relative handlers).run t =
      if t.limit ≤ g.middleware.length + handlers.length then
        (.error (.tooManyHandlers (g.middleware.length + handlers.length) t.limit), t)
      else if g.middleware = [] ∧ handlers = [] then (.error (.noHandlers method.token p), t)
      else if ∃ r ∈ t.routes, r.method = method ∧ r.pattern = p then
        (.error (.duplicate method.token p), t)
      else (.ok (), t.withRoute ⟨method, p, g.middleware ++ handlers⟩) := by
  rw [register_eq hpath, List.length_append]
  split
  · rfl
  · rw [Table.add_run]
    have hempty : (g.middleware ++ handlers).isEmpty = true ↔ g.middleware = [] ∧ handlers = [] :=
      List.isEmpty_iff.trans List.append_eq_nil_iff
    have htaken : (t.registered? method p).isSome = true ↔
        ∃ r ∈ t.routes, r.method = method ∧ r.pattern = p := by
      simp [Table.registered?, List.find?_isSome]
    simp only [Table.refusal?, hrooted, Bool.not_true, Bool.false_eq_true, if_false, hempty, htaken]
    split_ifs <;> rfl

/-- A route is never refused for its place. -/
theorem register_refused (hpath : Path.under g.base relative = .ok p)
    (hrooted : Path.isRooted p = true) {method : Method} {handlers : Chain}
    (h : ((g.register method relative handlers).run t).1 = .error fault) : ¬ fault.OfPlace := by
  rw [register_outcome hpath hrooted] at h
  split_ifs at h <;> cases h <;> simp [RouteFault.OfPlace]

/-- What is refused for several methods is refused for one of them. -/
theorem registerEach_refused {handlers : Chain} {methods : List Method}
    (h : ((g.registerEach relative handlers methods).run t).1 = .error fault) :
    ∃ method t', ((g.register method relative handlers).run t').1 = .error fault := by
  induction methods generalizing t with
  | nil => cases h
  | cons m methods ih =>
    rw [registerEach, Registration.run_bind] at h
    cases hfirst : (g.register m relative handlers).run t with
    | mk result t' =>
      rw [hfirst] at h
      cases result with
      | error fault' => exact ⟨m, t, hfirst ▸ h⟩
      | ok _ => exact ih h

/-- **A declaration is refused for what it says**, or because a route is refused where it is
placed. -/
theorem declare_refused {d : Declaration} (h : ((g.declare d).run t).1 = .error fault) :
    ¬ fault.OfPlace ∨
      ∃ method handlers t', ((g.register method d.placed handlers).run t').1 = .error fault := by
  have hsaid : ∀ {own : RouteFault}, ¬ own.OfPlace →
      ((throw own : Registration Unit).run t).1 = .error fault → ¬ fault.OfPlace := by
    intro own hown hthrown
    cases hthrown
    exact hown
  have heach : ∀ {relative handlers methods},
      ((g.registerEach relative handlers methods).run t).1 = .error fault →
        ∃ method handlers t', ((g.register method relative handlers).run t').1 = .error fault := by
    intro relative handlers methods hrefused
    obtain ⟨method, t', hone⟩ := registerEach_refused hrefused
    exact ⟨method, handlers, t', hone⟩
  cases d with
  | route method relative handlers => exact Or.inr ⟨method, handlers, t, h⟩
  | named text relative handlers =>
    simp only [declare] at h
    split at h
    · exact Or.inr ⟨_, handlers, t, h⟩
    · exact Or.inl (hsaid (by simp [RouteFault.OfPlace]) h)
  | every relative handlers => exact Or.inr (heach h)
  | file label relative location =>
    simp only [declare] at h
    split at h
    · exact Or.inl (hsaid (by simp [RouteFault.OfPlace]) h)
    · exact Or.inr (heach h)
  | mount label relative m =>
    simp only [declare] at h
    split at h
    · exact Or.inl (hsaid (by simp [RouteFault.OfPlace]) h)
    · exact Or.inr (heach h)

end Group

/-! ## 3. The trails of groups -/

namespace Site

/-- The trails of the groups that are held when one more is, under a name and with a trail. -/
def holdTrail (trails : String → List String) (name : String) (trail : List String) :
    String → List String :=
  if name = rootName then trails
  else fun other => if other = name then trail else trails other

/-- The trails of the groups behind a command.  A subgroup that is made goes on from the group it is
below, and a copy has the trail of its original. -/
def trailsBehind (s : Site) (trails : String → List String) (c : Command) : String → List String :=
  match c, (s.exec c).1 with
  | .sub on relative _ name, .made _ => holdTrail trails name (trails on ++ [relative])
  | .copy on name, .done => holdTrail trails name (trails on)
  | _, _ => trails

/-- The trails of the groups behind commands. -/
def trailsBehindAll (s : Site) (trails : String → List String) :
    List Command → String → List String
  | [] => trails
  | c :: commands => (s.exec c).2.trailsBehindAll (s.trailsBehind trails c) commands

/-- Every group that is held is well placed by its trail. -/
def Placed (s : Site) (trails : String → List String) : Prop :=
  ∀ name g, s.group? name = some g → Path.WellPlaced (trails name) g.base

section

variable {s : Site} {trails : String → List String} (h : s.Placed trails)
include h

theorem Placed.hold (name : String) {trail : List String} {g : Group}
    (hg : Path.WellPlaced trail g.base) : (s.hold name g).Placed (holdTrail trails name trail) := by
  intro other g' hfound
  by_cases hroot : name = rootName
  · rw [Site.hold, if_pos hroot] at hfound
    rw [holdTrail, if_pos hroot]
    exact h other g' hfound
  · rw [holdTrail, if_neg hroot]
    by_cases hname : other = name
    · subst hname
      rw [group?_hold_self hroot, Option.some.injEq] at hfound
      rw [if_pos rfl, ← hfound]
      exact hg
    · rw [group?_hold_of_ne (Ne.symm hname)] at hfound
      rw [if_neg hname]
      exact h other g' hfound

theorem Placed.use {on : String} {g : Group} (hg : s.group? on = some g) (more : Chain) :
    (s.change on (g.use more)).Placed trails := by
  intro other g' hfound
  by_cases hname : on = other
  · subst hname
    rw [group?_change_self, Option.some.injEq] at hfound
    rw [← hfound]
    exact h on g hg
  · rw [group?_change_of_ne hname] at hfound
    exact h other g' hfound

/-- **A command keeps every group well placed**, by the trails that it leaves. -/
theorem Placed.exec (c : Command) : (s.exec c).2.Placed (s.trailsBehind trails c) := by
  have hcommit : ∀ r, (s.commit r).2.Placed trails := by
    intro r
    rw [commit_snd]
    exact h
  cases c with
  | sub on relative middleware name =>
    simp only [trailsBehind, Site.exec, withGroup]
    cases hg : s.group? on with
    | none => exact h
    | some g =>
      dsimp only
      cases hmade : g.sub s.table.limit relative middleware with
      | error fault => exact h
      | ok made =>
        obtain ⟨-, -, hbase⟩ := Group.sub_eq_ok hmade
        obtain ⟨base, hunder, hplaced⟩ := (h on g hg).under relative
        obtain rfl := Except.ok.inj (hunder.symm.trans hbase)
        exact h.hold name hplaced
  | copy on name =>
    simp only [trailsBehind, Site.exec, withGroup]
    cases hg : s.group? on with
    | none => exact h
    | some g => exact h.hold name (h on g hg)
  | use on middleware =>
    simp only [trailsBehind, Site.exec, withGroup]
    cases hg : s.group? on with
    | none => exact h
    | some g => exact h.use hg middleware
  | declare on d =>
    simp only [trailsBehind, Site.exec, withGroup]
    cases s.group? on with
    | none => exact h
    | some g => exact hcommit _
  | declareNamed on handler name d =>
    simp only [trailsBehind, Site.exec, withGroup]
    cases s.group? on with
    | none => exact h
    | some g => exact hcommit _
  | add method path chain => exact hcommit _
  | setName handler name => exact h

theorem Placed.execAll (commands : List Command) :
    (s.execAll commands).Placed (s.trailsBehindAll trails commands) := by
  induction commands generalizing s trails with
  | nil => exact h
  | cons c commands ih => exact ih (h.exec c)

end

/-- The group of the whole table is all that is held at first, and it is at the root. -/
theorem placed_empty (limit : Nat) : (empty limit).Placed fun _ => [] := by
  intro name g hg
  simp only [group?, empty, List.lookup_nil] at hg
  split at hg
  · cases hg
    exact Path.wellPlaced_root
  · cases hg

end Site

/-! ## 4. Places on a site -/

/-- The group that a command places something below, and the relative path by which it does. -/
def Command.placing? : Command → Option (String × String)
  | .sub on relative _ _ => some (on, relative)
  | .declare on d | .declareNamed on _ _ d => some (on, d.placed)
  | .copy _ _ | .use _ _ | .add _ _ _ | .setName _ _ => none

namespace Site

variable {s : Site} {trails : String → List String}

/-- The answer to registering a route through a group, and the site behind it. -/
theorem exec_route {on : String} {g : Group} (hg : s.group? on = some g) {relative p : String}
    (hpath : Path.under g.base relative = .ok p) (hrooted : Path.isRooted p = true)
    (method : Method) (handlers : Chain) :
    s.exec (.declare on (.route method relative handlers)) =
      if s.table.limit ≤ g.middleware.length + handlers.length then
        (.refused (.tooManyHandlers (g.middleware.length + handlers.length) s.table.limit), s)
      else if g.middleware = [] ∧ handlers = [] then (.refused (.noHandlers method.token p), s)
      else if ∃ r ∈ s.table.routes, r.method = method ∧ r.pattern = p then
        (.refused (.duplicate method.token p), s)
      else (.done, s.withRoute ⟨method, p, g.middleware ++ handlers⟩) := by
  rw [exec_declare hg, commit]
  have hrun : (g.declare (.route method relative handlers)).run s.table = _ :=
    Group.register_outcome hpath hrooted method handlers
  rw [hrun]
  split_ifs <;> rfl

/-- **A command that goes through a group is never refused for a place.** -/
theorem Placed.refused (h : s.Placed trails) {c : Command} (hc : c.ThroughGroups)
    {fault : RouteFault} (hrefused : (s.exec c).1 = .refused fault) : ¬ fault.OfPlace := by
  -- a declaration is refused for what it says itself, or as a route is; and a route below a group
  -- that is well placed is never refused for its place
  have hdeclare : ∀ {on g d t}, s.group? on = some g →
      ((g.declare d).run t).1 = .error fault → ¬ fault.OfPlace := by
    intro on g d t hg hrun
    obtain ⟨p, hpath, hplaced⟩ := (h on g hg).under d.placed
    rcases Group.declare_refused hrun with hsaid | ⟨method, handlers, t', hone⟩
    · exact hsaid
    · exact Group.register_refused hpath hplaced.rooted hone
  cases c with
  | sub on relative middleware name =>
    simp only [Site.exec, withGroup] at hrefused
    cases hg : s.group? on with
    | none =>
      rw [hg] at hrefused
      cases hrefused
    | some g =>
      obtain ⟨p, hpath, -⟩ := (h on g hg).under relative
      simp only [hg, Group.sub_eq hpath] at hrefused
      split_ifs at hrefused
      cases hrefused
      simp [RouteFault.OfPlace]
  | copy on name =>
    simp only [Site.exec, withGroup] at hrefused
    cases hg : s.group? on <;> rw [hg] at hrefused <;> cases hrefused
  | use on middleware =>
    simp only [Site.exec, withGroup] at hrefused
    cases hg : s.group? on <;> rw [hg] at hrefused <;> cases hrefused
  | declare on d =>
    cases hg : s.group? on with
    | none =>
      simp only [Site.exec, withGroup, hg] at hrefused
      cases hrefused
    | some g =>
      rw [exec_declare hg, commit_fst_eq_refused_iff] at hrefused
      exact hdeclare hg hrefused
  | declareNamed on handler name d =>
    cases hg : s.group? on with
    | none =>
      simp only [Site.exec, withGroup, hg] at hrefused
      cases hrefused
    | some g =>
      rw [exec_declareNamed hg, commit_fst_eq_refused_iff, Group.declareNamed_run] at hrefused
      exact hdeclare hg hrefused
  | add method path chain => exact hc.elim
  | setName handler name => cases hrefused

/-- **Routes that are added through a group are well placed**: its trail and their relative path
say where. -/
theorem Placed.added (h : s.Placed trails) {c : Command} (hc : c.ThroughGroups) {r : Route}
    (hr : r ∈ (s.exec c).2.table.routes) :
    r ∈ s.table.routes ∨ ∃ on relative, c.placing? = some (on, relative) ∧
      Path.WellPlaced (trails on ++ [relative]) r.pattern := by
  have hplaced : ∀ {on d}, ((s.group? on).bind fun g =>
      (Path.under g.base d).toOption) = some r.pattern →
        Path.WellPlaced (trails on ++ [d]) r.pattern := by
    intro on relative hpattern
    obtain ⟨g, hg, hunder⟩ := Option.bind_eq_some_iff.mp hpattern
    obtain ⟨p, hpath, hwell⟩ := (h on g hg).under relative
    rw [hpath] at hunder
    obtain rfl := Option.some.inj hunder
    exact hwell
  rcases pattern?_of_added hr with hold | hpattern
  · exact Or.inl hold
  · cases c with
    | declare on d => exact Or.inr ⟨on, d.placed, rfl, hplaced hpattern⟩
    | declareNamed on handler name d => exact Or.inr ⟨on, d.placed, rfl, hplaced hpattern⟩
    | add method path chain => exact hc.elim
    | _ => cases hpattern

/-- **All places on a site are canonical, and a route is refused for three reasons alone.**  Behind
any commands on a new site, whatever was registered and whatever was refused:

* every group that is held is well placed by its trail, and so is whatever a relative path places
  below it, which is never refused a place;
* every route that a command adds through a group is placed so, and no such command is refused for
  a path that is empty or that is not absolute;
* registering a route through a group is refused if its chain reaches the limit, else if neither the
  group nor the route has a handler, else if a route has its method and its pattern already, and
  else it is done; nothing is changed unless it is done. -/
theorem places_canonical (limit : Nat) (commands : List Command) :
    let s := (empty limit).execAll commands
    let trails := (empty limit).trailsBehindAll (fun _ => []) commands
    (∀ on g, s.group? on = some g →
      Path.WellPlaced (trails on) g.base ∧
      ∀ relative, ∃ p, Path.under g.base relative = .ok p ∧
        Path.WellPlaced (trails on ++ [relative]) p ∧
        ∀ method handlers, s.exec (.declare on (.route method relative handlers)) =
          if s.table.limit ≤ g.middleware.length + handlers.length then
            (.refused (.tooManyHandlers (g.middleware.length + handlers.length) s.table.limit), s)
          else if g.middleware = [] ∧ handlers = [] then
            (.refused (.noHandlers method.token p), s)
          else if ∃ r ∈ s.table.routes, r.method = method ∧ r.pattern = p then
            (.refused (.duplicate method.token p), s)
          else (.done, s.withRoute ⟨method, p, g.middleware ++ handlers⟩)) ∧
    ∀ c : Command, c.ThroughGroups →
      (∀ r ∈ (s.exec c).2.table.routes, r ∈ s.table.routes ∨
        ∃ on relative, c.placing? = some (on, relative) ∧
          Path.WellPlaced (trails on ++ [relative]) r.pattern) ∧
      ∀ fault, (s.exec c).1 = .refused fault →
        fault ≠ .emptyPath ∧ ∀ p, fault ≠ .notAbsolute p := by
  intro s trails
  have h : s.Placed trails := (placed_empty limit).execAll commands
  refine ⟨fun on g hg => ⟨h on g hg, fun relative => ?_⟩, fun c hc => ⟨fun r hr => ?_, ?_⟩⟩
  · obtain ⟨p, hpath, hplaced⟩ := (h on g hg).under relative
    exact ⟨p, hpath, hplaced, exec_route hg hpath hplaced.rooted⟩
  · exact h.added hc hr
  · intro fault hrefused
    have hother := h.refused hc hrefused
    exact ⟨fun heq => hother (Or.inl heq), fun p heq => hother (Or.inr ⟨p, heq⟩)⟩

/-- Groups that are placed below one another by paths that repeat slashes, climb above the root and
say nothing, one of them a copy. -/
def scattered : List Command :=
  [.sub rootName "//a/./b/" [] "inner", .sub "inner" "../../../é/" [⟨"auth", []⟩] "away",
    .copy "away" "twin", .sub "twin" "" [] "same", .declare "same" (.route Method.GET "..." [])]

/-- A folder that is mounted on the scattered groups. -/
def scatteredMount : Command := .declare "same" (.mount "folder" "../x/" ⟨"www", [], false⟩)

/-- The last group has the slash of the path before its own, and a name of three dots is one like
any other. -/
theorem places_canonical_scattered :
    let s := (empty 3).execAll scattered
    s.group? "same" = some ⟨"/é/", [⟨"auth", []⟩]⟩ ∧
      Path.WellPlaced ["//a/./b/", "../../../é/", ""] "/é/" ∧
      (s.exec (.declare "same" (.route Method.GET "./..." []))).1 =
        .refused (.duplicate "GET" "/é/...") ∧
      scatteredMount.ThroughGroups ∧
      (s.exec scatteredMount).2.table.routes.map Route.pattern =
        ["/é/...", "/x/*filepath", "/x/*filepath"] ∧
      Path.WellPlaced ["//a/./b/", "../../../é/", "", "../x/*filepath"] "/x/*filepath" := by
  intro s
  have hg : s.group? "same" = some ⟨"/é/", [⟨"auth", []⟩]⟩ := rfl
  have hthrough : scatteredMount.ThroughGroups := trivial
  obtain ⟨hgroups, hcommands⟩ := places_canonical 3 scattered
  obtain ⟨hplaced, hroutes⟩ := hgroups "same" _ hg
  obtain ⟨p, hpath, -, houtcome⟩ := hroutes "./..."
  obtain rfl : "/é/..." = p := Except.ok.inj hpath
  refine ⟨hg, hplaced, ?_, hthrough, rfl, ?_⟩
  · have htaken : ∃ r ∈ s.table.routes, r.method = Method.GET ∧ r.pattern = "/é/..." :=
      ⟨⟨Method.GET, "/é/...", [⟨"auth", []⟩]⟩, List.mem_singleton.mpr rfl, rfl, rfl⟩
    rw [houtcome, if_neg (by decide), if_neg (by simp), if_pos htaken]
    rfl
  · have hmounted : ⟨Method.GET, "/x/*filepath",
        [⟨"auth", []⟩, Handler.mount "folder" ⟨"www", [], false⟩]⟩ ∈
          (s.exec scatteredMount).2.table.routes := List.mem_cons_of_mem _ List.mem_cons_self
    rcases (hcommands _ hthrough).1 _ hmounted with hold | ⟨on, relative, hplacing, hwell⟩
    · have hpattern : "/x/*filepath" = "/é/..." :=
        congrArg Route.pattern (List.mem_singleton.mp hold)
      exact absurd hpattern (by decide)
    · obtain ⟨rfl, rfl⟩ : "same" = on ∧ "../x/*filepath" = relative :=
        Prod.mk.inj (Option.some.inj hplacing)
      exact hwell

end Site

end Gatehouse
