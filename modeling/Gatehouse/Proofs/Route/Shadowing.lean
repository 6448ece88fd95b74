/-
# Routes behind a route that takes all of their paths

A table compares the patterns of its routes as they are written when it takes one in, and by their
segments when it is asked.  The two differ in the slash behind a pattern, which is kept when a path
is placed below a group and which no look-up sees.

* `Path.IsCanonical.names_eq_iff`: **clean paths have the same names exactly if they are the same
  but for a slash behind**;
* `Site.Canonical.execAll`: all patterns that come through groups are clean;
* `Site.dead_of_mem_front`: **a route is never found behind one that takes all of its paths**,
  whatever is done later;
* `Site.segments_shared`: which routes of a table have the same segments, and what becomes of them;
* `Site.not_segments_shared`: a table can hold two of them.
-/
import Gatehouse.Proofs.Route.Standing
import Gatehouse.Proofs.Route.Swallowing

namespace Gatehouse

/-! ## 1. What patterns have the same segments -/

namespace Path

/-- One of two paths is the other with a slash behind it. -/
def SlashApart (p p' : String) : Prop := p' = p ++ "/" ∨ p = p' ++ "/"

/-- The slash makes one of the paths longer. -/
theorem SlashApart.length {p p' : String} (h : SlashApart p p') :
    p'.length = p.length + 1 ∨ p.length = p'.length + 1 := by
  rcases h with rfl | rfl
  · exact Or.inl (String.length_append p "/")
  · exact Or.inr (String.length_append p' "/")

/-- Of three paths two have the slash, or two have none. -/
theorem length_le_two {ps : List String} (h : ps.Pairwise SlashApart) : ps.length ≤ 2 := by
  match ps, h with
  | [], _ => exact Nat.zero_le 2
  | [_], _ => exact Nat.le_succ 1
  | [_, _], _ => exact Nat.le_refl 2
  | p₁ :: p₂ :: p₃ :: _, h =>
    obtain ⟨hfirst, hrest⟩ := List.pairwise_cons.mp h
    obtain ⟨hsecond, -⟩ := List.pairwise_cons.mp hrest
    have h₁₂ := (hfirst p₂ (by simp)).length
    have h₁₃ := (hfirst p₃ (by simp)).length
    have h₂₃ := (hsecond p₃ (by simp)).length
    omega

theorem SlashApart.names_eq {p p' : String} (h : SlashApart p p') : names p = names p' := by
  rcases h with rfl | rfl
  · exact (names_append_slash p).symm
  · exact names_append_slash p'

/-- A slash behind is written where it is asked for, except behind the root. -/
theorem absolute_slash (stack : List String) (slash slash' : Bool) :
    absolute stack slash = absolute stack slash' ∨
      SlashApart (absolute stack slash) (absolute stack slash') := by
  have hwritten : absolute stack true = absolute stack false ∨
      absolute stack true = absolute stack false ++ "/" := by
    by_cases hnone : stack = []
    · left
      rw [hnone]
      rfl
    · right
      simp [absolute, hnone]
  cases slash with
  | false =>
    cases slash' with
    | false => exact Or.inl rfl
    | true => exact hwritten.imp Eq.symm Or.inl
  | true =>
    cases slash' with
    | false => exact hwritten.imp id Or.inr
    | true => exact Or.inl rfl

/-- **Clean paths have the same names exactly if they are the same but for a slash behind.** -/
theorem IsCanonical.names_eq_iff {p p' : String} (hp : IsCanonical p) (hp' : IsCanonical p') :
    names p = names p' ↔ p = p' ∨ SlashApart p p' := by
  constructor
  · intro hnames
    obtain ⟨slash, hp⟩ := hp
    obtain ⟨slash', hp'⟩ := hp'
    have hstack : resolve [] p = resolve [] p' := by
      rw [hp, hp', names_absolute (resolve_nil_isProper p),
        names_absolute (resolve_nil_isProper p')] at hnames
      exact List.reverse_inj.mp hnames
    rw [hp, hp', ← hstack]
    exact absolute_slash _ slash slash'
  · rintro (rfl | hslash)
    · rfl
    · exact hslash.names_eq

end Path

namespace Segment

def written : Segment → String
  | .literal name => name
  | .one key => String.ofList (':' :: key.toList)
  | .rest key => String.ofList ('*' :: key.toList)

theorem written_ofName (name : String) : (ofName name).written = name := by
  unfold ofName
  split
  · rename_i key hname
    rw [written, String.toList_ofList, ← hname, String.ofList_toList]
  · rename_i key hname
    rw [written, String.toList_ofList, ← hname, String.ofList_toList]
  · rfl

/-- What the segments of a pattern are written as are its names. -/
theorem map_written_ofPattern (pattern : String) :
    (ofPattern pattern).map written = Path.names pattern := by
  rw [ofPattern, List.map_map]
  exact List.map_id'' written_ofName _

/-- No two names are read as one segment. -/
theorem ofPattern_eq_iff (p p' : String) :
    ofPattern p = ofPattern p' ↔ Path.names p = Path.names p' := by
  constructor
  · intro h
    rw [← map_written_ofPattern, h, map_written_ofPattern]
  · intro h
    rw [ofPattern, h, ofPattern]

end Segment

/-! ## 2. Routes that are never found -/

namespace Table

variable {t : Table} {front behind : List Route} {r r' : Route}

theorem fit?_congr_segments (h : r.segments = r'.segments) (path : String) :
    fit? r path = fit? r' path :=
  congrArg (Segment.fit? · (Path.names path)) h

/-- Routes whose catch-alls come last take the same paths with the same parameters exactly if they
have the same segments. -/
theorem forall_fit?_eq_iff (hlast : Segment.RestLast r.segments)
    (hlast' : Segment.RestLast r'.segments) :
    (∀ path, fit? r path = fit? r' path) ↔ r.segments = r'.segments := by
  constructor
  · intro hfits
    have halike : Segment.Alike r.segments r'.segments := Segment.alike_iff_forall_path.mpr hfits
    have hplain : Segment.Plain r.segments := Segment.plain_ofPattern r.pattern
    have hplain' : Segment.Plain r'.segments := Segment.plain_ofPattern r'.pattern
    have hsegments := halike.upToRest_eq hplain hplain'
    rwa [(Segment.upToRest_eq_self_iff _).mpr hlast,
      (Segment.upToRest_eq_self_iff _).mpr hlast'] at hsegments
  · exact fit?_congr_segments

/-- A route that stands behind another one of its method and pattern is not that one. -/
theorem Distinct.ne_of_front (h : t.Distinct) (hroutes : t.routes = front ++ r' :: behind)
    (hr : r ∈ front) (hmethod : r.method = r'.method) : r.pattern ≠ r'.pattern := by
  rw [Distinct, hroutes] at h
  obtain ⟨-, -, hapart⟩ := List.pairwise_append.mp h
  exact fun hpattern => hapart r hr r' List.mem_cons_self ⟨hmethod, hpattern⟩

/-- The route that a look-up finds is told by its pattern. -/
theorem Distinct.fit?_of_lookup (h : t.Distinct) (hr : r ∈ t.routes) {path : String}
    {found : RouteMatch} (hfound : t.lookup r.method path = some found)
    (hpattern : found.pattern = r.pattern) : fit? r path = some found.params := by
  obtain ⟨q, hq, hmethod, params, hfit, rfl⟩ := exists_route_of_lookup_eq hfound
  have hsame : q.pattern = r.pattern := hpattern
  have hown := h.registered?_of_mem hq
  rw [hmethod, hsame, h.registered?_of_mem hr] at hown
  obtain rfl := Option.some.inj hown
  exact hfit

/-- A path that fits a route of the method is answered by one that does not stand behind it. -/
theorem exists_front_of_fit? (hroutes : t.routes = front ++ behind) (hr : r ∈ front)
    {path : String} {params : Params} (hfit : fit? r path = some params) :
    ∃ q ∈ front, q.method = r.method ∧ ∃ found, t.lookup r.method path = some found ∧
      found.pattern = q.pattern := by
  have hsplit : t.lookup r.method path =
      (({ t with routes := front } : Table).lookup r.method path).or
        (({ t with routes := behind } : Table).lookup r.method path) :=
    lookup_of_routes hroutes r.method path
  cases hfront : ({ t with routes := front } : Table).lookup r.method path with
  | none =>
    have hmem : r ∈ front.filter (·.method = r.method) := List.mem_filter.mpr ⟨hr, by simp⟩
    have hpassed := List.findSome?_eq_none_iff.mp hfront r hmem
    rw [hfit] at hpassed
    cases hpassed
  | some found =>
    rw [hfront, Option.some_or] at hsplit
    obtain ⟨q, hq, hmethod, params', -, rfl⟩ := exists_route_of_lookup_eq hfront
    exact ⟨q, hq, hmethod, _, hsplit, rfl⟩

/-- **A route is not found behind one that takes all of its paths.** -/
theorem Distinct.pattern_ne_of_front (h : t.Distinct) (hroutes : t.routes = front ++ r' :: behind)
    (hr : r ∈ front) (hmethod : r.method = r'.method)
    (hfits : ∀ path, fit? r path = none → fit? r' path = none) {path : String} {found : RouteMatch}
    (hfound : t.lookup r'.method path = some found) : found.pattern ≠ r'.pattern := by
  intro hpattern
  have hr' : r' ∈ t.routes := by rw [hroutes]; exact List.mem_append_cons_self
  have hfit' := h.fit?_of_lookup hr' hfound hpattern
  cases hfit : fit? r path with
  | none =>
    rw [hfits path hfit] at hfit'
    cases hfit'
  | some params =>
    obtain ⟨q, hq, hqm, found', hanswer, hsame⟩ := exists_front_of_fit? hroutes hr hfit
    rw [hmethod] at hanswer hqm
    obtain rfl : found = found' := Option.some.inj (hfound.symm.trans hanswer)
    exact h.ne_of_front hroutes hq hqm (hsame.symm.trans hpattern)

end Table

namespace Site

variable {s : Site} {front behind : List Route} {r r' : Route}

/-- Whatever is done to a site, no look-up finds the pattern of a route for its method. -/
def Dead (s : Site) (r : Route) : Prop :=
  ∀ commands path found, (s.execAll commands).table.lookup r.method path = some found →
    found.pattern ≠ r.pattern

/-- **A route is never found behind one that takes all of its paths**, whatever is done later. -/
theorem dead_of_mem_front (h : s.table.Distinct) (hroutes : s.table.routes = front ++ r' :: behind)
    (hr : r ∈ front) (hmethod : r.method = r'.method)
    (hfits : ∀ path, Table.fit? r path = none → Table.fit? r' path = none) : s.Dead r' := by
  intro commands path found hfound
  obtain ⟨added, hadded⟩ := (grown_execAll commands s).routes
  have hlater : (s.execAll commands).table.routes = front ++ r' :: (behind ++ added) := by
    rw [← hadded, hroutes, List.append_assoc, List.cons_append]
  exact (distinct_execAll h commands).pattern_ne_of_front hlater hr hmethod hfits hfound

/-! ## 3. Sites whose routes come through groups -/

/-- The patterns of all routes are clean, with or without a slash behind them. -/
def Canonical (s : Site) : Prop := ∀ r ∈ s.table.routes, Path.IsCanonical r.pattern

/-- **What is placed below a group is clean.** -/
theorem Canonical.exec {limit : Nat} (h : s.Canonical) (hreachable : s.Reachable limit)
    {c : Command} (hc : c.ThroughGroups) : (s.exec c).2.Canonical := by
  intro r hr
  have hplaced : ∀ {on : String} {d : Declaration},
      ((s.group? on).bind fun g => (Path.under g.base d.placed).toOption) = some r.pattern →
        Path.IsCanonical r.pattern := by
    intro on d hplace
    obtain ⟨g, hg, hunder⟩ := Option.bind_eq_some_iff.mp hplace
    cases hpath : Path.under g.base d.placed with
    | error fault =>
      rw [hpath] at hunder
      cases hunder
    | ok pattern =>
      rw [hpath] at hunder
      obtain rfl : pattern = r.pattern := Option.some.inj hunder
      exact (hreachable.isCanonical_base hg).under (hreachable.isRooted_base hg) hpath
  rcases pattern?_of_added hr with hold | hnew
  · exact h r hold
  · cases c with
    | declare on d => exact hplaced hnew
    | declareNamed on handler name d => exact hplaced hnew
    | add method path chain => exact hc.elim
    | sub on relative middleware name => cases hnew
    | copy on name => cases hnew
    | use on middleware => cases hnew
    | setName handler name => cases hnew

/-- **All patterns that come through groups are clean.** -/
theorem Canonical.execAll {limit : Nat} {commands : List Command} (h : s.Canonical)
    (hreachable : s.Reachable limit) (hcommands : ∀ c ∈ commands, c.ThroughGroups) :
    (s.execAll commands).Canonical := by
  induction commands generalizing s with
  | nil => exact h
  | cons c commands ih =>
    have hc := hcommands c List.mem_cons_self
    exact ih (h.exec hreachable hc) (hreachable.exec c) fun c' hc' =>
      hcommands c' (List.mem_cons_of_mem _ hc')

/-- Clean patterns have the same segments exactly if they are the same but for a slash behind. -/
theorem Canonical.segments_eq_iff (h : s.Canonical) (hr : r ∈ s.table.routes)
    (hr' : r' ∈ s.table.routes) :
    r.segments = r'.segments ↔ r.pattern = r'.pattern ∨ Path.SlashApart r.pattern r'.pattern := by
  rw [Route.segments, Route.segments, Segment.ofPattern_eq_iff]
  exact (h r hr).names_eq_iff (h r' hr')

/-- **At most two routes of one method have the same segments.** -/
theorem Canonical.length_le_two (h : s.Canonical) (hdistinct : s.table.Distinct) (method : Method)
    (segs : List Segment) :
    (s.table.routes.filter fun r => r.method = method ∧ r.segments = segs).length ≤ 2 := by
  have hpairwise := List.Pairwise.filter (fun r => r.method = method ∧ r.segments = segs) hdistinct
  have hapart : ((s.table.routes.filter fun r =>
      r.method = method ∧ r.segments = segs).map Route.pattern).Pairwise Path.SlashApart := by
    refine List.pairwise_map.mpr (hpairwise.imp_of_mem ?_)
    intro q q' hq hq' hne
    obtain ⟨hq, hsame⟩ := List.mem_filter.mp hq
    obtain ⟨hq', hsame'⟩ := List.mem_filter.mp hq'
    obtain ⟨hmethod, hsegments⟩ := of_decide_eq_true hsame
    obtain ⟨hmethod', hsegments'⟩ := of_decide_eq_true hsame'
    rcases (h.segments_eq_iff hq hq').mp (hsegments.trans hsegments'.symm) with hpattern | hslash
    · exact absurd ⟨hmethod.trans hmethod'.symm, hpattern⟩ hne
    · exact hslash
  have hlength := Path.length_le_two hapart
  rwa [List.length_map] at hlength

/-- **When a route is taken in through a group**: its chain stays below the limit and is not empty,
and no route has its method and its pattern, as they are written. -/
theorem exec_route_done_iff {on : String} {g : Group} (hg : s.group? on = some g)
    {relative pattern : String} (hpath : Path.under g.base relative = .ok pattern)
    (hrooted : Path.isRooted pattern = true) (method : Method) (handlers : Chain) :
    (s.exec (.declare on (.route method relative handlers))).1 = .done ↔
      (g.middleware ++ handlers).length < s.table.limit ∧ g.middleware ++ handlers ≠ [] ∧
        s.table.registered? method pattern = none := by
  have hexec : s.exec (.declare on (.route method relative handlers)) =
      s.commit (g.register method relative handlers) := exec_declare hg _
  rw [hexec]
  exact (commit_register hpath hrooted method handlers).1

/-- **Which routes have the same segments.**  Whatever is done to a new table through its groups:

* no two routes have one method and one pattern, and a route with a handler and a short enough chain
  is refused for nothing else;
* two routes have the same segments exactly if their patterns are the same but for a slash behind,
  so that at most two of one method do, one with the slash and one without;
* then the same paths fit both with the same parameters, and of two routes of one method of which
  this can be said the later is never found, whatever is done to the table from there on;
* and it can be said of no others, as long as their catch-alls come last. -/
theorem segments_shared {commands : List Command} (hcommands : ∀ c ∈ commands, c.ThroughGroups)
    (limit : Nat) :
    let s := (empty limit).execAll commands
    s.table.Distinct ∧
      (∀ on g, s.group? on = some g → ∀ method relative handlers, ∃ pattern,
        Path.under g.base relative = .ok pattern ∧
        ((s.exec (.declare on (.route method relative handlers))).1 = .done ↔
          (g.middleware ++ handlers).length < s.table.limit ∧ g.middleware ++ handlers ≠ [] ∧
            s.table.registered? method pattern = none)) ∧
      (∀ r ∈ s.table.routes, ∀ r' ∈ s.table.routes,
        (r.segments = r'.segments ↔
          r.pattern = r'.pattern ∨ Path.SlashApart r.pattern r'.pattern) ∧
        (r.segments = r'.segments → ∀ path, Table.fit? r path = Table.fit? r' path)) ∧
      (∀ method segs,
        (s.table.routes.filter fun r => r.method = method ∧ r.segments = segs).length ≤ 2) ∧
      ∀ front r' behind, s.table.routes = front ++ r' :: behind →
        ∀ r ∈ front, r.method = r'.method →
          ((∀ path, Table.fit? r path = Table.fit? r' path) → s.Dead r') ∧
          (Segment.RestLast r.segments → Segment.RestLast r'.segments →
            ((∀ path, Table.fit? r path = Table.fit? r' path) ↔
              Path.SlashApart r.pattern r'.pattern)) := by
  intro s
  have hreachable : s.Reachable limit := ⟨commands, rfl⟩
  have hdistinct : s.table.Distinct := hreachable.distinct
  -- only a slash behind it is left open by the clean form in which a path is registered
  have hcanonical : s.Canonical := by
    have hempty : (empty limit).Canonical := by
      intro r hr
      cases hr
    exact hempty.execAll ⟨[], rfl⟩ hcommands
  refine ⟨hdistinct, ?_, fun r hr r' hr' =>
    ⟨hcanonical.segments_eq_iff hr hr', Table.fit?_congr_segments⟩,
    hcanonical.length_le_two hdistinct, ?_⟩
  · intro on g hg method relative handlers
    obtain ⟨pattern, hpath, hrooted⟩ := Path.exists_under (hreachable.isRooted_base hg) relative
    exact ⟨pattern, hpath, exec_route_done_iff hg hpath hrooted method handlers⟩
  · intro front r' behind hroutes r hr hmethod
    have hr' : r' ∈ s.table.routes := by rw [hroutes]; exact List.mem_append_cons_self
    have hrt : r ∈ s.table.routes := by rw [hroutes]; exact List.mem_append_left _ hr
    constructor
    · intro hsame
      refine dead_of_mem_front hdistinct hroutes hr hmethod ?_
      intro path hnone
      rw [← hsame path, hnone]
    · intro hlast hlast'
      have hne : r.pattern ≠ r'.pattern := hdistinct.ne_of_front hroutes hr hmethod
      rw [Table.forall_fit?_eq_iff hlast hlast', hcanonical.segments_eq_iff hrt hr',
        or_iff_right hne]

/-- A route, and the same one with a slash behind it. -/
def slashed : List Command :=
  [.declare "root" (.route Method.GET "/users" [plain]),
    .declare "root" (.route Method.GET "/users/" [plain])]

theorem throughGroups_slashed : ∀ c ∈ slashed, c.ThroughGroups := by
  intro c hc
  rcases List.mem_cons.mp hc with rfl | hc
  · trivial
  · rcases List.mem_cons.mp hc with rfl | hc
    · trivial
    · cases hc

theorem routes_slashed : ((empty 63).execAll slashed).table.routes =
    [⟨Method.GET, "/users", [plain]⟩] ++ ⟨Method.GET, "/users/", [plain]⟩ :: [] := rfl

/-- Both routes are taken in, and the second is never found. -/
theorem segments_shared_slashed :
    (∀ c ∈ slashed, c.ThroughGroups) ∧
      ((empty 63).execAll slashed).table.routes.map Route.pattern = ["/users", "/users/"] ∧
      ((empty 63).execAll slashed).Dead ⟨Method.GET, "/users/", [plain]⟩ := by
  obtain ⟨-, -, hsegments, -, hdead⟩ := segments_shared throughGroups_slashed 63
  refine ⟨throughGroups_slashed, rfl, ?_⟩
  have hfirst : ⟨Method.GET, "/users", [plain]⟩ ∈ ((empty 63).execAll slashed).table.routes :=
    List.mem_cons_self
  have hsecond : ⟨Method.GET, "/users/", [plain]⟩ ∈ ((empty 63).execAll slashed).table.routes :=
    List.mem_cons_of_mem _ List.mem_cons_self
  obtain ⟨hiff, hfits⟩ := hsegments _ hfirst _ hsecond
  have hsame := hfits (hiff.mpr (Or.inr (Or.inl rfl)))
  exact (hdead _ _ _ routes_slashed _ List.mem_cons_self rfl).1 hsame

/-- **A table can hold two routes of one method with the same segments**, and then the later takes
nothing that the earlier has not taken. -/
theorem not_segments_shared :
    (¬ ∀ (limit : Nat) (commands : List Command), (∀ c ∈ commands, c.ThroughGroups) →
      ((empty limit).execAll commands).table.routes.Pairwise fun r r' =>
        ¬ (r.method = r'.method ∧ r.segments = r'.segments)) ∧
      ¬ ∀ (limit : Nat) (commands : List Command), (∀ c ∈ commands, c.ThroughGroups) →
        ((empty limit).execAll commands).table.routes.Pairwise fun r r' =>
          r.method = r'.method → (∀ path, Table.fit? r path = Table.fit? r' path) →
            ¬ ((empty limit).execAll commands).Dead r' := by
  have hsegments : Segment.ofPattern "/users" = Segment.ofPattern "/users/" := by decide
  constructor
  · intro hclaim
    have hpairwise := hclaim 63 slashed throughGroups_slashed
    rw [routes_slashed] at hpairwise
    obtain ⟨hfirst, -⟩ := List.pairwise_cons.mp hpairwise
    exact hfirst _ List.mem_cons_self ⟨rfl, hsegments⟩
  · intro hclaim
    have hpairwise := hclaim 63 slashed throughGroups_slashed
    rw [routes_slashed] at hpairwise
    obtain ⟨hfirst, -⟩ := List.pairwise_cons.mp hpairwise
    have hfits : ∀ path, Table.fit? ⟨Method.GET, "/users", [plain]⟩ path =
        Table.fit? ⟨Method.GET, "/users/", [plain]⟩ path := Table.fit?_congr_segments hsegments
    refine hfirst _ List.mem_cons_self rfl hfits ?_
    have hreachable : ((empty 63).execAll slashed).Reachable 63 := ⟨slashed, rfl⟩
    refine dead_of_mem_front hreachable.distinct routes_slashed List.mem_cons_self rfl ?_
    intro path hnone
    rw [← hfits path, hnone]

end Site
end Gatehouse
