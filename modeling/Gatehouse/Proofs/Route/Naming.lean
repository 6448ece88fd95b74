/-
# Names are for listings alone

No registration looks at the names of handlers, so that whatever is done to a site comes out the
same when other names are in its table.  A history may therefore leave names out, give others or
give more of them: every command ends as before, and nobody who looks at groups, routes, look-ups
or replies can tell.  A listing can, and it says of each route the name that its last handler was
given last, also by a command that was refused.

* `Group.blind_declare`: **no registration looks at names**;
* `Site.exec_renamed`, `Site.exec_plain`: a command on a site with other names, and a command that
  gives one;
* `Site.course_plain`: **a history ends as it does without its names**, command by command;
* `Site.names_execAll`: what a history leaves in the table of names;
* `Site.naming_apart`: both together: what names do not change, and what a listing shows.
-/
import Gatehouse.Proofs.Route.Excess
import Gatehouse.Proofs.Route.Refusing
import Gatehouse.Route.Dispatch
import Mathlib.Data.List.Forall2

namespace Gatehouse

/-! ## 1. Registrations do not look at names -/

/-- A table with other names. -/
def Table.renamed (t : Table) (names : HandlerNames) : Table := { t with names }

namespace Registration

/-- A registration that does not look at names and leaves them as they are. -/
def Blind (r : Registration Unit) : Prop :=
  ∀ (t : Table) (names : HandlerNames),
    r.run (t.renamed names) = ((r.run t).1, (r.run t).2.renamed names)

theorem Blind.then {r r' : Registration Unit} (h : Blind r) (h' : Blind r') :
    Blind (do r; r') := by
  intro t names
  rw [run_bind, run_bind, h t names]
  obtain ⟨_ | _, t'⟩ := r.run t
  · rfl
  · exact h' t' names

theorem composes_blind : Composes Blind where
  done _ _ := rfl
  refusal _ _ _ := rfl
  next := Blind.then

theorem blind_add (method : Method) (path : String) (chain : Chain) :
    Blind (Table.add method path chain) := by
  intro t names
  have hrefusal : (t.renamed names).refusal? method path chain = t.refusal? method path chain := rfl
  rw [Table.add_run, Table.add_run, hrefusal]
  cases t.refusal? method path chain <;> rfl

end Registration

namespace Group

theorem blind_register (g : Group) (method : Method) (relative : String) (handlers : Chain) :
    Registration.Blind (g.register method relative handlers) := by
  intro t names
  have hlimit : (t.renamed names).limit = t.limit := rfl
  rw [register_run, register_run, hlimit]
  cases Path.under g.base relative with
  | error fault => rfl
  | ok path =>
    dsimp only
    cases Chain.combine g.middleware handlers t.limit with
    | error fault => rfl
    | ok chain => exact Registration.blind_add method path chain t names

/-- **No declaration looks at names**, nor does it change them. -/
theorem blind_declare (g : Group) (d : Declaration) : Registration.Blind (g.declare d) :=
  g.declare_of_register Registration.composes_blind (blind_register g) d

end Group

/-! ## 2. Commands without their names -/

/-- What a command does but for the name that it gives, if it does anything else. -/
def Command.plain? : Command → Option Command
  | .declareNamed on _ _ d => some (.declare on d)
  | .setName _ _ => none
  | c => some c

/-- A history without the names that it gives.  Two histories are the same without their names if
one is made from the other by leaving names out, by giving other names or by giving more. -/
def Command.plain (commands : List Command) : List Command := commands.filterMap Command.plain?

theorem Command.plain?_plain {c c' : Command} (h : c.plain? = some c') : c'.plain? = some c' := by
  cases c with
  | setName handler name => cases h
  | _ =>
    cases h
    rfl

namespace Site

/-- A site with other names. -/
def renamed (s : Site) (names : HandlerNames) : Site := { s with table := s.table.renamed names }

variable {s s' : Site} {c c' : Command} {names : HandlerNames}

/-- The handler and the name that a command gives it.  A command on a group that is not held gives
none. -/
def naming? (s : Site) : Command → Option (Handler × String)
  | .declareNamed on h name _ => (s.group? on).map fun _ => (h, name)
  | .setName h name => some (h, name)
  | _ => none

/-- The names that a command leaves. -/
def namesAfter (s : Site) (c : Command) : HandlerNames :=
  match s.naming? c with
  | some (h, name) => s.table.names.set h name
  | none => s.table.names

theorem hold_renamed (s : Site) (names : HandlerNames) (name : String) (g : Group) :
    (s.renamed names).hold name g = (s.hold name g).renamed names := by
  unfold hold
  split <;> rfl

theorem change_renamed (s : Site) (names : HandlerNames) (name : String) (g : Group) :
    (s.renamed names).change name g = (s.change name g).renamed names := by
  unfold change
  split
  · rfl
  · exact hold_renamed s names name g

theorem commit_renamed {r : Registration Unit} (h : r.Blind) :
    (s.renamed names).commit r = ((s.commit r).1, (s.commit r).2.renamed names) := by
  have hrun : r.run (s.renamed names).table =
      ((r.run s.table).1, (r.run s.table).2.renamed names) := h s.table names
  rw [commit, commit, hrun]
  obtain ⟨_ | _, t⟩ := r.run s.table <;> rfl

theorem withGroup_renamed {on : String} {f f' : Group → Verdict × Site}
    (h : ∀ g, f' g = ((f g).1, (f g).2.renamed names)) :
    (s.renamed names).withGroup on f' =
      ((s.withGroup on f).1, (s.withGroup on f).2.renamed names) := by
  have hg : (s.renamed names).group? on = s.group? on := rfl
  unfold withGroup
  rw [hg]
  cases s.group? on with
  | none => rfl
  | some g => exact h g

/-- **A command comes out the same under other names**, and leaves them as they are, unless it gives
one itself. -/
theorem exec_renamed (h : c.plain? = some c) (s : Site) (names : HandlerNames) :
    (s.renamed names).exec c = ((s.exec c).1, (s.exec c).2.renamed names) := by
  cases c with
  | sub on relative middleware name =>
    refine withGroup_renamed fun g => ?_
    have hlimit : (s.renamed names).table.limit = s.table.limit := rfl
    rw [hlimit]
    cases g.sub s.table.limit relative middleware with
    | ok made => exact congrArg (Prod.mk _) (hold_renamed s names name made)
    | error fault => rfl
  | copy on name =>
    exact withGroup_renamed fun g => congrArg (Prod.mk _) (hold_renamed s names name g)
  | use on middleware =>
    exact withGroup_renamed fun g => congrArg (Prod.mk _) (change_renamed s names on _)
  | declare on d => exact withGroup_renamed fun g => commit_renamed (g.blind_declare d)
  | declareNamed on handler name d => cases h
  | add method path chain => exact commit_renamed (Registration.blind_add method path chain)
  | setName handler name => cases h

/-- A command that gives a name does what it does without, and leaves the name. -/
theorem exec_plain (h : c.plain? = some c') :
    s.exec c = ((s.exec c').1, (s.exec c').2.renamed (s.namesAfter c)) := by
  cases c with
  | declareNamed on handler name d =>
    cases h
    cases hg : s.group? on with
    | none => simp only [exec, withGroup, hg, namesAfter, naming?]; rfl
    | some g =>
      have hrun : (g.declareNamed handler name d).run s.table =
          (g.declare d).run (s.table.renamed (s.table.names.set handler name)) :=
        g.declareNamed_run handler name d s.table
      have hnamed : s.commit (g.declareNamed handler name d) =
          (s.renamed (s.table.names.set handler name)).commit (g.declare d) := by
        rw [commit, hrun]
        rfl
      rw [exec_declareNamed hg, exec_declare hg, hnamed, commit_renamed (g.blind_declare d)]
      simp only [namesAfter, naming?, hg, Option.map_some]
  | setName handler name => cases h
  | _ =>
    cases h
    exact exec_renamed rfl s s.table.names

/-- A command that does nothing else gives a name. -/
theorem exec_naming (h : c.plain? = none) : (s.exec c).2 = s.renamed (s.namesAfter c) := by
  cases c with
  | setName handler name => rfl
  | _ => cases h

/-! ## 3. Histories -/

/-- How each command of a history ends, and the site it leads to; commands that do nothing but give
a name are left out. -/
def course (s : Site) : List Command → List (Verdict × Site)
  | [] => []
  | c :: commands =>
    match c.plain? with
    | some _ => s.exec c :: (s.exec c).2.course commands
    | none => (s.exec c).2.course commands

theorem course_of_plain (h : c.plain? = some c') (commands : List Command) :
    s.course (c :: commands) = s.exec c :: (s.exec c).2.course commands := by
  rw [course, h]

theorem course_of_naming (h : c.plain? = none) (commands : List Command) :
    s.course (c :: commands) = (s.exec c).2.course commands := by
  rw [course, h]

/-- What is left of an entry of a course when nothing has a name. -/
def unnamed (entry : Verdict × Site) : Verdict × Site := (entry.1, entry.2.renamed [])

/-- **A history ends, command by command, as it does without its names**, whatever names there are
at its start. -/
theorem course_plain (s : Site) (names : HandlerNames) (commands : List Command) :
    ((s.renamed names).course (Command.plain commands)).map unnamed =
      (s.course commands).map unnamed := by
  induction commands generalizing s names with
  | nil => rfl
  | cons c commands ih =>
    cases hc : c.plain? with
    | none =>
      have hplain : Command.plain (c :: commands) = Command.plain commands :=
        List.filterMap_cons_none hc
      rw [hplain, course_of_naming hc, exec_naming hc, ← ih _ names]
      rfl
    | some c' =>
      have hplain : Command.plain (c :: commands) = c' :: Command.plain commands :=
        List.filterMap_cons_some hc
      have hc' := Command.plain?_plain hc
      rw [hplain, course_of_plain hc', course_of_plain hc, List.map_cons, List.map_cons,
        exec_renamed hc', exec_plain hc, ← ih _ names]
      rfl

/-- **A history leads to the same site as without its names**, but for the names themselves. -/
theorem execAll_plain (s : Site) (names : HandlerNames) (commands : List Command) :
    (s.renamed names).execAll (Command.plain commands) = (s.execAll commands).renamed names := by
  induction commands generalizing s names with
  | nil => rfl
  | cons c commands ih =>
    have hexec : s.execAll (c :: commands) = (s.exec c).2.execAll commands := rfl
    cases hc : c.plain? with
    | none =>
      have hplain : Command.plain (c :: commands) = Command.plain commands :=
        List.filterMap_cons_none hc
      rw [hplain, hexec, exec_naming hc, ← ih _ names]
      rfl
    | some c' =>
      have hplain : Command.plain (c :: commands) = c' :: Command.plain commands :=
        List.filterMap_cons_some hc
      have hexec' : (s.renamed names).execAll (c' :: Command.plain commands) =
          ((s.renamed names).exec c').2.execAll (Command.plain commands) := rfl
      rw [hplain, hexec', hexec, exec_renamed (Command.plain?_plain hc), exec_plain hc,
        ← ih _ names]
      rfl

/-- Two sites that nobody can tell apart without a listing: all groups are the same, with their
bases and their middleware, all routes are, with their methods, patterns and chains, and so are all
answers of look-ups and all replies to requests. -/
structure SameRouting (s s' : Site) : Prop where
  groups : ∀ name, s'.group? name = s.group? name
  routes : s'.table.routes = s.table.routes
  limit : s'.table.limit = s.table.limit
  registered : ∀ method pattern,
    s'.table.registered? method pattern = s.table.registered? method pattern
  lookup : ∀ method path, s'.table.lookup method path = s.table.lookup method path
  dispatch : ∀ disk id request, s'.table.dispatch disk id request = s.table.dispatch disk id request

/-- Sites that are the same without their names are so. -/
theorem sameRouting_of_renamed (h : s.renamed [] = s'.renamed []) : s.SameRouting s' := by
  have hof : ∀ {α : Type} (f : Site → α), (∀ s, f (s.renamed []) = f s) → f s' = f s := by
    intro α f hf
    rw [← hf s', ← h, hf s]
  exact {
    groups := fun name => hof (·.group? name) fun _ => rfl
    routes := hof (·.table.routes) fun _ => rfl
    limit := hof (·.table.limit) fun _ => rfl
    registered := fun method pattern => hof (·.table.registered? method pattern) fun _ => rfl
    lookup := fun method path => hof (·.table.lookup method path) fun _ => rfl
    dispatch := fun disk id request => hof (·.table.dispatch disk id request) fun _ => rfl }

/-! ## 4. What is named in the end -/

/-- The names that a history gives, in the order in which it does. -/
def namings (s : Site) : List Command → List (Handler × String)
  | [] => []
  | c :: commands => (s.naming? c).toList ++ (s.exec c).2.namings commands

theorem names_exec (s : Site) (c : Command) : (s.exec c).2.table.names = s.namesAfter c := by
  cases hc : c.plain? with
  | none => rw [exec_naming hc]; rfl
  | some c' => rw [exec_plain hc]; rfl

/-- **A history leaves the names that it gives**, each in place of those that its handler had. -/
theorem names_execAll (s : Site) (commands : List Command) :
    (s.execAll commands).table.names =
      (s.namings commands).foldl (fun names p => names.set p.1 p.2) s.table.names := by
  induction commands generalizing s with
  | nil => rfl
  | cons c commands ih =>
    have hexec : s.execAll (c :: commands) = (s.exec c).2.execAll commands := rfl
    rw [hexec, ih, names_exec, namings, List.foldl_append, namesAfter]
    cases s.naming? c <;> rfl

end Site

namespace HandlerNames

/-- The name that a handler was given last, of names in the order in which they were given. -/
def last? (given : List (Handler × String)) (e : Handler) : Option String :=
  (given.reverse.find? fun p => p.1.Same e).map Prod.snd

/-- **The name given last is the one that is found**, or else the one that was there before. -/
theorem get?_foldl_set (given : List (Handler × String)) (names : HandlerNames) (e : Handler) :
    HandlerNames.get? (given.foldl (fun names p => names.set p.1 p.2) names) e =
      (last? given e).or (names.get? e) := by
  induction given generalizing names with
  | nil => rfl
  | cons p given ih =>
    rw [List.foldl_cons, ih, last?, last?, List.reverse_cons, List.find?_append]
    cases given.reverse.find? fun p => p.1.Same e with
    | some q => rfl
    | none =>
      by_cases hsame : p.1.Same e
      · simp [hsame, get?_set_same names p.2 hsame]
      · simp [hsame, get?_set_other names p.2 hsame]

end HandlerNames

namespace Site

/-- Every route has a handler. -/
def Filled (s : Site) : Prop := s.EveryRoute fun _ r => r.chain ≠ []

theorem Filled.exec {s : Site} (h : s.Filled) (c : Command) : (s.exec c).2.Filled := by
  refine EveryRoute.exec_or_add (fun _ _ _ _ hfilled => hfilled) h ?_
  rintro method path chain rfl hdone
  exact ((exec_add_done_iff s method path chain).mp hdone).2.1

theorem Filled.execAll {s : Site} (h : s.Filled) (commands : List Command) :
    (s.execAll commands).Filled := by
  induction commands generalizing s with
  | nil => exact h
  | cons c commands ih => exact ih (h.exec c)

/-- One line of a listing tells of a route: its method, its pattern, how long its chain is, and the
name that its last handler was given last, or that it was given none. -/
structure Tells (given : List (Handler × String)) (r : Route) (line : RouteListing) : Prop where
  method : line.method = r.method
  pattern : line.pattern = r.pattern
  length : line.length = r.chain.length
  handler : ∃ e, r.chain.getLast? = some e ∧
    line.handler = (HandlerNames.last? given e).getD "<anonymous>"

/-- **A listing tells of every route**, in the order in which they were registered. -/
theorem listing_tells {s : Site} (hfilled : s.Filled) (hnames : s.table.names = [])
    (commands : List Command) :
    List.Forall₂ (Tells (s.namings commands)) (s.execAll commands).table.routes
      (s.execAll commands).table.listing := by
  rw [Table.listing_eq, List.forall₂_map_right_iff, List.forall₂_same]
  intro r hr
  refine ⟨rfl, rfl, rfl, r.chain.getLast ((hfilled.execAll commands) r hr),
    List.getLast?_eq_some_getLast _, ?_⟩
  have hget : HandlerNames.get? (s.execAll commands).table.names =
      HandlerNames.last? (s.namings commands) := by
    funext e
    rw [names_execAll, HandlerNames.get?_foldl_set, hnames]
    exact Option.or_none
  simp only [Table.shown, List.getLast?_eq_some_getLast ((hfilled.execAll commands) r hr),
    Option.map_some, Option.getD_some, HandlerNames.display, hget]

/-! ## 5. Names apart -/

/-- **Names are for listings alone.**  Whatever groups are held on a new table, for every two
histories that are the same without their names: command by command, those left out that only give
a name, they end alike and lead to sites that nobody can tell apart without a listing; and so do the
whole histories.  A listing tells of each route the name that its last handler was given last, by
whatever command and whatever became of it, or that it was given none. -/
theorem naming_apart (limit : Nat) (top : Group) (groups : List (String × Group))
    {commands commands' : List Command}
    (hsame : Command.plain commands = Command.plain commands') :
    let start : Site := ⟨Table.empty limit, top, groups⟩
    List.Forall₂ (fun entry entry' => entry'.1 = entry.1 ∧ entry.2.SameRouting entry'.2)
        (start.course commands) (start.course commands') ∧
      (start.execAll commands).SameRouting (start.execAll commands') ∧
      List.Forall₂ (Tells (start.namings commands)) (start.execAll commands).table.routes
        (start.execAll commands).table.listing ∧
      List.Forall₂ (Tells (start.namings commands')) (start.execAll commands').table.routes
        (start.execAll commands').table.listing := by
  intro start
  have hfilled : start.Filled := nofun
  have hcourse : (start.course commands).map unnamed = (start.course commands').map unnamed := by
    rw [← course_plain start [] commands, hsame, course_plain]
  have hend : (start.execAll commands).renamed [] = (start.execAll commands').renamed [] := by
    rw [← execAll_plain, hsame, execAll_plain]
  refine ⟨?_, sameRouting_of_renamed hend, listing_tells hfilled rfl commands,
    listing_tells hfilled rfl commands'⟩
  rw [← List.forall₂_eq_eq_eq, List.forall₂_map_left_iff, List.forall₂_map_right_iff] at hcourse
  refine hcourse.imp fun entry entry' heq => ?_
  obtain ⟨hverdict, hsite⟩ := Prod.ext_iff.mp heq
  exact ⟨hverdict.symm, sameRouting_of_renamed hsite⟩

/-- A handler with two pages, one of them below a guard.  It is registered by name, and once more
under another name where its page is taken.  The handler that serves a file is named too. -/
def relisted : List Command :=
  [.declareNamed "root" (labelled "users") "list" (.route Method.GET "/users" [labelled "users"]),
    .sub "root" "/admin" [labelled "guard"] "admin",
    .declare "admin" (.route Method.GET "/users" [labelled "users"]),
    again (labelled "users"),
    .setName (labelled "guard") "guard",
    .declare "root" (.file "image" "/logo" "logo.png"),
    .setName (Handler.file "image" "logo.png") "logo"]

/-- The same without a name. -/
def nameless : List Command :=
  [.declare "root" (.route Method.GET "/users" [labelled "users"]),
    .sub "root" "/admin" [labelled "guard"] "admin",
    .declare "admin" (.route Method.GET "/users" [labelled "users"]),
    .declare "root" (.route Method.GET "/users" [labelled "users"]),
    .declare "root" (.file "image" "/logo" "logo.png")]

/-- Both are refused alike and serve alike; the refused name is the one that both pages are listed
under. -/
theorem naming_apart_relisted :
    Command.plain relisted = Command.plain nameless ∧
      ((empty 63).course relisted).length = ((empty 63).course nameless).length ∧
      ((empty 63).execAll relisted).SameRouting ((empty 63).execAll nameless) ∧
      List.Forall₂ (Tells ((empty 63).namings relisted)) ((empty 63).execAll relisted).table.routes
        [⟨Method.GET, "/users", "list all", 1⟩, ⟨Method.GET, "/admin/users", "list all", 2⟩,
          ⟨Method.GET, "/logo", "logo", 1⟩, ⟨Method.HEAD, "/logo", "logo", 1⟩] ∧
      List.Forall₂ (Tells []) ((empty 63).execAll nameless).table.routes
        [⟨Method.GET, "/users", "<anonymous>", 1⟩,
          ⟨Method.GET, "/admin/users", "<anonymous>", 2⟩,
          ⟨Method.GET, "/logo", "<anonymous>", 1⟩, ⟨Method.HEAD, "/logo", "<anonymous>", 1⟩] := by
  have hsame : Command.plain relisted = Command.plain nameless := rfl
  obtain ⟨hcourse, hrouting, htells, htells'⟩ := naming_apart 63 Group.root [] hsame
  exact ⟨hsame, hcourse.length_eq, hrouting, htells, htells'⟩

end Site
end Gatehouse
