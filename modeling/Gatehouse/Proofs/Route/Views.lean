/-
# Groups on a site

The groups that callers hold change one at a time.  A command has at most one target, the name that
it puts a group under; every other name keeps its group, and the table only grows.

`Site.Moves` lists what a command may lead to, and `Site.Commits` what it may do to the table
(`Site.table_exec`).  Read off these:

* `Site.group?_execAll`: **commands leave every group alone that none of them has as its target**;
* `Site.grown_execAll`: routes are never taken out of a table, and its limit never changes;
* `Site.Reachable.every`: what the group of the whole table has, and what middleware and subgroups
  keep, every group of every site has that can be reached;
* `Site.Throughout.keeps`, `Site.execAll_iff`, `Site.always_iff`: from what one command does under a
  condition to what a history does whose commands all meet it.
-/
import Gatehouse.Proofs.Route.Registering
import Gatehouse.Route.Site

namespace Gatehouse

/-! ## 1. What a command does to the groups -/

/-- The name that a command puts a group under, if it does. -/
def Command.target? : Command → Option String
  | .sub _ _ _ name | .copy _ name | .use name _ => some name
  | .declare _ _ | .declareNamed _ _ _ _ | .add _ _ _ | .setName _ _ => none

namespace Site

/-- Taking one name out of a list leaves what is found under the others. -/
theorem lookup_filter_ne {α : Type} {name other : String} (hne : name ≠ other)
    (held : List (String × α)) :
    (held.filter (·.1 ≠ name)).lookup other = held.lookup other := by
  induction held with
  | nil => rfl
  | cons p held ih =>
    obtain ⟨n, a⟩ := p
    by_cases hn : n = name
    · have hother : (other == n) = false := by simpa [hn] using fun h => hne h.symm
      rw [List.filter_cons_of_neg (by simp [hn]), ih, List.lookup_cons, hother]
    · rw [List.filter_cons_of_pos (by simp [hn]), List.lookup_cons, List.lookup_cons, ih]

theorem group?_hold_self {name : String} (hname : name ≠ rootName) (s : Site) (g : Group) :
    (s.hold name g).group? name = some g := by
  simp [hold, group?, hname]

theorem group?_hold_of_ne {name other : String} (hne : name ≠ other) (s : Site) (g : Group) :
    (s.hold name g).group? other = s.group? other := by
  unfold hold
  split
  · rfl
  · have hother : (other == name) = false := by simpa using fun h => hne h.symm
    simp only [group?, List.lookup_cons, hother, lookup_filter_ne hne]

theorem group?_change_self (name : String) (s : Site) (g : Group) :
    (s.change name g).group? name = some g := by
  unfold change
  split
  · rename_i hname
    simp [group?, hname]
  · rename_i hname
    exact group?_hold_self hname s g

theorem group?_change_of_ne {name other : String} (hne : name ≠ other) (s : Site) (g : Group) :
    (s.change name g).group? other = s.group? other := by
  unfold change
  split
  · rename_i hname
    have hother : other ≠ rootName := fun h => hne (hname.trans h.symm)
    simp [group?, hother]
  · exact group?_hold_of_ne hne s g

theorem table_hold (s : Site) (name : String) (g : Group) : (s.hold name g).table = s.table := by
  unfold hold
  split <;> rfl

theorem table_change (s : Site) (name : String) (g : Group) :
    (s.change name g).table = s.table := by
  unfold change
  split
  · rfl
  · exact table_hold s name g

theorem commit_snd (s : Site) (r : Registration Unit) :
    (s.commit r).2 = { s with table := (r.run s.table).2 } := by
  unfold commit
  split <;> rename_i heq <;> rw [heq]

/-- A registration is done when the table takes all of it. -/
theorem commit_fst_eq_done_iff (s : Site) (r : Registration Unit) :
    (s.commit r).1 = .done ↔ (r.run s.table).1 = .ok () := by
  unfold commit
  split <;> rename_i heq <;> simp [heq]

/-- It is refused when the table refuses it. -/
theorem commit_fst_eq_refused_iff (s : Site) (r : Registration Unit) (fault : RouteFault) :
    (s.commit r).1 = .refused fault ↔ (r.run s.table).1 = .error fault := by
  unfold commit
  split <;> rename_i heq <;> simp [heq]

/-- A declaration through a group that is held is carried out on the table. -/
theorem exec_declare {s : Site} {on : String} {g : Group} (hg : s.group? on = some g)
    (d : Declaration) : s.exec (.declare on d) = s.commit (g.declare d) := by
  simp only [exec, withGroup, hg]

theorem exec_declareNamed {s : Site} {on : String} {g : Group} (hg : s.group? on = some g)
    (h : Handler) (name : String) (d : Declaration) :
    s.exec (.declareNamed on h name d) = s.commit (g.declareNamed h name d) := by
  simp only [exec, withGroup, hg]

/-- A site with one more route behind the others in its table. -/
def withRoute (s : Site) (r : Route) : Site := { s with table := s.table.withRoute r }

/-- When a site takes in a route through a group, and where the route stands then. -/
theorem commit_register {s : Site} {g : Group} {relative pattern : String}
    (hpath : Path.under g.base relative = .ok pattern) (hrooted : Path.isRooted pattern = true)
    (method : Method) (handlers : Chain) :
    ((s.commit (g.register method relative handlers)).1 = .done ↔
        (g.middleware ++ handlers).length < s.table.limit ∧ g.middleware ++ handlers ≠ [] ∧
          s.table.registered? method pattern = none) ∧
      ((s.commit (g.register method relative handlers)).1 = .done →
        (s.commit (g.register method relative handlers)).2 =
          s.withRoute ⟨method, pattern, g.middleware ++ handlers⟩) := by
  rw [commit_fst_eq_done_iff, commit_snd]
  refine ⟨Group.register_done_iff hpath hrooted method handlers s.table, fun hdone => ?_⟩
  rw [Group.register_done hpath hdone]
  rfl

/-- The sites that a command may lead to.  Only a command with a target touches the groups, and what
it puts there is a group that was held before, a subgroup of one, or one with more middleware. -/
inductive Moves (s : Site) (c : Command) : Site → Prop
  | still : Moves s c s
  | registered {t : Table} (hgrown : s.table.Grown t) : Moves s c { s with table := t }
  | made {on name relative : String} {g made : Group} {more : Chain}
    (htarget : c.target? = some name) (hg : s.group? on = some g)
    (hmade : g.sub s.table.limit relative more = .ok made) : Moves s c (s.hold name made)
  | copied {on name : String} {g : Group} (htarget : c.target? = some name)
    (hg : s.group? on = some g) : Moves s c (s.hold name g)
  | used {on : String} {g : Group} {more : Chain} (htarget : c.target? = some on)
    (hg : s.group? on = some g) : Moves s c (s.change on (g.use more))

theorem moves_commit {s : Site} {c : Command} {r : Registration Unit} (h : r.Grows) :
    s.Moves c (s.commit r).2 := by
  rw [commit_snd]
  exact .registered (h s.table)

/-- A command on a group moves the site where it does for every group it may find. -/
theorem moves_withGroup {s : Site} {c : Command} {on : String} {f : Group → Verdict × Site}
    (h : ∀ g, s.group? on = some g → s.Moves c (f g).2) : s.Moves c (s.withGroup on f).2 := by
  unfold withGroup
  split
  · rename_i g hg
    exact h g hg
  · exact .still

theorem exec_moves (s : Site) (c : Command) : s.Moves c (s.exec c).2 := by
  cases c with
  | sub on relative middleware name =>
    refine moves_withGroup fun g hg => ?_
    split
    · rename_i hmade
      exact .made rfl hg hmade
    · exact .still
  | copy on name => exact moves_withGroup fun g hg => .copied rfl hg
  | use on middleware => exact moves_withGroup fun g hg => .used rfl hg
  | declare on d => exact moves_withGroup fun g _ => moves_commit (g.grows_declare d)
  | declareNamed on h name d =>
    exact moves_withGroup fun g _ => moves_commit (g.grows_declareNamed h name d)
  | add method path chain => exact moves_commit (Registration.grows_add method path chain)
  | setName h name => exact .registered (Table.grown_setName s.table h name)

/-- A registration that a command carries out on the table. -/
inductive Commits (s : Site) : Command → Registration Unit → Prop
  | declare {on : String} {g : Group} (hg : s.group? on = some g) (d : Declaration) :
    Commits s (.declare on d) (g.declare d)
  | declareNamed {on : String} {g : Group} (hg : s.group? on = some g) (h : Handler) (name : String)
    (d : Declaration) : Commits s (.declareNamed on h name d) (g.declareNamed h name d)
  | add (method : Method) (path : String) (chain : Chain) :
    Commits s (.add method path chain) (Table.add method path chain)
  | setName (h : Handler) (name : String) :
    Commits s (.setName h name) (modify fun t => t.setName h name)

/-- **What a command does to the table**, it does by a registration; else it leaves it alone. -/
theorem table_exec (s : Site) (c : Command) :
    (s.exec c).2.table = s.table ∨
      ∃ r, s.Commits c r ∧ (s.exec c).2.table = (r.run s.table).2 := by
  have hwith : ∀ {on : String} {f : Group → Verdict × Site},
      (∀ g, s.group? on = some g → (f g).2.table = s.table ∨
        ∃ r, s.Commits c r ∧ (f g).2.table = (r.run s.table).2) →
      (s.withGroup on f).2.table = s.table ∨
        ∃ r, s.Commits c r ∧ (s.withGroup on f).2.table = (r.run s.table).2 := by
    intro on f hf
    unfold withGroup
    split
    · rename_i g hg
      exact hf g hg
    · exact Or.inl rfl
  have hcommit : ∀ r : Registration Unit, (s.commit r).2.table = (r.run s.table).2 := by
    intro r
    rw [commit_snd]
  cases c with
  | sub on relative middleware name =>
    refine hwith fun g _ => Or.inl ?_
    split
    · exact table_hold s name _
    · rfl
  | copy on name => exact hwith fun g _ => Or.inl (table_hold s name g)
  | use on middleware => exact hwith fun g _ => Or.inl (table_change s on _)
  | declare on d => exact hwith fun g hg => Or.inr ⟨_, .declare hg d, hcommit _⟩
  | declareNamed on h name d =>
    exact hwith fun g hg => Or.inr ⟨_, .declareNamed hg h name d, hcommit _⟩
  | add method path chain => exact Or.inr ⟨_, .add method path chain, hcommit _⟩
  | setName h name => exact Or.inr ⟨_, .setName h name, rfl⟩

/-- **A command leaves every group alone that is not its target.** -/
theorem Moves.group?_of_ne {s s' : Site} {c : Command} (h : s.Moves c s') {name : String}
    (hname : c.target? ≠ some name) : s'.group? name = s.group? name := by
  have hne : ∀ {target : String}, c.target? = some target → target ≠ name :=
    fun htarget heq => hname (htarget.trans (congrArg some heq))
  cases h with
  | still => rfl
  | registered _ => rfl
  | made htarget _ _ => exact group?_hold_of_ne (hne htarget) s _
  | copied htarget _ => exact group?_hold_of_ne (hne htarget) s _
  | used htarget _ => exact group?_change_of_ne (hne htarget) s _

/-- **A command only lets the table grow.** -/
theorem Moves.grown {s s' : Site} {c : Command} (h : s.Moves c s') : s.table.Grown s'.table := by
  cases h with
  | still => exact Table.Grown.refl _
  | registered hgrown => exact hgrown
  | made _ _ _ => exact (table_hold s _ _).symm ▸ Table.Grown.refl _
  | copied _ _ => exact (table_hold s _ _).symm ▸ Table.Grown.refl _
  | used _ _ => exact (table_change s _ _).symm ▸ Table.Grown.refl _

/-- Commands leave every group alone that none of them has as its target. -/
theorem group?_execAll {name : String} {commands : List Command}
    (h : ∀ c ∈ commands, c.target? ≠ some name) (s : Site) :
    (s.execAll commands).group? name = s.group? name := by
  induction commands generalizing s with
  | nil => rfl
  | cons c commands ih =>
    have hrest := ih (fun d hd => h d (List.mem_cons_of_mem _ hd)) (s.exec c).2
    exact hrest.trans ((exec_moves s c).group?_of_ne (h c List.mem_cons_self))

theorem grown_execAll (commands : List Command) (s : Site) :
    s.table.Grown (s.execAll commands).table := by
  induction commands generalizing s with
  | nil => exact Table.Grown.refl _
  | cons c commands ih => exact (exec_moves s c).grown.trans (ih (s.exec c).2)

/-! ## 2. Sites that can be reached -/

/-- A site that commands lead to from the empty one. -/
def Reachable (limit : Nat) (s : Site) : Prop := ∃ commands, s = (empty limit).execAll commands

theorem Reachable.exec {limit : Nat} {s : Site} (h : s.Reachable limit) (c : Command) :
    (s.exec c).2.Reachable limit := by
  obtain ⟨commands, rfl⟩ := h
  refine ⟨commands ++ [c], ?_⟩
  rw [execAll, execAll, List.foldl_append]
  rfl

def Every (P : Group → Prop) (s : Site) : Prop := ∀ name g, s.group? name = some g → P g

theorem Every.hold {P : Group → Prop} {s : Site} (h : s.Every P) (name : String) {g : Group}
    (hg : P g) : (s.hold name g).Every P := by
  intro other g' hfound
  by_cases hroot : name = rootName
  · rw [Site.hold, if_pos hroot] at hfound
    exact h other g' hfound
  · by_cases hname : name = other
    · subst hname
      rw [group?_hold_self hroot, Option.some.injEq] at hfound
      exact hfound ▸ hg
    · rw [group?_hold_of_ne hname] at hfound
      exact h other g' hfound

theorem Every.change {P : Group → Prop} {s : Site} (h : s.Every P) (name : String) {g : Group}
    (hg : P g) : (s.change name g).Every P := by
  intro other g' hfound
  by_cases hname : name = other
  · subst hname
    rw [group?_change_self, Option.some.injEq] at hfound
    exact hfound ▸ hg
  · rw [group?_change_of_ne hname] at hfound
    exact h other g' hfound

section
variable {P : Group → Prop} (huse : ∀ g more, P g → P (g.use more))
  (hsub : ∀ g limit relative more made, P g → g.sub limit relative more = .ok made → P made)
include huse hsub

theorem Every.moves {s s' : Site} {c : Command} (h : s.Every P) (hmoves : s.Moves c s') :
    s'.Every P := by
  cases hmoves with
  | still => exact h
  | registered _ => exact h
  | made _ hg hmade => exact h.hold _ (hsub _ _ _ _ _ (h _ _ hg) hmade)
  | copied _ hg => exact h.hold _ (h _ _ hg)
  | used _ hg => exact h.change _ (huse _ _ (h _ _ hg))

theorem Every.execAll {s : Site} (h : s.Every P) (commands : List Command) :
    (s.execAll commands).Every P := by
  induction commands generalizing s with
  | nil => exact h
  | cons c commands ih => exact ih (Every.moves huse hsub h (exec_moves s c))

/-- **What the group of the whole table has, and what middleware and subgroups keep, every group of
every site has that can be reached.** -/
theorem Reachable.every {limit : Nat} {s : Site} (hroot : P Group.root) (h : s.Reachable limit) :
    s.Every P := by
  obtain ⟨commands, rfl⟩ := h
  refine Every.execAll huse hsub ?_ commands
  intro name g hg
  simp only [group?, empty, List.lookup_nil] at hg
  split at hg
  · cases hg
    exact hroot
  · cases hg

end

/-- **The base of every group is rooted.** -/
theorem Reachable.isRooted_base {limit : Nat} {s : Site} (h : s.Reachable limit) {name : String}
    {g : Group} (hg : s.group? name = some g) : Path.isRooted g.base = true := by
  have hevery : s.Every fun g => Path.isRooted g.base = true := by
    refine Reachable.every ?_ ?_ ?_ h
    · intro g more hg
      exact hg
    · intro g limit relative more made hg hmade
      obtain ⟨base, hbase, hrooted⟩ := Path.exists_under hg relative
      obtain ⟨-, -, hmade⟩ := Group.sub_eq_ok hmade
      obtain rfl : base = made.base := Except.ok.inj (hbase.symm.trans hmade)
      exact hrooted
    · decide
  exact hevery name g hg

/-! ## 3. Histories -/

/-- Each of the commands has a property, together with the site that it is carried out on. -/
def Throughout (Q : Site → Command → Prop) : Site → List Command → Prop
  | _, [] => True
  | s, c :: commands => Q s c ∧ Throughout Q (s.exec c).2 commands

/-- A site has a property, and still has it behind each of the commands. -/
def Always (P : Site → Prop) (s : Site) (commands : List Command) : Prop :=
  P s ∧ Throughout (fun s c => P (s.exec c).2) s commands

section
variable {P : Site → Prop} {Q : Site → Command → Prop}

/-- What every command adds to all that came before it, a history comes to. -/
theorem execAll_iff (hexec : ∀ s c, P (s.exec c).2 ↔ P s ∧ Q s c) (s : Site)
    (commands : List Command) : P (s.execAll commands) ↔ P s ∧ s.Throughout Q commands := by
  induction commands generalizing s with
  | nil => exact (and_iff_left trivial).symm
  | cons c commands ih =>
    refine (ih (s.exec c).2).trans ?_
    rw [hexec s c, and_assoc]
    rfl

/-- What a command keeps under a condition, a history keeps as long as the condition is met. -/
theorem always_iff (hexec : ∀ s c, P s → (P (s.exec c).2 ↔ Q s c)) (s : Site)
    (commands : List Command) : s.Always P commands ↔ P s ∧ s.Throughout Q commands := by
  refine and_congr_right fun hs => ?_
  induction commands generalizing s with
  | nil => exact Iff.rfl
  | cons c commands ih =>
    have hc := hexec s c hs
    constructor
    · rintro ⟨hnext, hrest⟩
      exact ⟨hc.mp hnext, (ih _ hnext).mp hrest⟩
    · rintro ⟨hcond, hrest⟩
      have hnext := hc.mpr hcond
      exact ⟨hnext, (ih _ hnext).mpr hrest⟩

end

end Site

end Gatehouse
