/-
# Sites

A site is a route table together with the groups that callers hold on it, each under a name.  The
group of the whole table is `root`; nothing else can be held under that name.

Everything that callers do to a site is a `Command`.  A command acts on one group or on the table,
and changes no group but the one it names or makes.
-/
import Gatehouse.Route.Group

namespace Gatehouse

/-- A table, the group of all of it and the groups held on it.  Of two groups under one name the
first counts. -/
structure Site where
  table : Table
  top : Group
  groups : List (String × Group)

/-- Something a caller does to a site.  `on` names the group that it is done to. -/
inductive Command
  /-- Makes a group below another. -/
  | sub (on relative : String) (middleware : Chain) (name : String)
  /-- Keeps a copy of a group. -/
  | copy (on name : String)
  | use (on : String) (middleware : Chain)
  | declare (on : String) (d : Declaration)
  | declareNamed (on : String) (h : Handler) (name : String) (d : Declaration)
  /-- Adds a route to the table itself. -/
  | add (method : Method) (path : String) (chain : Chain)
  | setName (h : Handler) (name : String)

/-- How a command ended. -/
inductive Verdict
  | done
  /-- A group has been made. -/
  | made (group : Group)
  | refused (fault : RouteFault)
  /-- The command names a group that is not held. -/
  | noSuchGroup

namespace Site

def rootName : String := "root"

def empty (limit : Nat) : Site := ⟨Table.empty limit, Group.root, []⟩

/-- The group of the whole table, or the one held under a name. -/
def group? (s : Site) (name : String) : Option Group :=
  if name = rootName then some s.top else s.groups.lookup name

/-- Holds a group under a name in place of any other. -/
def hold (s : Site) (name : String) (g : Group) : Site :=
  if name = rootName then s else { s with groups := (name, g) :: s.groups.filter (·.1 ≠ name) }

/-- Puts a group in the place of one that is there. -/
def change (s : Site) (name : String) (g : Group) : Site :=
  if name = rootName then { s with top := g } else s.hold name g

/-- Carries out a registration on the table. -/
def commit (s : Site) (r : Registration Unit) : Verdict × Site :=
  match r.run s.table with
  | (.ok (), table) => (.done, { s with table })
  | (.error fault, table) => (.refused fault, { s with table })

/-- Carries out a command on the group that it names. -/
def withGroup (s : Site) (name : String) (f : Group → Verdict × Site) : Verdict × Site :=
  match s.group? name with
  | some g => f g
  | none => (.noSuchGroup, s)

def exec (s : Site) : Command → Verdict × Site
  | .sub on relative middleware name => s.withGroup on fun g =>
    match g.sub s.table.limit relative middleware with
    | .ok made => (.made made, s.hold name made)
    | .error fault => (.refused fault, s)
  | .copy on name => s.withGroup on fun g => (.done, s.hold name g)
  | .use on middleware => s.withGroup on fun g => (.done, s.change on (g.use middleware))
  | .declare on d => s.withGroup on fun g => s.commit (g.declare d)
  | .declareNamed on h name d => s.withGroup on fun g => s.commit (g.declareNamed h name d)
  | .add method path chain => s.commit (Table.add method path chain)
  | .setName h name => (.done, { s with table := s.table.setName h name })

/-- Carries out commands in order, whatever becomes of each. -/
def execAll (s : Site) (commands : List Command) : Site :=
  commands.foldl (fun s c => (s.exec c).2) s

end Site
end Gatehouse
