/-
# Engines and servers

An engine is a site with the hooks and the options of the service that answers by it, and a
status.  A server is an engine that also watches for what ends it.
-/
import Gatehouse.Config.Options
import Gatehouse.Lifecycle.Hook
import Gatehouse.Route.Dispatch
import Gatehouse.Route.Site

namespace Gatehouse

/-- How far an engine has come.  It never goes back. -/
inductive Status
  | init
  | running
  | shutdown
  | closed
deriving DecidableEq, Repr

namespace Status

def text : Status → String
  | init => "Init"
  | running => "Running"
  | shutdown => "Shutdown"
  | closed => "Closed"

/-- The place of a status in the order in which they follow one another. -/
def rank : Status → Nat
  | init => 0
  | running => 1
  | shutdown => 2
  | closed => 3

end Status

/-- A site with everything that is needed to serve it. -/
structure Engine where
  options : Options
  site : Site
  hooks : Hooks
  status : Status

namespace Engine

def new (o : Options) : Engine := ⟨o, Site.empty o.handlerLimit, Hooks.empty, .init⟩

/-- An engine whose root group starts with recovery, a handler with this label. -/
def withRecovery (label : String) (o : Options) : Engine :=
  let e := new o
  { e with site := (e.site.exec (.use Site.rootName [Handler.recovery label])).2 }

def addRunHook (e : Engine) (h : Hook) : Engine := { e with hooks := e.hooks.addRun h }

def addShutdownHook (e : Engine) (h : Hook) : Engine := { e with hooks := e.hooks.addShutdown h }

def diagnostic (e : Engine) : String :=
  Text.openRecord "Engine" [
    ("options", e.options.diagnostic),
    ("routes", toString e.site.table.routes.length),
    ("hooks", e.hooks.diagnostic),
    ("status", e.status.text)]

end Engine

/-- An engine, and whether something other than the standard waiter decides when it ends. -/
structure Server where
  engine : Engine
  hasOwnWaiter : Bool

def Server.diagnostic (s : Server) : String :=
  Text.record "Server" [
    ("engine", s.engine.diagnostic),
    ("custom_signal_waiter", toString s.hasOwnWaiter)]

end Gatehouse
