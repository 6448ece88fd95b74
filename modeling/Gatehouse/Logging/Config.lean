/-
# Logging

How the log is written, and installing it.  A process has one log: installing a second one is
refused.  A configuration that is switched off installs nothing, and its filter is not looked at.
-/
import Gatehouse.Logging.Filter

namespace Gatehouse

/-- How the log is written. -/
structure LogConfig where
  enabled : Bool
  /-- A filter, as in `Filter.check`. -/
  level : String
  jsonFormat : Bool
  spanEvents : Bool
  fileLineInfo : Bool
  includeTarget : Bool
deriving DecidableEq, Repr

/-- Why a log was not installed. -/
inductive LogFault
  | invalidFilter (filter reason : String)
  /-- The reader of filters breaks down. -/
  | brokenFilter (b : Text.BrokenCharacter)
  | install (reason : String)
deriving DecidableEq, Repr

def LogFault.message : LogFault → String
  | invalidFilter filter reason => s!"invalid log filter '{filter}': {reason}"
  | brokenFilter b => b.message
  | install reason => s!"failed to install log subscriber: {reason}"

namespace LogConfig

/-- Everything down to debugging, for people. -/
def development : LogConfig := ⟨true, "debug", false, true, true, true⟩

/-- JSON lines from `info` on. -/
def production : LogConfig := ⟨true, "info", true, false, false, true⟩

/-- What holds when nothing is said. -/
def standard : LogConfig := production

def checkFilter (filter : String) : Except LogFault Unit :=
  match Filter.check filter with
  | .ok () => .ok ()
  | .error (.fault f) => .error (.invalidFilter filter f.message)
  | .error (.broken b) => .error (.brokenFilter b)

/-- Installs the log, given whether the process has one already. -/
def install (c : LogConfig) (installed : Bool) : Except LogFault Unit :=
  if !c.enabled then .ok ()
  else do
    checkFilter c.level
    if installed then .error (.install "a global default trace dispatcher has already been set")
    else .ok ()

end LogConfig
end Gatehouse
