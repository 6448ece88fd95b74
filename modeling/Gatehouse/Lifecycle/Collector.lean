/-
# Collecting outcomes

Tasks in the background report how they ended, and one reader takes the reports in the order in
which they were sent.  A report that is sent when nobody reads any more is dropped.  A reader that
has taken everything waits, even when nobody is left to report.
-/
import Gatehouse.Fault

namespace Gatehouse

/-- How something ended. -/
inductive Finish
  | well
  | failed (f : ServiceFault)
deriving DecidableEq, Repr

namespace Finish

/-- The fault of a failed end, if it failed. -/
def ofFault? : Option ServiceFault → Finish
  | some f => failed f
  | none => well

/-- The first failure of two ends. -/
def and : Finish → Finish → Finish
  | well, b => b
  | a, _ => a

end Finish

/-- Everything that was reported, oldest first, and how much of it has been taken. -/
structure Collector where
  sent : List Finish
  taken : Nat
  reporters : Nat
  isOpen : Bool
deriving DecidableEq, Repr

namespace Collector

def new : Collector := ⟨[], 0, 1, true⟩

/-- A report through some reporter, or `none` if there is no reporter. -/
def report? (c : Collector) (f : Finish) : Option Collector :=
  if c.reporters = 0 then none
  else some (if c.isOpen then { c with sent := c.sent ++ [f] } else c)

def addReporter (c : Collector) : Collector :=
  if c.reporters = 0 then c else { c with reporters := c.reporters + 1 }

def dropReporter (c : Collector) : Collector := { c with reporters := c.reporters - 1 }

/-- Nobody reads any more. -/
def close (c : Collector) : Collector := { c with isOpen := false }

/-- What has been reported and not been taken. -/
def queue (c : Collector) : List Finish := c.sent.drop c.taken

/-- Takes the oldest report. -/
def take? (c : Collector) : Option (Finish × Collector) :=
  c.queue.head?.map fun f => (f, { c with taken := c.taken + 1 })

end Collector
end Gatehouse
