/-
# The service registry

A collaborator that is told of an instance when it has started and when it stops.  It may take its
time, and it may refuse.
-/
import Gatehouse.Lifecycle.Collector
import Gatehouse.Lifecycle.Timeline

namespace Gatehouse

/-- How a registry answers one kind of call. -/
structure RegistryReply where
  latency : Latency
  fault? : Option RegistryFault
deriving DecidableEq, Repr

structure Registry where
  register : RegistryReply
  deregister : RegistryReply
deriving DecidableEq, Repr

namespace Registry

/-- A registry that agrees at once, which is as good as none. -/
def agreeable : Registry := ⟨⟨some ⟨0⟩, none⟩, ⟨some ⟨0⟩, none⟩⟩

end Registry

/-- How a call to a registry ends, as the end of something larger. -/
def RegistryReply.finish (r : RegistryReply) : Finish :=
  Finish.ofFault? (r.fault?.map ServiceFault.registry)

end Gatehouse
