/-
# Binding an address

A listener is bound to an address before it takes connections.  That fails for a text that is no
address, for a host that is not one of this machine's, and for an address that another socket
holds.
-/
import Gatehouse.Config.Address
import Gatehouse.Fault

namespace Gatehouse

/-- What a process can see of the network. -/
structure Network where
  /-- A socket of this process can be bound to the host. -/
  isOwn : Host → Bool
  /-- Another socket holds the address. -/
  isTaken : SocketAddress → Bool
  /-- A client on this machine can reach the host. -/
  reaches : Host → Bool

namespace Network

/-- The hosts that every machine has: the loopback hosts, and the one that stands for all. -/
def isLoopback : Host → Bool
  | .v4 a b c d => a = 127 || (a = 0 && b = 0 && c = 0 && d = 0)
  | .v6 groups => groups = [0, 0, 0, 0, 0, 0, 0, 0] || groups = [0, 0, 0, 0, 0, 0, 0, 1]

/-- A machine without a connection of any kind, on which other sockets hold `taken`. -/
def isolated (taken : List SocketAddress) : Network where
  isOwn := isLoopback
  isTaken := taken.contains
  reaches _ := false

/-- The address that a text names, once a socket is bound to it. -/
def bind (n : Network) (address : String) : Except ServiceFault SocketAddress :=
  match SocketAddress.ofText? address with
  | none => .error (.invalidAddress address SocketAddress.syntaxReason)
  | some a =>
    if !n.isOwn a.host then .error (.bind address OsFault.addressNotAvailable.message)
    else if n.isTaken a then .error (.bind address OsFault.addressInUse.message)
    else .ok a

/-- What a client meets that connects to an address from here. -/
def connect (n : Network) (a : SocketAddress) : Except OsFault Unit :=
  if n.reaches a.host then .ok () else .error .networkUnreachable

end Network
end Gatehouse
