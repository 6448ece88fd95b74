/-
# Transports

A transport serves until it is stopped.  It can be drained, which stops it and waits until a
deadline for what is under way, and closed, which stops it and waits for nothing.  Whoever comes to
a stopped transport to serve finds that it ends at once, if it heeds that it has been stopped.

A transport is a listener on an address, or one whose behaviour is written down.
-/
import Gatehouse.Context.Handler
import Gatehouse.Lifecycle.AcceptLoop
import Gatehouse.Lifecycle.Network

namespace Gatehouse

/-! ## 1. What calls come to -/

/-- How a call ends: it comes to something, or it panics. -/
inductive CallEnd
  | finished (f : Finish)
  | panicked (p : Panic)
deriving DecidableEq, Repr

/-- What serving comes to. -/
structure Serving where
  /-- When it ends by itself, and how. -/
  due : Due
  ending : CallEnd
  /-- How it ends once the transport is stopped, unless it does not heed that. -/
  stopped? : Option CallEnd
deriving DecidableEq, Repr

/-- Every way in which serving may end. -/
def Serving.ends (v : Serving) : List CallEnd := v.ending :: v.stopped?.toList

/-- What draining comes to: when it ends, and how. -/
structure Drain where
  due : Due
  ending : CallEnd
deriving DecidableEq, Repr

/-! ## 2. Written behaviour -/

/-- The behaviour of a transport.  Nothing says that it is a good one: serving may go on or fail
when it is told to end, a drain may take longer than it has or never end, and any call may panic. -/
structure TransportScript where
  /-- How long serving goes on by itself, and how it ends then. -/
  serveTime : Latency
  serveEnd : CallEnd
  /-- How serving ends once the transport is stopped, unless it does not heed that. -/
  stopEnd? : Option CallEnd
  drainTime : Latency
  drainEnd : CallEnd
  /-- A drain that would end behind its deadline ends at the deadline, out of time. -/
  keepsDeadline : Bool
  closeEnd : CallEnd
deriving DecidableEq, Repr

namespace TransportScript

/-- It serves until it is stopped, and all that is asked of it ends well and at once. -/
def smooth : TransportScript where
  serveTime := none
  serveEnd := .finished .well
  stopEnd? := some (.finished .well)
  drainTime := some ⟨0⟩
  drainEnd := .finished .well
  keepsDeadline := true
  closeEnd := .finished .well

def serving (s : TransportScript) (now : Instant) : Serving :=
  ⟨s.serveTime.due now, s.serveEnd, s.stopEnd?⟩

def drain (s : TransportScript) (now deadline : Instant) : Drain :=
  if s.keepsDeadline && s.drainTime.all (deadline - now < ·.nanos) then
    ⟨some (Instant.timer now ⟨deadline - now⟩), .finished (.failed .shutdownTimeout)⟩
  else ⟨s.drainTime.due now, s.drainEnd⟩

end TransportScript

/-! ## 3. Listeners -/

/-- A listener on an address. -/
structure Listener where
  address : String
  network : Network
  bound? : Option SocketAddress
  loop : AcceptLoop

namespace Listener

def new (address : String) (network : Network) : Listener := ⟨address, network, none, .new⟩

/-- A listener that cannot be bound serves nobody. -/
def serving (l : Listener) (now : Instant) : Serving :=
  match l.network.bind l.address with
  | .ok _ => ⟨none, .finished .well, some (.finished .well)⟩
  | .error f => ⟨some now, .finished (.failed f), none⟩

/-- A listener is bound before it serves, even one that has been stopped. -/
def bind (l : Listener) : Listener :=
  { l with bound? := (l.network.bind l.address).toOption.or l.bound? }

/-- A drain ends at once when no connection is live.  Here none of them ends meanwhile, so that
otherwise it runs out of time. -/
def drain (l : Listener) (now deadline : Instant) : Drain :=
  if l.loop.tracker.active = 0 then ⟨some now, .finished .well⟩
  else ⟨some (Instant.tick (max now deadline)), .finished (.failed .shutdownTimeout)⟩

end Listener

/-! ## 4. Transports -/

/-- What serves an engine. -/
inductive Transport
  | scripted (script : TransportScript) (stopped : Bool)
  | listener (l : Listener)

namespace Transport

/-- It has been drained or closed. -/
def isStopped : Transport → Bool
  | scripted _ stopped => stopped
  | listener l => l.loop.isTold

def serve (t : Transport) (now : Instant) : Serving × Transport :=
  match t with
  | scripted script stopped => (script.serving now, scripted script stopped)
  | listener l => (l.serving now, listener l.bind)

/-- Draining begins, and serving ends. -/
def drain (t : Transport) (now deadline : Instant) : Drain × Transport :=
  match t with
  | scripted script _ => (script.drain now deadline, scripted script true)
  | listener l => (l.drain now deadline, listener { l with loop := l.loop.stop })

/-- Everything is dropped. -/
def close (t : Transport) : CallEnd × Transport :=
  match t with
  | scripted script _ => (script.closeEnd, scripted script true)
  | listener l => (.finished .well, listener { l with loop := l.loop.close })

end Transport
end Gatehouse
