/-
# Dispatch

A request meets the first route that its method and path fit, and the route's chain builds the
answer.  A request that meets none is told that there is nothing here; its header fields and its
body are not looked at.
-/
import Gatehouse.Context.Run
import Gatehouse.Route.Table

namespace Gatehouse

/-- The end of a dispatch: an answer, or a panic that nothing caught. -/
inductive Reply
  | answer (r : Response)
  | panicked (p : Panic)
  /-- The chain would go on forever. -/
  | endless
deriving DecidableEq

namespace Table

/-- The answer to a request that meets no route. -/
def unmatched (id : RequestId) (r : Request) : Response :=
  (Context.fresh id { r with headers := [], body := [] }).writeNotFound.finish

/-- The exchange at the start of a chain. -/
def arrive (id : RequestId) (r : Request) (m : RouteMatch) : Exchange :=
  ⟨(Context.fresh id r).meet m.pattern m.params m.chain, []⟩

def replyOf (o : Outcome) : Reply :=
  match o.ending with
  | .returned => .answer o.exchange.context.finish
  | .panicked p => .panicked p
  | .unfinished => .endless

/-- Answers a request, together with what its handlers noted. -/
def dispatch (t : Table) (d : Disk) (id : RequestId) (r : Request) : Reply × List Note :=
  match t.lookup r.method r.path with
  | none => (.answer (unmatched id r), [])
  | some m =>
    let o := (arrive id r m).run d
    (replyOf o, o.exchange.log)

/-- The answer to a request whose body could not be read. -/
def unreadable (id : RequestId) (method : Method) (path : String) : Response :=
  ((Context.fresh id ⟨method, path, [], []⟩).writeText 400 "400 bad request").finish

/-- Answers a request as it comes off a connection, with its body if that could be read. -/
def receive (t : Table) (d : Disk) (id : RequestId) (r : Request) (body? : Option Bytes) :
    Reply × List Note :=
  match body? with
  | some body => t.dispatch d id { r with body }
  | none => (.answer (unreadable id r.method r.path), [])

def dispatcherDiagnostic (t : Table) : String :=
  Text.record "Dispatcher" [("table", t.diagnostic)]

end Table
end Gatehouse
