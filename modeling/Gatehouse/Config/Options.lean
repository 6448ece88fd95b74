/-
# Options

What a service is configured with.  Options are built by settings, each replacing what an earlier
one said; `Info` is how an instance announces itself to a service registry.

The limit on handler chains never exceeds `Chain.abortIndex`, whatever is asked for, so the
position of an aborted chain is never that of a handler in a chain below the limit.
-/
import Gatehouse.Config.Address
import Gatehouse.Context.Handler
import Gatehouse.Time.Duration

namespace Gatehouse

/-! ## 1. Announcements -/

/-- How an instance announces itself. -/
structure Info where
  serviceName : String
  address : String
  weight : Nat
  /-- One value for each key, in the order the keys were first set. -/
  tags : List (String × String)
deriving DecidableEq, Repr

namespace Info

/-- An instance with the usual weight and no tags. -/
def named (serviceName address : String) : Info := ⟨serviceName, address, 10, []⟩

def tag (i : Info) (key value : String) : Info :=
  if i.tags.any (·.1 = key) then
    { i with tags := i.tags.map fun t => if t.1 = key then (key, value) else t }
  else { i with tags := i.tags ++ [(key, value)] }

/-- The tags between braces. -/
def tagsText (tags : List (String × String)) : String :=
  "\x7b" ++ ", ".intercalate (tags.map fun t => Text.quote t.1 ++ ": " ++ Text.quote t.2) ++ "\x7d"

def diagnostic (i : Info) : String :=
  Text.record "Info" [
    ("service_name", Text.quote i.serviceName),
    ("addr", Text.quote i.address),
    ("weight", toString i.weight),
    ("tags", tagsText i.tags)]

end Info

/-! ## 2. Options -/

/-- What a service is configured with. -/
structure Options where
  address : String
  /-- How long a graceful shutdown may take. -/
  exitWait : Duration
  /-- What the length of every handler chain must stay below. -/
  handlerLimit : Nat
  /-- How long after the start the instance is registered. -/
  registerDelay : Duration
  info? : Option Info
  handlerLimit_le : handlerLimit ≤ Chain.abortIndex := by decide

/-- One thing to configure. -/
inductive Setting
  | address (text : String)
  | exitWait (d : Duration)
  | handlerLimit (n : Nat)
  | registerDelay (d : Duration)
  | info (i : Info)

namespace Options

/-- What holds when nothing is said. -/
def standard : Options where
  address := "0.0.0.0:8888"
  exitWait := .ofSeconds 5
  handlerLimit := Chain.abortIndex
  registerDelay := .ofSeconds 1
  info? := none

/-- Options after one setting.  A limit above `Chain.abortIndex` is lowered to it. -/
def set (o : Options) : Setting → Options
  | .address text => { o with address := text }
  | .exitWait d => { o with exitWait := d }
  | .handlerLimit n =>
    { o with handlerLimit := min n Chain.abortIndex, handlerLimit_le := Nat.min_le_right _ _ }
  | .registerDelay d => { o with registerDelay := d }
  | .info i => { o with info? := some i }

def build (settings : List Setting) : Options := settings.foldl set standard

def socketAddress? (o : Options) : Option SocketAddress := SocketAddress.ofText? o.address

def diagnostic (o : Options) : String :=
  Text.openRecord "Options" [
    ("http_addr", Text.quote o.address),
    ("exit_wait_timeout", o.exitWait.text),
    ("max_handlers", toString o.handlerLimit),
    ("register_delay", o.registerDelay.text),
    ("registry_info", Text.option (o.info?.map Info.diagnostic))]

end Options
end Gatehouse
