/-
# Running a chain

`Exchange.run` starts the handlers of a chain one after the other.  The position in the chain is
part of the context and is shared by every handler: starting one moves it on, so that a handler
that proceeds finds, when it comes back, that the rest has already run.

A run ends in one of three ways.  It returns, it panics, or (`unfinished`) it was given too little
fuel.  A chain shorter than `Chain.abortIndex` always ends within the fuel it is given here; in a
longer one, a handler behind that position which aborts starts itself again without end.
-/
import Gatehouse.Context.Mount

namespace Gatehouse

/-! ## 1. What is observed -/

/-- One entry of the log. -/
inductive Note
  | value (v : Json)
  | state (c : Context)
  | body (b : Bytes)
  | headers (hs : Headers)
  | param (name : String) (value? : Option String)
  | diagnostic (text : String)
  | requestId (id : RequestId)

/-- A context together with what its handlers have noted, oldest first. -/
structure Exchange where
  context : Context
  log : List Note

/-- How a run ends. -/
inductive Ending
  | returned
  | panicked (p : Panic)
  | unfinished
deriving DecidableEq

/-- What a run leaves behind, and how it ended.  The context is as the last action left it even
when a panic ended the run. -/
structure Outcome where
  exchange : Exchange
  ending : Ending

/-! ## 2. One action -/

/-- The context after a change to its answer, or the panic that the change ends in. -/
def Edit.apply (d : Disk) (c : Context) : Edit → Except Panic Context
  | status code => .ok (c.setStatus code)
  | header name value => .ok (c.setHeader name value)
  | data code mediaType body => .ok (c.writeData code mediaType body)
  | text code body => .ok (c.writeText code body)
  | json code value => .ok (c.writeJson code value)
  | unwritable => .ok c.writeInternalError
  | param code name => .ok (c.writeText code ((c.param? name).getD ""))
  | echo => .ok (c.writeData 200 "application/octet-stream" c.request.body)
  | file location => c.writeFile d location
  | mount m => m.serve d c

/-- What a probe finds in a context. -/
def Probe.read (c : Context) : Probe → Note
  | value v => .value v
  | state => .state c
  | body => .body c.request.body
  | requestHeaders => .headers c.request.headers
  | param name => .param name (c.param? name)
  | diagnostic => .diagnostic c.diagnostic
  | requestId => .requestId c.id

namespace Exchange

def update (x : Exchange) (f : Context → Context) : Exchange := { x with context := f x.context }

/-- What recovery makes of the end of the rest of the chain: a panic becomes an internal error
and aborts, all else stays. -/
def recover (o : Outcome) : Outcome :=
  match o.ending with
  | .panicked _ => ⟨o.exchange.update fun c => c.writeInternalError.abort, .returned⟩
  | _ => o

/-- Carries out one action; `rest` runs the rest of the chain. -/
def perform (d : Disk) (rest : Exchange → Outcome) (x : Exchange) : Action → Outcome
  | .proceed => rest x
  | .guarded => recover (rest x)
  | .abort none => ⟨x.update Context.abort, .returned⟩
  | .abort (some code) => ⟨x.update fun c => (c.setStatus code).abort, .returned⟩
  | .edit e =>
    match e.apply d x.context with
    | .ok c => ⟨{ x with context := c }, .returned⟩
    | .error p => ⟨x, .panicked p⟩
  | .note p => ⟨{ x with log := x.log ++ [p.read x.context] }, .returned⟩
  | .panic p => ⟨x, .panicked p⟩

/-! ## 3. Handlers and chains -/

/-- Carries out actions in order, up to the first that does not return. -/
def performAll (d : Disk) (rest : Exchange → Outcome) : List Action → Exchange → Outcome
  | [], x => ⟨x, .returned⟩
  | a :: as, x =>
    let o := perform d rest x a
    match o.ending with
    | .returned => performAll d rest as o.exchange
    | _ => o

/-- Starts the handlers from the position reached, one after the other, until none is left. -/
def runFor (d : Disk) : Nat → Exchange → Outcome
  | 0, x => ⟨x, .unfinished⟩
  | fuel + 1, x =>
    match x.context.chain[x.context.index]? with
    | none => ⟨x, .returned⟩
    | some h =>
      -- The position moves on before the handler starts, so that what an abort makes of it stays.
      let started := x.update fun c => { c with index := c.index + 1 }
      let o := performAll d (runFor d fuel) h.script started
      match o.ending with
      -- A handler need not run the rest of the chain itself: it is run behind every one.
      | .returned => runFor d fuel o.exchange
      | _ => o

/-- Fuel for a chain.  Every start moves the position on, except that an abort may move it back to
`Chain.abortIndex`; a run that ends does so at most once for each recovery that started before
that position, and once more. -/
def fuelFor (chain : Chain) : Nat := (chain.length + 1) * (Chain.abortIndex + 1)

def run (d : Disk) (x : Exchange) : Outcome := runFor d (fuelFor x.context.chain) x

/-- Carries out one action from outside a chain. -/
def act (d : Disk) (x : Exchange) (a : Action) : Outcome := perform d (run d) x a

end Exchange
end Gatehouse
