/-
# The course of a chain

A chain is an onion.  A handler carries out its actions up to the one that proceeds, the handlers
behind it run, and it carries out the rest.  This file says so without a machine:
`Chain.course` reads off the handlers alone which events a run has, in order, and how it ends.  It
recurses on the chain, so there is no position to move and no fuel to spend.

A layer has one of two shapes, and everything else here follows from them (`layer_shape`):

* `Alone`: the handlers behind it do not run at all, because it panics or aborts first;
* `Around`: they run once, between two stretches of its own script.

From the shapes come the four facts that make a run orderly (`Orderly`, `course_orderly`):
handlers start in the order of the chain and each at most once, none starts behind an abort, all
start when nobody aborts, and one that has started comes to its whole script.

Panics are part of the course: one ends every layer that it passes, up to a handler that answers
for it.  Which changes to an answer end in one is told to a course by a function (`fails`).
-/
import Gatehouse.Context.Run

namespace Gatehouse

/-- The panic that an action ends in by itself, if it does. -/
def Action.panic? (fails : Edit → Option Panic) : Action → Option Panic
  | panic p => some p
  | edit e => fails e
  | _ => none

namespace Chain

/-! ## 1. Events -/

/-- Something that happens while a chain runs, by the position of the handler it happens to. -/
inductive Event
  /-- The handler starts. -/
  | started (i : Nat)
  /-- The handler comes to one of its actions. -/
  | reached (i : Nat) (a : Action)
  /-- The handler answers for a panic behind it. -/
  | rescued (i : Nat)

namespace Event

/-- The position of the handler that an event starts. -/
def start? : Event → Option Nat
  | started i => some i
  | _ => none

/-- The action that an event brings the handler at `i` to. -/
def actionAt? (i : Nat) : Event → Option Action
  | reached j a => if j = i then some a else none
  | _ => none

/-- The event aborts the chain. -/
def Aborts : Event → Prop
  | reached _ (.abort _) => True
  | rescued _ => True
  | _ => False

def starts (events : List Event) : List Nat := events.filterMap start?

def actionsAt (i : Nat) (events : List Event) : List Action := events.filterMap (actionAt? i)

@[simp] theorem starts_nil : starts [] = [] := rfl

@[simp] theorem starts_append (es fs : List Event) : starts (es ++ fs) = starts es ++ starts fs :=
  List.filterMap_append

@[simp] theorem starts_cons_started (i : Nat) (es : List Event) :
    starts (started i :: es) = i :: starts es := rfl

@[simp] theorem starts_cons_rescued (i : Nat) (es : List Event) :
    starts (rescued i :: es) = starts es := rfl

/-- Coming to actions starts nobody. -/
@[simp] theorem starts_map_reached (i : Nat) (as : List Action) :
    starts (as.map (reached i)) = [] := by
  induction as with
  | nil => rfl
  | cons a as ih => exact ih

@[simp] theorem actionsAt_nil (i : Nat) : actionsAt i [] = [] := rfl

@[simp] theorem actionsAt_append (i : Nat) (es fs : List Event) :
    actionsAt i (es ++ fs) = actionsAt i es ++ actionsAt i fs :=
  List.filterMap_append

@[simp] theorem actionsAt_cons_started (i j : Nat) (es : List Event) :
    actionsAt i (started j :: es) = actionsAt i es := rfl

@[simp] theorem actionsAt_cons_rescued (i j : Nat) (es : List Event) :
    actionsAt i (rescued j :: es) = actionsAt i es := rfl

@[simp] theorem actionsAt_map_reached (i : Nat) (as : List Action) :
    actionsAt i (as.map (reached i)) = as := by
  induction as with
  | nil => rfl
  | cons a as ih => simpa [actionsAt, actionAt?] using ih

theorem actionsAt_map_reached_of_ne {i j : Nat} (h : j ≠ i) (as : List Action) :
    actionsAt i (as.map (reached j)) = [] := by
  induction as with
  | nil => rfl
  | cons a as ih => simp [actionsAt, actionAt?, h]

theorem start?_of_mem_map_reached {i : Nat} {as : List Action} {e : Event}
    (h : e ∈ as.map (reached i)) : e.start? = none := by
  obtain ⟨a, -, rfl⟩ := List.mem_map.mp h
  rfl

end Event

/-! ## 2. Courses -/

/-- What happens in a stretch of a run, and how the stretch ends. -/
structure Course where
  events : List Event
  ending : Ending

namespace Course

def still : Course := ⟨[], .returned⟩

def after (e : Event) (c : Course) : Course := ⟨e :: c.events, c.ending⟩

/-- A course, and another behind it if the first returns. -/
def andThen (c next : Course) : Course :=
  match c.ending with
  | .returned => ⟨c.events ++ next.events, next.ending⟩
  | _ => c

/-- A course for whose panic the handler at `i` answers. -/
def rescue (i : Nat) (c : Course) : Course :=
  match c.ending with
  | .panicked _ => ⟨c.events ++ [.rescued i], .returned⟩
  | _ => c

@[simp] theorem still_andThen (c : Course) : still.andThen c = c := rfl

@[simp] theorem after_events (e : Event) (c : Course) : (after e c).events = e :: c.events := rfl

@[simp] theorem after_ending (e : Event) (c : Course) : (after e c).ending = c.ending := rfl

theorem andThen_of_returned {c : Course} (h : c.ending = .returned) (next : Course) :
    c.andThen next = ⟨c.events ++ next.events, next.ending⟩ := by
  simp [andThen, h]

theorem andThen_of_not_returned {c : Course} (h : c.ending ≠ .returned) (next : Course) :
    c.andThen next = c := by
  unfold andThen
  split
  · exact absurd ‹_› h
  · rfl

/-! ## 3. Layers

`behind` is the course of the handlers behind the one at `i`.  They wait as long as they have
neither run nor been cut off by an abort: that is when proceeding has an effect. -/

section

variable (fails : Edit → Option Panic)

/-- What an action of the handler at `i` sets off. -/
def inside (i : Nat) (behind : Course) (waiting : Bool) (a : Action) : Course :=
  match a.panic? fails, a with
  | some p, _ => ⟨[], .panicked p⟩
  | none, .proceed => if waiting then behind else still
  | none, .guarded => if waiting then behind.rescue i else still
  | none, _ => still

/-- Whether the handlers behind wait once an action is over. -/
def waitsAfter (waiting : Bool) : Action → Bool
  | .proceed | .guarded | .abort _ => false
  | _ => waiting

/-- The course of a script.  Handlers that still wait at its end follow of themselves. -/
def layer (i : Nat) (behind : Course) : Bool → List Action → Course
  | waiting, [] => if waiting then behind else still
  | waiting, a :: as =>
    after (.reached i a)
      ((inside fails i behind waiting a).andThen (layer i behind (waitsAfter waiting a) as))

end

end Course

/-- The course of the handlers from the position `i` on. -/
def courseFrom (fails : Edit → Option Panic) : Nat → Chain → Course
  | _, [] => .still
  | i, h :: hs =>
    Course.after (.started i) (Course.layer fails i (courseFrom fails (i + 1) hs) true h.script)

def course (fails : Edit → Option Panic) (hs : Chain) : Course := courseFrom fails 0 hs

namespace Course

/-! ## 4. The two shapes of a layer -/

/-- The shape of a layer that keeps the handlers behind it from running: the part `done` of its
script and nothing else. -/
structure Alone (i : Nat) (waiting : Bool) (script done : List Action) (c : Course) : Prop where
  events_eq : c.events = done.map (.reached i)
  initial : done <+: script
  whole : c.ending = .returned → done = script
  cut : c.ending = .returned → waiting = true → ∃ code?, .abort code? ∈ done

/-- The shape of a layer around the handlers behind it: the part `before` of its script, their
course, perhaps an answer for its panic, and the part `later` of its script. -/
structure Around (i : Nat) (behind : Course) (script before : List Action)
    (answer : List Event) (later : List Action) (c : Course) : Prop where
  events_eq : c.events =
    before.map (.reached i) ++ (behind.events ++ (answer ++ later.map (.reached i)))
  unaborted : ∀ code?, .abort code? ∉ before
  answer_eq : answer = [] ∨ answer = [.rescued i]
  initial : before ++ later <+: script
  whole : c.ending = .returned → before ++ later = script
  settled : c.ending = .returned → behind.ending = .returned ∨ answer = [.rescued i]

variable {fails : Edit → Option Panic} {i : Nat} {behind c : Course} {waiting : Bool} {a : Action}
  {script done before later : List Action} {answer : List Event}

theorem Alone.cons (h : Alone i waiting script done c) :
    Alone i waiting (a :: script) (a :: done) (after (.reached i a) c) where
  events_eq := by simp [h.events_eq]
  initial := List.cons_prefix_cons.mpr ⟨rfl, h.initial⟩
  whole he := by rw [h.whole he]
  cut he hw := by
    obtain ⟨code?, hm⟩ := h.cut he hw
    exact ⟨code?, List.mem_cons_of_mem _ hm⟩

theorem Around.cons (h : Around i behind script before answer later c)
    (ha : ∀ code?, a ≠ .abort code?) :
    Around i behind (a :: script) (a :: before) answer later (after (.reached i a) c) where
  events_eq := by simp [h.events_eq]
  unaborted code? hm := by
    rcases List.mem_cons.mp hm with rfl | hm
    · exact ha code? rfl
    · exact h.unaborted code? hm
  answer_eq := h.answer_eq
  initial := List.cons_prefix_cons.mpr ⟨rfl, h.initial⟩
  whole he := by rw [List.cons_append, h.whole he]
  settled := h.settled

theorem inside_of_panic {p : Panic} (h : a.panic? fails = some p) (i : Nat) (behind : Course)
    (waiting : Bool) : inside fails i behind waiting a = ⟨[], .panicked p⟩ := by
  simp only [inside, h]

/-- Nothing comes of an action that neither panics nor lets handlers run. -/
theorem inside_still (h : a.panic? fails = none)
    (hquiet : waiting = false ∨ a ≠ .proceed ∧ a ≠ .guarded) :
    inside fails i behind waiting a = still := by
  simp only [inside, h]
  rcases hquiet with rfl | ⟨hproceed, hguarded⟩ <;> cases a <;> first | rfl | contradiction

/-- What an action sets off: its own panic, nothing, or what the handlers behind do. -/
theorem inside_cases (fails : Edit → Option Panic) (i : Nat) (behind : Course) (waiting : Bool)
    (a : Action) :
    (∃ p, a.panic? fails = some p ∧ inside fails i behind waiting a = ⟨[], .panicked p⟩) ∨
      a.panic? fails = none ∧ (inside fails i behind waiting a = still ∨
        inside fails i behind waiting a = behind ∨
        inside fails i behind waiting a = behind.rescue i) := by
  cases hpanic : a.panic? fails with
  | some p => exact Or.inl ⟨p, rfl, inside_of_panic hpanic i behind waiting⟩
  | none =>
    refine Or.inr ⟨rfl, ?_⟩
    cases a with
    | proceed => cases waiting <;> simp [inside, Action.panic?]
    | guarded => cases waiting <;> simp [inside, Action.panic?]
    | _ => exact Or.inl (inside_still hpanic (.inr ⟨by simp, by simp⟩))

/-- A panic is the last thing that happens in its layer. -/
theorem alone_panic {p : Panic} (h : a.panic? fails = some p) (i : Nat) (behind : Course)
    (waiting : Bool) (as : List Action) :
    Alone i waiting (a :: as) [a] (layer fails i behind waiting (a :: as)) := by
  have hlayer : layer fails i behind waiting (a :: as) = ⟨[.reached i a], .panicked p⟩ := by
    simp [layer, inside_of_panic h, andThen, after]
  rw [hlayer]
  exact ⟨rfl, List.cons_prefix_cons.mpr ⟨rfl, List.nil_prefix⟩, nofun, nofun⟩

/-- Handlers that have run or been cut off do not run again: the rest of the script is alone. -/
theorem layer_false_alone (fails : Edit → Option Panic) (i : Nat) (behind : Course)
    (as : List Action) : ∃ done, Alone i false as done (layer fails i behind false as) := by
  induction as with
  | nil =>
    refine ⟨[], rfl, List.prefix_refl _, fun _ => rfl, ?_⟩
    intro _ hw
    exact absurd hw (by simp)
  | cons a as ih =>
    obtain ⟨done, hd⟩ := ih
    cases hpanic : a.panic? fails with
    | some p => exact ⟨_, alone_panic hpanic i behind false as⟩
    | none =>
      have hwaits : waitsAfter false a = false := by cases a <;> rfl
      rw [layer, inside_still hpanic (.inl rfl), still_andThen, hwaits]
      exact ⟨_, hd.cons⟩

/-- An action that lets the handlers behind run: their course `inner`, answered for or not, comes
between it and the rest of the script. -/
theorem around_of_proceed (hguard : ∀ code?, a ≠ .abort code?) {inner : Course}
    (hinner : inner = behind ∨ inner = behind.rescue i) (as : List Action) :
    ∃ before answer later, Around i behind (a :: as) before answer later
      (after (.reached i a) (inner.andThen (layer fails i behind false as))) := by
  -- the answer is there exactly when `rescue` met a panic
  obtain ⟨answer, hev, hans, hset⟩ : ∃ answer, inner.events = behind.events ++ answer ∧
      (answer = [] ∨ answer = [.rescued i]) ∧
      (inner.ending = .returned → behind.ending = .returned ∨ answer = [.rescued i]) := by
    rcases hinner with rfl | rfl
    · exact ⟨[], by simp, Or.inl rfl, Or.inl⟩
    · cases he : behind.ending with
      | panicked p => exact ⟨[.rescued i], by simp [rescue, he], Or.inr rfl, fun _ => Or.inr rfl⟩
      | returned => exact ⟨[], by simp [rescue, he], Or.inl rfl, fun _ => Or.inl rfl⟩
      | unfinished => exact ⟨[], by simp [rescue, he], Or.inl rfl, by simp [rescue, he]⟩
  have huna : ∀ code?, Action.abort code? ∉ [a] := by
    intro code? hm
    exact hguard code? (List.mem_singleton.mp hm).symm
  by_cases he : inner.ending = .returned
  · obtain ⟨done, hd⟩ := layer_false_alone fails i behind as
    rw [andThen_of_returned he]
    refine ⟨[a], answer, done, ?_, huna, hans, ?_, ?_, fun _ => hset he⟩
    · simp [hev, hd.events_eq]
    · exact List.cons_prefix_cons.mpr ⟨rfl, hd.initial⟩
    · intro h
      rw [List.singleton_append, hd.whole h]
  · rw [andThen_of_not_returned he]
    refine ⟨[a], answer, [], ?_, huna, hans, ?_, ?_, ?_⟩
    · simp [hev]
    · exact List.cons_prefix_cons.mpr ⟨rfl, List.nil_prefix⟩
    · intro h; exact absurd h he
    · intro h; exact absurd h he

/-- An action that sets nothing off and does not abort leaves the shape of the rest. -/
theorem shape_cons (ha : ∀ code?, a ≠ .abort code?)
    (h : (∃ done, Alone i waiting script done c) ∨
      ∃ before answer later, Around i behind script before answer later c) :
    (∃ done, Alone i waiting (a :: script) done (after (.reached i a) c)) ∨
      ∃ before answer later,
        Around i behind (a :: script) before answer later (after (.reached i a) c) := by
  rcases h with ⟨done, hd⟩ | ⟨before, answer, later, hr⟩
  · exact Or.inl ⟨_, hd.cons⟩
  · exact Or.inr ⟨_, _, _, hr.cons ha⟩

/-- **A layer is alone or around the handlers behind it.** -/
theorem layer_shape (i : Nat) (behind : Course) (as : List Action) :
    (∃ done, Alone i true as done (layer fails i behind true as)) ∨
      ∃ before answer later,
        Around i behind as before answer later (layer fails i behind true as) := by
  induction as with
  | nil =>
    refine Or.inr ⟨[], [], [], ?_, by simp, Or.inl rfl, List.prefix_refl _, fun _ => rfl, Or.inl⟩
    simp [layer]
  | cons a as ih =>
    cases hpanic : a.panic? fails with
    | some p => exact Or.inl ⟨_, alone_panic hpanic i behind true as⟩
    | none =>
      cases a with
      | proceed => exact Or.inr (around_of_proceed (by simp) (Or.inl rfl) as)
      | guarded => exact Or.inr (around_of_proceed (by simp) (Or.inr rfl) as)
      | abort code? =>
        obtain ⟨done, hd⟩ := layer_false_alone fails i behind as
        refine Or.inl ⟨.abort code? :: done, ?_, hd.cons.initial, hd.cons.whole, ?_⟩
        · exact hd.cons.events_eq
        · intro _ _
          exact ⟨code?, List.mem_cons_self⟩
      | panic p => cases hpanic
      | edit e =>
        rw [layer, inside_still hpanic (.inr ⟨by simp, by simp⟩), still_andThen]
        exact shape_cons (by simp) ih
      | note p => exact shape_cons (by simp) ih

end Course

/-! ## 5. What a course keeps to -/

open Event Course

variable {fails : Edit → Option Panic} {i j : Nat} {hs : Chain}

/-- No action of a handler panics by itself. -/
def Calm (fails : Edit → Option Panic) (hs : Chain) : Prop :=
  ∀ h ∈ hs, ∀ a ∈ h.script, a.panic? fails = none

/-- What an action sets off returns, or ends as the handlers behind do, or with its own panic. -/
theorem inside_ending (i : Nat) (behind : Course) (waiting : Bool) (a : Action) :
    (inside fails i behind waiting a).ending = .returned ∨
      (inside fails i behind waiting a).ending = behind.ending ∨
      ∃ p, a.panic? fails = some p ∧ (inside fails i behind waiting a).ending = .panicked p := by
  rcases inside_cases fails i behind waiting a with ⟨p, hp, h⟩ | ⟨-, h | h | h⟩
  · exact Or.inr (Or.inr ⟨p, hp, by rw [h]⟩)
  · exact Or.inl (by rw [h]; rfl)
  · exact Or.inr (Or.inl (by rw [h]))
  · rw [h]
    cases hending : behind.ending with
    | panicked p => exact Or.inl (by simp [rescue, hending])
    | _ => exact Or.inr (Or.inl (by simp [rescue, hending]))

/-- A layer returns, or ends as the handlers behind it do, or with a panic of its script. -/
theorem layer_ending (i : Nat) (behind : Course) (as : List Action) (waiting : Bool) :
    (layer fails i behind waiting as).ending = .returned ∨
      (layer fails i behind waiting as).ending = behind.ending ∨
      ∃ a ∈ as, ∃ p, a.panic? fails = some p ∧
        (layer fails i behind waiting as).ending = .panicked p := by
  induction as generalizing waiting with
  | nil =>
    cases waiting with
    | true => exact Or.inr (Or.inl rfl)
    | false => exact Or.inl rfl
  | cons a as ih =>
    rw [layer, after_ending]
    by_cases hret : (inside fails i behind waiting a).ending = .returned
    · rw [andThen_of_returned hret]
      rcases ih (waitsAfter waiting a) with h | h | ⟨b, hb, p, hp, h⟩
      · exact Or.inl h
      · exact Or.inr (Or.inl h)
      · exact Or.inr (Or.inr ⟨b, List.mem_cons_of_mem _ hb, p, hp, h⟩)
    · rw [andThen_of_not_returned hret]
      rcases inside_ending i behind waiting a with h | h | ⟨p, hp, h⟩
      · exact absurd h hret
      · exact Or.inr (Or.inl h)
      · exact Or.inr (Or.inr ⟨a, List.mem_cons_self, p, hp, h⟩)

/-- **A course returns or ends with a panic of a script.** -/
theorem courseFrom_ending (fails : Edit → Option Panic) (i : Nat) (hs : Chain) :
    (courseFrom fails i hs).ending = .returned ∨
      ∃ h ∈ hs, ∃ a ∈ h.script, ∃ p, a.panic? fails = some p ∧
        (courseFrom fails i hs).ending = .panicked p := by
  induction hs generalizing i with
  | nil => exact Or.inl rfl
  | cons h hs ih =>
    rw [courseFrom, after_ending]
    rcases layer_ending i (courseFrom fails (i + 1) hs) h.script true with
      he | he | ⟨a, ha, p, hp, he⟩
    · exact Or.inl he
    · rcases ih (i + 1) with hb | ⟨b, hb, a, ha, p, hp, hbe⟩
      · exact Or.inl (he.trans hb)
      · exact Or.inr ⟨b, List.mem_cons_of_mem _ hb, a, ha, p, hp, he.trans hbe⟩
    · exact Or.inr ⟨h, List.mem_cons_self, a, ha, p, hp, he⟩

theorem courseFrom_finished (fails : Edit → Option Panic) (i : Nat) (hs : Chain) :
    (courseFrom fails i hs).ending ≠ .unfinished := by
  rcases courseFrom_ending fails i hs with h | ⟨_, _, _, _, p, _, h⟩ <;> rw [h] <;> simp

theorem courseFrom_returned (hcalm : Calm fails hs) :
    (courseFrom fails i hs).ending = .returned := by
  rcases courseFrom_ending fails i hs with h | ⟨h, hh, a, ha, p, hp, -⟩
  · exact h
  · exact absurd ((hcalm h hh a ha).symm.trans hp) (by simp)

theorem layer_returned {h : Handler} (hcalm : Calm fails (h :: hs)) :
    (layer fails i (courseFrom fails (i + 1) hs) true h.script).ending = .returned :=
  courseFrom_returned (i := i) hcalm

/-- **Handlers start in the order of the chain, each at most once.** -/
theorem starts_courseFrom (fails : Edit → Option Panic) (i : Nat) (hs : Chain) :
    ∃ k ≤ hs.length, starts (courseFrom fails i hs).events = List.range' i k := by
  induction hs generalizing i with
  | nil => exact ⟨0, Nat.le_refl _, rfl⟩
  | cons h hs ih =>
    rw [courseFrom, after_events, starts_cons_started]
    rcases layer_shape i (courseFrom fails (i + 1) hs) h.script with
      ⟨done, hd⟩ | ⟨before, answer, later, hr⟩
    · exact ⟨1, by simp, by rw [hd.events_eq, starts_map_reached]; rfl⟩
    · obtain ⟨k, hk, hstarts⟩ := ih (i + 1)
      refine ⟨k + 1, Nat.succ_le_succ hk, ?_⟩
      rw [hr.events_eq, List.range'_succ, ← hstarts]
      rcases hr.answer_eq with rfl | rfl <;> simp

/-- **Behind an abort nobody starts.** -/
theorem courseFrom_sealed (fails : Edit → Option Panic) (i : Nat) (hs : Chain) :
    (courseFrom fails i hs).events.Pairwise fun e f => e.Aborts → f.start? = none := by
  induction hs generalizing i with
  | nil => exact List.Pairwise.nil
  | cons h hs ih =>
    rw [courseFrom, after_events, List.pairwise_cons]
    refine ⟨fun f _ habort => absurd habort id, ?_⟩
    rcases layer_shape i (courseFrom fails (i + 1) hs) h.script with
      ⟨done, hd⟩ | ⟨before, answer, later, hr⟩
    · rw [hd.events_eq]
      exact List.pairwise_of_forall_mem_list fun _ _ f hf _ => start?_of_mem_map_reached hf
    · -- only the handlers behind start at all, and no action in front of them aborts
      have htail : ∀ f ∈ answer ++ later.map (reached i), f.start? = none := by
        intro f hf
        rcases List.mem_append.mp hf with hf | hf
        · rcases hr.answer_eq with rfl | rfl
          · exact absurd hf (by simp)
          · rw [List.mem_singleton.mp hf]; rfl
        · exact start?_of_mem_map_reached hf
      rw [hr.events_eq, List.pairwise_append, List.pairwise_append]
      refine ⟨?_, ⟨ih (i + 1), ?_, ?_⟩, ?_⟩
      · exact List.pairwise_of_forall_mem_list fun _ _ f hf _ =>
          start?_of_mem_map_reached hf
      · exact List.pairwise_of_forall_mem_list fun _ _ f hf _ => htail f hf
      · exact fun _ _ f hf _ => htail f hf
      · intro e he f _ habort
        obtain ⟨a, ha, rfl⟩ := List.mem_map.mp he
        cases a with
        | abort code? => exact absurd ha (hr.unaborted code?)
        | _ => exact absurd habort id

/-- **When nobody aborts, every handler starts.** -/
theorem starts_courseFrom_of_unaborted (hret : (courseFrom fails i hs).ending = .returned)
    (huna : ∀ e ∈ (courseFrom fails i hs).events, ¬ e.Aborts) :
    starts (courseFrom fails i hs).events = List.range' i hs.length := by
  induction hs generalizing i with
  | nil => rfl
  | cons h hs ih =>
    rw [courseFrom, after_events] at huna ⊢
    rw [courseFrom, after_ending] at hret
    have huna' := fun e he => huna e (List.mem_cons_of_mem _ he)
    rw [starts_cons_started, List.length_cons, List.range'_succ]
    rcases layer_shape i (courseFrom fails (i + 1) hs) h.script with
      ⟨done, hd⟩ | ⟨before, answer, later, hr⟩
    · obtain ⟨code?, hm⟩ := hd.cut hret rfl
      have he : reached i (.abort code?) ∈
          (layer fails i (courseFrom fails (i + 1) hs) true h.script).events := by
        rw [hd.events_eq]
        exact List.mem_map_of_mem hm
      exact absurd trivial (huna' _ he)
    · rw [hr.events_eq] at huna' ⊢
      -- an answer to a panic is an abort, so there is none
      have hans : answer = [] := by
        rcases hr.answer_eq with h | rfl
        · exact h
        · exact absurd trivial (huna' (.rescued i) (by simp))
      have hbehind : (courseFrom fails (i + 1) hs).ending = .returned := by
        rcases hr.settled hret with h | h
        · exact h
        · exact absurd (hans.symm.trans h) (by simp)
      have hstarts := ih hbehind fun e he => huna' e (by simp [he])
      simp [hstarts, hans]

/-- The handlers in front of a position have no part in its course. -/
theorem actionsAt_courseFrom_of_lt (hj : j < i) :
    actionsAt j (courseFrom fails i hs).events = [] := by
  induction hs generalizing i with
  | nil => rfl
  | cons h hs ih =>
    have hne : i ≠ j := Nat.ne_of_gt hj
    rw [courseFrom, after_events, actionsAt_cons_started]
    rcases layer_shape i (courseFrom fails (i + 1) hs) h.script with
      ⟨done, hd⟩ | ⟨before, answer, later, hr⟩
    · rw [hd.events_eq, actionsAt_map_reached_of_ne hne]
    · rw [hr.events_eq]
      have hb := ih (i := i + 1) (Nat.lt_succ_of_lt hj)
      rcases hr.answer_eq with rfl | rfl <;> simp [actionsAt_map_reached_of_ne hne, hb]

/-- **A handler that has started comes to its whole script, in order.** -/
theorem actionsAt_courseFrom (hcalm : Calm fails hs)
    (hj : j ∈ starts (courseFrom fails i hs).events) :
    ∃ h, hs[j - i]? = some h ∧ actionsAt j (courseFrom fails i hs).events = h.script := by
  induction hs generalizing i with
  | nil => exact absurd hj (by simp [courseFrom, still])
  | cons h hs ih =>
    have hcalm' : Calm fails hs := fun b hb => hcalm b (List.mem_cons_of_mem _ hb)
    have hret := layer_returned (i := i) hcalm
    rw [courseFrom, after_events, starts_cons_started] at hj
    rw [courseFrom, after_events, actionsAt_cons_started]
    rcases List.mem_cons.mp hj with rfl | hj
    · -- its own layer: the two stretches around the handlers behind make up the script
      refine ⟨h, by simp, ?_⟩
      rcases layer_shape j (courseFrom fails (j + 1) hs) h.script with
        ⟨done, hd⟩ | ⟨before, answer, later, hr⟩
      · rw [hd.events_eq, actionsAt_map_reached, hd.whole hret]
      · rw [hr.events_eq, ← hr.whole hret]
        have hb : actionsAt j (courseFrom fails (j + 1) hs).events = [] :=
          actionsAt_courseFrom_of_lt (Nat.lt_succ_self j)
        rcases hr.answer_eq with rfl | rfl <;> simp [hb]
    · -- further down: this layer comes to no action of the handlers behind it
      rcases layer_shape i (courseFrom fails (i + 1) hs) h.script with
        ⟨done, hd⟩ | ⟨before, answer, later, hr⟩
      · rw [hd.events_eq, starts_map_reached] at hj
        exact absurd hj (by simp)
      · rw [hr.events_eq] at hj ⊢
        have hjb : j ∈ starts (courseFrom fails (i + 1) hs).events := by
          rcases hr.answer_eq with rfl | rfl <;> simpa using hj
        obtain ⟨k, -, hk⟩ := starts_courseFrom fails (i + 1) hs
        have hlt : i < j := by
          rw [hk] at hjb
          exact (List.mem_range'_1.mp hjb).1
        obtain ⟨b, hb, hscript⟩ := ih hcalm' hjb
        have hidx : j - i = (j - (i + 1)) + 1 := by omega
        refine ⟨b, by rw [hidx, List.getElem?_cons_succ, hb], ?_⟩
        rw [← hscript]
        have hne : i ≠ j := Nat.ne_of_lt hlt
        rcases hr.answer_eq with rfl | rfl <;> simp [actionsAt_map_reached_of_ne hne]

/-- What the events of a chain keep to when nothing panics. -/
structure Orderly (hs : Chain) (events : List Event) : Prop where
  /-- Handlers start in the order of the chain, each at most once. -/
  in_order : ∃ k ≤ hs.length, starts events = List.range k
  /-- When nobody aborts, every handler starts, and exactly once. -/
  all_start : (∀ e ∈ events, ¬ e.Aborts) → starts events = List.range hs.length
  /-- Behind an abort nobody starts. -/
  closed : events.Pairwise fun e f => e.Aborts → f.start? = none
  /-- A handler that has started comes to its whole script, in order. -/
  finish : ∀ i ∈ starts events, ∃ h, hs[i]? = some h ∧ actionsAt i events = h.script

theorem course_orderly (hcalm : Calm fails hs) : Orderly hs (course fails hs).events where
  in_order := by
    obtain ⟨k, hk, hstarts⟩ := starts_courseFrom fails 0 hs
    exact ⟨k, hk, by rw [course, hstarts, List.range_eq_range']⟩
  all_start huna := by
    rw [course, starts_courseFrom_of_unaborted (courseFrom_returned hcalm) huna,
      List.range_eq_range']
  closed := courseFrom_sealed fails 0 hs
  finish i hi := actionsAt_courseFrom hcalm hi

end Chain
end Gatehouse
