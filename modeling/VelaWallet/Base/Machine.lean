import Mathlib.Data.List.Induction
import Mathlib.Tactic.Common

/-!
# Event machines

A component that takes one event at a time, changes its state and answers with
effects for its shell to carry out.  What every step keeps, every reachable
state has.
-/

structure Machine (State Event Effect : Type) where
  init : State
  step : Event → State → State × List Effect

namespace Machine

variable {State Event Effect : Type} {machine : Machine State Event Effect}

variable {allowed : Event → State → Bool} {state : State} {holds : State → Prop}

/-- The states the machine can come to, by any events in any order. -/
inductive Reachable (machine : Machine State Event Effect) : State → Prop where
  | init : Reachable machine machine.init
  | step {state : State} (event : Event) :
      Reachable machine state → Reachable machine (machine.step event state).1

/-- What holds at the start and is kept by every step holds in every reachable
state. -/
theorem Reachable.invariant {holds : State → Prop} (initial : holds machine.init)
    (kept : ∀ event state, holds state → holds (machine.step event state).1) {state : State}
    (reachable : Reachable machine state) : holds state := by
  induction reachable with
  | init => exact initial
  | step event _ ih => exact kept event _ ih

inductive ReachableBy (machine : Machine State Event Effect) (allowed : Event → State → Bool) :
    State → Prop where
  | init : ReachableBy machine allowed machine.init
  | step {state : State} (event : Event) (fits : allowed event state = true) :
      ReachableBy machine allowed state → ReachableBy machine allowed (machine.step event state).1

/-- What holds at the start and is kept by every allowed step holds in every
state the allowed runs come to. -/
theorem ReachableBy.invariant {allowed : Event → State → Bool} {holds : State → Prop}
    (initial : holds machine.init)
    (kept : ∀ event state, allowed event state = true → holds state →
      holds (machine.step event state).1)
    {state : State} (reachable : ReachableBy machine allowed state) : holds state := by
  induction reachable with
  | init => exact initial
  | step event fits _ ih => exact kept event _ fits ih

/-- The state after the given events, the first one first. -/
def after (machine : Machine State Event Effect) (events : List Event) : State :=
  events.foldl (fun state event => (machine.step event state).1) machine.init

theorem reachable_after (events : List Event) : Reachable machine (machine.after events) := by
  have from_reachable : ∀ state, Reachable machine state →
      Reachable machine (events.foldl (fun state event => (machine.step event state).1) state) := by
    induction events with
    | nil =>
      intro state reachable
      exact reachable
    | cons event _ ih =>
      intro state reachable
      exact ih _ (reachable.step event)
  exact from_reachable _ .init

theorem after_append (events later : List Event) : machine.after (events ++ later) =
    later.foldl (fun state event => (machine.step event state).1) (machine.after events) :=
  List.foldl_append

theorem after_concat (events : List Event) (event : Event) :
    machine.after (events ++ [event]) = (machine.step event (machine.after events)).1 :=
  machine.after_append events [event]

/-- What holds at the end of a run began at one of its events, when it did not hold
at the start, and has held ever since. -/
theorem exists_begun {holds : State → Prop} {begins : Event → State → Prop}
    (start : ¬ holds machine.init)
    (kept : ∀ event state, holds (machine.step event state).1 → holds state ∨ begins event state)
    {events : List Event} (now : holds (machine.after events)) :
    ∃ before event later, events = before ++ event :: later ∧
      begins event (machine.after before) ∧
      ∀ part, part <+: later → holds (machine.after (before ++ event :: part)) := by
  induction events using List.reverseRecOn with
  | nil => exact absurd now start
  | append_singleton events last ih =>
    have reached := now
    rw [after_concat] at reached
    rcases kept last _ reached with held | begun
    · obtain ⟨before, event, later, split, begun, since⟩ := ih held
      refine ⟨before, event, later ++ [last], ?_, begun, ?_⟩
      · rw [split, List.append_assoc, List.cons_append]
      intro part within
      rcases List.prefix_concat_iff.mp within with rfl | earlier
      · rw [← List.cons_append, ← List.append_assoc, ← split]
        exact now
      · exact since part earlier
    · refine ⟨events, last, [], rfl, begun, ?_⟩
      intro part within
      rw [List.prefix_nil.mp within]
      exact now

/-- Every event of the list is allowed where it arrives. -/
def allows (machine : Machine State Event Effect) (allowed : Event → State → Bool) :
    State → List Event → Bool
  | _, [] => true
  | state, event :: events =>
    allowed event state && allows machine allowed (machine.step event state).1 events

theorem ReachableBy.after_allowed (events : List Event)
    (reachable : ReachableBy machine allowed state)
    (fits : machine.allows allowed state events = true) :
    ReachableBy machine allowed
      (events.foldl (fun state event => (machine.step event state).1) state) := by
  induction events generalizing state with
  | nil => exact reachable
  | cons event _ ih =>
    have both := Bool.and_eq_true_iff.mp fits
    exact ih (reachable.step event both.1) both.2

theorem reachableBy_after {allowed : Event → State → Bool} (events : List Event)
    (fits : machine.allows allowed machine.init events = true) :
    ReachableBy machine allowed (machine.after events) :=
  ReachableBy.init.after_allowed events fits

end Machine
