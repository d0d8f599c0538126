import Mathlib.Tactic.Common

/-!
# Processes

A component whose step may have no result, its runs with their histories, and the
history variables a proof adds to it.
-/

structure Process (State Event Output : Type) where
  init : State
  step : Event → State → Option (State × Output)

namespace Process

variable {State Event Output : Type} {process : Process State Event Output}
  {allowed : Event → State → Bool}

variable {history : List (Event × Output)} {events : List Event} {state : State}

/-- The runs whose every event is allowed where it arrives, with what happened so
far. -/
inductive Run (process : Process State Event Output) (allowed : Event → State → Bool) :
    List (Event × Output) → State → Prop where
  | init : Run process allowed [] process.init
  | step {history : List (Event × Output)} {event : Event} {state next : State} {output : Output}
      (run : Run process allowed history state) (fits : allowed event state = true)
      (stepped : process.step event state = some (next, output)) :
      Run process allowed (history ++ [(event, output)]) next

def unrestricted : Event → State → Bool := fun _ _ => true

/-- What holds at the start and is kept by every allowed step holds at the end of
every run. -/
theorem Run.invariant (holds : List (Event × Output) → State → Prop)
    (initial : holds [] process.init)
    (kept : ∀ {history event state next output}, allowed event state = true →
      process.step event state = some (next, output) → holds history state →
      holds (history ++ [(event, output)]) next)
    {history : List (Event × Output)} {state : State} (run : Run process allowed history state) :
    holds history state := by
  induction run with
  | init => exact initial
  | step _ fits stepped ih => exact kept fits stepped ih

theorem Run.state_invariant (holds : State → Prop) (initial : holds process.init)
    (kept : ∀ {event state next output}, allowed event state = true →
      process.step event state = some (next, output) → holds state → holds next)
    (run : Run process allowed history state) :
    holds state :=
  run.invariant (fun _ state => holds state) initial
    (fun fits stepped held => kept fits stepped held)

def playFrom (process : Process State Event Output) (allowed : Event → State → Bool) :
    List Event → List (Event × Output) × State → Option (List (Event × Output) × State)
  | [], reached => some reached
  | event :: events, (history, state) =>
    if allowed event state then
      match process.step event state with
      | none => none
      | some (next, output) =>
        playFrom process allowed events (history ++ [(event, output)], next)
    else none

def play (process : Process State Event Output) (allowed : Event → State → Bool)
    (events : List Event) : Option (List (Event × Output) × State) :=
  process.playFrom allowed events ([], process.init)

theorem Run.playFrom
    (run : Run process allowed history state) {reached : List (Event × Output) × State}
    (played : process.playFrom allowed events (history, state) = some reached) :
    Run process allowed reached.1 reached.2 := by
  induction events generalizing history state with
  | nil =>
    cases played
    exact run
  | cons _ _ ih =>
    unfold Process.playFrom at played
    split at played
    case isFalse => contradiction
    case isTrue fits =>
      split at played
      · contradiction
      · rename_i stepped
        exact ih (run.step fits stepped) played

theorem run_of_play {reached : List (Event × Output) × State}
    (played : process.play allowed events = some reached) :
    Run process allowed reached.1 reached.2 :=
  Run.init.playFrom played

theorem exists_run_of_play {events : List Event} {test : List (Event × Output) × State → Bool}
    (passes : (process.play allowed events).any test = true) :
    ∃ history state, Run process allowed history state ∧ test (history, state) = true := by
  rw [Option.any_eq_true] at passes
  obtain ⟨⟨history, state⟩, played, passed⟩ := passes
  exact ⟨history, state, run_of_play played, passed⟩

/-- The process with a variable that watches it: what it does is unchanged. -/
def watching {Ghost : Type} (process : Process State Event Output) (start : Ghost)
    (observe : Ghost → State → Event → State → Output → Ghost) :
    Process (State × Ghost) Event Output where
  init := (process.init, start)
  step event watched :=
    (process.step event watched.1).map fun (next, output) =>
      ((next, observe watched.2 watched.1 event next output), output)

section Watching

variable {Ghost : Type} {start : Ghost}
  {observe : Ghost → State → Event → State → Output → Ghost}

theorem watching_step {event : Event} {watched next : State × Ghost} {output : Output} :
    (process.watching start observe).step event watched = some (next, output) ↔
      process.step event watched.1 = some (next.1, output) ∧
        next.2 = observe watched.2 watched.1 event next.1 output := by
  obtain ⟨next, ghost⟩ := next
  simp only [watching, Option.map_eq_some_iff, Prod.mk.injEq, Prod.exists]
  constructor
  · rintro ⟨_, _, stepped, ⟨rfl, rfl⟩, rfl⟩
    exact ⟨stepped, rfl⟩
  · rintro ⟨stepped, rfl⟩
    exact ⟨_, _, stepped, ⟨rfl, rfl⟩, rfl⟩

end Watching

end Process
