import GenericIam.Runs

/-! Runs that keep their past: what a step may rest on is what earlier steps have done. -/

namespace GenericIam.Chronicles
open Runs

/-- The state and the steps that have led to it, each with the state that it was taken in. -/
structure Chronicle (State Step : Type) where
  state : State
  past : List (Step × State) := []

variable {State Step : Type} {next : Step → State → State} {holds holds' : Step → State → Prop}

def record (next : Step → State → State) (step : Step) (chronicle : Chronicle State Step) :
    Chronicle State Step where
  state := next step chronicle.state
  past := chronicle.past ++ [(step, chronicle.state)]

/-- What the steps with the property keep may be used at each of them. -/
theorem everyStep_along {invariant : State → Prop} {state : State} {steps : List Step}
    (every : EveryStep next holds state steps) (start : invariant state)
    (keeps : ∀ step state, invariant state → holds step state → invariant (next step state)) :
    EveryStep next (fun step state => invariant state ∧ holds step state) state steps := by
  induction steps generalizing state with
  | nil => trivial
  | cons step rest ih => exact ⟨⟨start, every.1⟩, ih every.2 (keeps step state start every.1)⟩

/-- The rest of the run. -/
theorem everyStep_drop {state : State} {before rest : List Step}
    (every : EveryStep next holds state (before ++ rest)) :
    EveryStep next holds (final next state before) rest := by
  induction before generalizing state with
  | nil => exact every
  | cons first others ih => exact ih every.2

theorem everyStep_and {state : State} {steps : List Step} (every : EveryStep next holds state steps)
    (every' : EveryStep next holds' state steps) :
    EveryStep next (fun step state => holds step state ∧ holds' step state) state steps := by
  induction steps generalizing state with
  | nil => trivial
  | cons step rest ih => exact ⟨⟨every.1, every'.1⟩, ih every.2 every'.2⟩

theorem everyStep_mem {state : State} {steps : List Step} {step : Step}
    (every : EveryStep next holds state steps) (member : step ∈ steps) :
    ∃ before after, steps = before ++ step :: after ∧ holds step (final next state before) := by
  obtain ⟨before, after, split⟩ := List.append_of_mem member
  rw [split] at every
  exact ⟨before, after, split, (everyStep_drop every).1⟩

end GenericIam.Chronicles
