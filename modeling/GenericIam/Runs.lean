import Mathlib.Tactic.Common

/-! What holds of every step of a run, and what a run says of the same run with some of
its steps left out. -/

namespace GenericIam.Runs

variable {State Step : Type} {next : Step → State → State} {holds holds' : Step → State → Prop}

def final (next : Step → State → State) (state : State) (steps : List Step) : State :=
  steps.foldl (fun state step => next step state) state

def EveryStep (next : Step → State → State) (holds : Step → State → Prop) : State → List Step → Prop
  | _, [] => True
  | state, step :: rest => holds step state ∧ EveryStep next holds (next step state) rest

theorem everyStep_trivial (state : State) (steps : List Step) :
    EveryStep next (fun _ _ => True) state steps := by
  induction steps generalizing state with
  | nil => trivial
  | cons step rest ih => exact ⟨trivial, ih _⟩

theorem EveryStep.mono {state : State} {steps : List Step}
    (every : EveryStep next holds state steps)
    (weaker : ∀ step state, holds step state → holds' step state) :
    EveryStep next holds' state steps := by
  induction steps generalizing state with
  | nil => trivial
  | cons step rest ih => exact ⟨weaker step state every.1, ih every.2⟩

/-- What all steps of the list have in common may be added. -/
theorem EveryStep.joined {shared : Step → Prop} {state : State} {steps : List Step}
    (every : EveryStep next holds state steps) (all : ∀ step ∈ steps, shared step) :
    EveryStep next (fun step state => shared step ∧ holds step state) state steps := by
  induction steps generalizing state with
  | nil => trivial
  | cons step rest ih =>
    exact ⟨⟨all step List.mem_cons_self, every.1⟩, ih every.2 fun other member =>
      all other (List.mem_cons_of_mem _ member)⟩

theorem everyStep_congr {state : State} {steps : List Step}
    (same : ∀ step state, holds step state ↔ holds' step state) :
    EveryStep next holds state steps ↔ EveryStep next holds' state steps :=
  ⟨fun every => every.mono fun step state => (same step state).mp, fun every =>
    every.mono fun step state => (same step state).mpr⟩

/-- It is enough to compare the properties in the states that steps with the property keep to. -/
theorem everyStep_congr_of {invariant : State → Prop} {state : State} {steps : List Step}
    (start : invariant state)
    (same : ∀ step state, invariant state → (holds step state ↔ holds' step state))
    (keeps : ∀ step state, invariant state → holds step state → invariant (next step state)) :
    EveryStep next holds state steps ↔ EveryStep next holds' state steps := by
  induction steps generalizing state with
  | nil => exact Iff.rfl
  | cons step rest ih =>
    constructor
    · intro every
      exact ⟨(same step state start).mp every.1, (ih (keeps step state start every.1)).mp every.2⟩
    · intro every
      have first := (same step state start).mpr every.1
      exact ⟨first, (ih (keeps step state start first)).mpr every.2⟩

/-- What the steps with the property keep holds in the state after them. -/
theorem EveryStep.final {invariant : State → Prop} {state : State} {steps : List Step}
    (every : EveryStep next holds state steps) (start : invariant state)
    (keeps : ∀ step state, invariant state → holds step state → invariant (next step state)) :
    invariant (final next state steps) := by
  induction steps generalizing state with
  | nil => exact start
  | cons step rest ih => exact ih every.2 (keeps step state start every.1)

theorem final_append (state : State) (first second : List Step) :
    final next state (first ++ second) = final next (final next state first) second :=
  List.foldl_append

/-- The part of the state that each step leaves alone. -/
theorem final_keeps {Part : Type} {part : State → Part} {steps : List Step}
    (keeps : ∀ step ∈ steps, ∀ state, part (next step state) = part state)
    (state : State) : part (final next state steps) = part state := by
  induction steps generalizing state with
  | nil => rfl
  | cons step rest ih =>
    exact (ih (fun other member => keeps other (List.mem_cons_of_mem _ member)) _).trans
      (keeps step List.mem_cons_self state)

/-! An observer who looks at the state again and again while steps are taken. -/

section Observer

inductive Turn (Step : Type) where
  | takes (step : Step)
  | looks
  deriving DecidableEq

variable {View : Type} {look : State → View → View}

def Turn.play (next : Step → State → State) (look : State → View → View) :
    Turn Step → State × View → State × View
  | .takes step, (state, view) => (next step state, view)
  | .looks, (state, view) => (state, look state view)

theorem final_takes (state : State) (view : View) (steps : List Step) :
    final (Turn.play next look) (state, view) (steps.map .takes) = (final next state steps, view) := by
  induction steps generalizing state with
  | nil => rfl
  | cons step rest ih => exact ih (next step state)

/-- The first look, unless there is none. -/
theorem look_cases (turns : List (Turn Step)) :
    (∃ steps : List Step, turns = steps.map .takes) ∨
      ∃ (steps : List Step) (rest : List (Turn Step)), turns = steps.map .takes ++ .looks :: rest := by
  induction turns with
  | nil => exact .inl ⟨[], rfl⟩
  | cons turn rest ih =>
    cases turn with
    | looks => exact .inr ⟨[], rest, rfl⟩
    | takes step =>
      rcases ih with ⟨steps, rfl⟩ | ⟨steps, later, rfl⟩
      · exact .inl ⟨step :: steps, rfl⟩
      · exact .inr ⟨step :: steps, later, rfl⟩

/-- What the observer knows has changed, so there has been a look. -/
theorem first_look {turns : List (Turn Step)} {state : State} {view : View}
    (learnt : (final (Turn.play next look) (state, view) turns).2 ≠ view) :
    ∃ (steps : List Step) (rest : List (Turn Step)), turns = steps.map .takes ++ .looks :: rest ∧
      final (Turn.play next look) (state, view) turns =
        final (Turn.play next look) (final next state steps,
          look (final next state steps) view) rest := by
  rcases look_cases turns with ⟨steps, rfl⟩ | ⟨steps, rest, rfl⟩
  · rw [final_takes] at learnt
    exact absurd rfl learnt
  · refine ⟨steps, rest, rfl, ?_⟩
    rw [final_append, final_takes]
    rfl

end Observer

/-! Two runs, one of which leaves out the steps that are not kept. -/

section Unwinding
variable {Output : Type} {answer : Step → State → Option Output} {kept : Step → Bool}
  {related : List Step → State → State → Prop}

def answers (next : Step → State → State) (answer : Step → State → Option Output) :
    State → List Step → List Output
  | _, [] => []
  | state, step :: rest => (answer step state).toList ++ answers next answer (next step state) rest

/-- States that are related by the steps to come: a step that is kept gives the same
answer in both and leaves related states behind, and one that is left out gives no answer
and leaves its state related to the one that does not take it. -/
structure Unwinding (next : Step → State → State) (answer : Step → State → Option Output)
    (holds : Step → State → Prop)
    (kept : Step → Bool) (related : List Step → State → State → Prop) : Prop where
  takes : ∀ {step rest state state'}, kept step = true → holds step state →
    related (step :: rest) state state' →
    answer step state = answer step state' ∧ related rest (next step state) (next step state')
  skips : ∀ {step rest state state'}, kept step = false → holds step state →
    related (step :: rest) state state' →
    answer step state = none ∧ related rest (next step state) state'

/-- No answer tells the run from the one without the steps that are left out. -/
theorem Unwinding.run (unwinding : Unwinding next answer holds kept related) {steps : List Step}
    {state state' : State} (every : EveryStep next holds state steps)
    (start : related steps state state') :
    answers next answer state steps = answers next answer state' (steps.filter kept) ∧
      related [] (final next state steps) (final next state' (steps.filter kept)) := by
  induction steps generalizing state state' with
  | nil => exact ⟨rfl, start⟩
  | cons step rest ih =>
    cases taken : kept step with
    | true =>
      obtain ⟨same, later⟩ := unwinding.takes taken every.1 start
      obtain ⟨answered, ended⟩ := ih every.2 later
      rw [List.filter_cons_of_pos taken]
      refine ⟨?_, ended⟩
      simp only [answers, same, answered]
    | false =>
      obtain ⟨silent, later⟩ := unwinding.skips taken every.1 start
      obtain ⟨answered, ended⟩ := ih every.2 later
      rw [List.filter_cons_of_neg (by rw [taken]; exact Bool.false_ne_true)]
      refine ⟨?_, ended⟩
      simp only [answers, silent, Option.toList_none, List.nil_append]
      exact answered

end Unwinding
end GenericIam.Runs
