import GenericIam.Runs

/-! Rights that are handed on. Where no step adds a right without the use of another one, all
that is new after a run goes back to rights that were there before it. -/

namespace GenericIam.Delegation
open Runs

variable {State Step Right : Type} {next : Step → State → State} {sound : Step → Prop}
  {keeps : State → Prop}
  {has : State → Right → Prop} {uses : Step → Right → Prop}

/-- Among the states that are kept to, a step adds rights only if one that it uses is there. -/
structure Delegates (next : Step → State → State) (sound : Step → Prop) (keeps : State → Prop)
    (has : State → Right → Prop)
    (uses : Step → Right → Prop) : Prop where
  kept : ∀ {step state}, sound step → keeps state → keeps (next step state)
  grown : ∀ {step state right}, sound step → keeps state → has (next step state) right →
    has state right ∨ ∃ used, uses step used ∧ has state used

/-- The first step that uses a right uses one that was there before the run. -/
theorem Delegates.run (delegates : Delegates next sound keeps has uses) {state : State}
    {steps : List Step} {right : Right} (start : keeps state) (every : ∀ step ∈ steps, sound step)
    (ended : has (final next state steps) right) :
    has state right ∨ ∃ step ∈ steps, ∃ used, uses step used ∧ has state used := by
  induction steps generalizing state with
  | nil => exact .inl ended
  | cons step rest ih =>
    have first : sound step := every step List.mem_cons_self
    have others : ∀ other ∈ rest, sound other := fun other member =>
      every other (List.mem_cons_of_mem _ member)
    -- a right that the next state has is an old one, or the step has used an old one
    have settled : ∀ {later : Step} {found : Right}, uses later found → later ∈ rest →
      has (next step state) found →
        ∃ step' ∈ step :: rest, ∃ used, uses step' used ∧ has state used := by
      intro later found taken member there
      rcases delegates.grown first start there with before | ⟨used, own, before⟩
      · exact ⟨later, List.mem_cons_of_mem _ member, found, taken, before⟩
      · exact ⟨step, List.mem_cons_self, used, own, before⟩
    rcases ih (delegates.kept first start) others ended with there | ⟨later, member,
      found, taken, there⟩
    · rcases delegates.grown first start there with before | ⟨used, own, before⟩
      · exact .inl before
      · exact .inr ⟨step, List.mem_cons_self, used, own, before⟩
    · exact .inr (settled taken member there)

end GenericIam.Delegation
