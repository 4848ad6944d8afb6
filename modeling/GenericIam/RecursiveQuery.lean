import Mathlib.Data.List.Range
import Mathlib.Tactic.Common

/-! `WITH RECURSIVE … UNION ALL`: a working table that is joined with itself until it is
empty, and everything that was ever in it. -/

namespace GenericIam.RecursiveQuery

variable {Row : Type} (step : List Row → List Row)

def nthRound (start : List Row) : Nat → List Row
  | 0 => start
  | count + 1 => step (nthRound start count)

def evaluate : (fuel : Nat) → (working : List Row) → Option (List Row)
  | 0, _ => none
  | fuel + 1, working =>
      if working.isEmpty then some [] else (evaluate fuel (step working)).map fun rows =>
        working ++ rows

variable {step} {start : List Row}

theorem round_step (count : Nat) :
    nthRound step (step start) count = nthRound step start (count + 1) := by
  induction count with
  | zero => rfl
  | succ count ih =>
    rw [nthRound, ih]
    rfl

theorem round_nil (stops : step [] = []) (count : Nat) : nthRound step [] count = [] := by
  induction count with
  | zero => rfl
  | succ count ih => rw [nthRound, ih, stops]

/-- A query whose working table runs empty returns the rows of the rounds before. -/
theorem evaluate_eq (stops : step [] = []) {count fuel : Nat}
    (empty : nthRound step start count = []) (enough : count < fuel) :
    evaluate step fuel start = some ((List.range count).flatMap (nthRound step start)) := by
  induction count generalizing fuel start with
  | zero =>
    obtain ⟨fuel, rfl⟩ := Nat.exists_eq_add_of_lt enough
    have nothing : start = [] := empty
    simp [evaluate, nothing]
  | succ count ih =>
    obtain ⟨fuel, rfl⟩ : ∃ rest, fuel = rest + 1 := ⟨fuel - 1, by omega⟩
    by_cases nothing : start = []
    · subst nothing
      have rounds : (List.range (count + 1)).flatMap (nthRound step []) = [] := by
        rw [List.flatMap_eq_nil_iff]
        intro index _
        exact round_nil stops index
      simp [evaluate, rounds]
    · have rest := ih (by rw [round_step, empty]) (Nat.lt_of_succ_lt_succ enough)
      have rounds : (List.range (count + 1)).flatMap (nthRound step start) =
          start ++ (List.range count).flatMap (nthRound step (step start)) := by
        rw [List.range_succ_eq_map, List.flatMap_cons, List.flatMap_map]
        apply congrArg
        apply List.flatMap_congr
        intro index _
        exact (round_step index).symm
      have going : start.isEmpty = false := by simpa using nothing
      rw [evaluate, going, rest, rounds]
      rfl

/-- A query whose working table never runs empty does not return. -/
theorem evaluate_none (full : ∀ count, nthRound step start count ≠ []) (fuel : Nat) :
    evaluate step fuel start = none := by
  induction fuel generalizing start with
  | zero => rfl
  | succ fuel ih =>
    have going : start.isEmpty = false := by simpa [nthRound] using full 0
    have rest : evaluate step fuel (step start) = none := by
      apply ih
      intro count
      rw [round_step]
      exact full (count + 1)
    rw [evaluate, going, rest]
    rfl

end GenericIam.RecursiveQuery
