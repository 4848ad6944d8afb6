import Mathlib.Data.List.Basic

/-! Texts joined by a separator. A field that does not contain the separator can
be read back from either end of the joined text. -/

namespace GenericIam.Separator

variable {α : Type}

/-- The first field of a joined text is determined when neither reading of it
contains the separator. -/
theorem head_inj {sep : α} {first second restFirst restSecond : List α}
    (leftFree : sep ∉ first) (rightFree : sep ∉ second)
    (same : first ++ sep :: restFirst = second ++ sep :: restSecond) :
    first = second ∧ restFirst = restSecond := by
  induction first generalizing second with
  | nil =>
    cases second with
    | nil => exact ⟨rfl, (List.cons.inj same).2⟩
    | cons letter tail =>
      have head : sep = letter := (List.cons.inj same).1
      exact absurd (head ▸ List.mem_cons_self) rightFree
  | cons letter tail ih =>
    cases second with
    | nil =>
      have head : letter = sep := (List.cons.inj same).1
      exact absurd (head ▸ List.mem_cons_self) leftFree
    | cons other rest =>
      obtain ⟨head, tails⟩ := List.cons.inj same
      have inner := ih (fun member => leftFree (List.mem_cons_of_mem _ member))
        (fun member => rightFree (List.mem_cons_of_mem _ member)) tails
      exact ⟨by rw [head, inner.1], inner.2⟩

/-- The same from the other end, for a last field free of the separator. -/
theorem last_inj {sep : α} {first second restFirst restSecond : List α}
    (leftFree : sep ∉ restFirst) (rightFree : sep ∉ restSecond)
    (same : first ++ sep :: restFirst = second ++ sep :: restSecond) :
    first = second ∧ restFirst = restSecond := by
  have reversed := congrArg List.reverse same
  simp only [List.reverse_append, List.reverse_cons, List.append_assoc,
    List.singleton_append] at reversed
  have inner := head_inj (by simpa using leftFree) (by simpa using rightFree) reversed
  exact ⟨List.reverse_injective inner.2, List.reverse_injective inner.1⟩

/-- Two different first fields with one joined text: one of them swallows a
separator and goes on. -/
theorem head_split {sep : α} {first second restFirst restSecond : List α}
    (same : first ++ sep :: restFirst = second ++ sep :: restSecond) (differ : first ≠ second) :
    (∃ tail, second = first ++ sep :: tail) ∨ ∃ tail, first = second ++ sep :: tail := by
  induction first generalizing second with
  | nil =>
    cases second with
    | nil => exact absurd rfl differ
    | cons letter tail =>
      have head : sep = letter := (List.cons.inj same).1
      exact .inl ⟨tail, by rw [head, List.nil_append]⟩
  | cons letter tail ih =>
    cases second with
    | nil =>
      have head : letter = sep := (List.cons.inj same).1
      exact .inr ⟨tail, by rw [head, List.nil_append]⟩
    | cons other rest =>
      obtain ⟨head, tails⟩ := List.cons.inj same
      rw [head] at differ ⊢
      rcases ih tails (fun equal => differ (by rw [equal])) with ⟨more, split⟩ | ⟨more, split⟩
      · exact .inl ⟨more, by rw [split, List.cons_append]⟩
      · exact .inr ⟨more, by rw [split, List.cons_append]⟩

/-- Splitting at one letter keeps every other letter. -/
theorem count_splitOn [DecidableEq α] {sep letter : α} (other : letter ≠ sep) (text : List α) :
    (text.splitOn sep).flatten.count letter = text.count letter := by
  induction text with
  | nil => simp
  | cons first rest ih =>
    rw [List.splitOn_cons_eq_if_modifyHead]
    by_cases split : first = sep
    · subst split
      simp [ih, Ne.symm other]
    · cases parts : rest.splitOn sep with
      | nil => exact absurd parts (List.splitOn_ne_nil _ _)
      | cons head tail =>
        rw [parts] at ih
        simp only [beq_iff_eq, split, if_false, List.modifyHead_cons,
          List.flatten_cons, List.cons_append,
          List.count_cons]
        rw [← ih, List.flatten_cons]

/-- A text has no separator, or it is a first field without one, the separator and a
shorter text. -/
theorem split_induction [DecidableEq α] (sep : α) {motive : List α → Prop}
    (last : ∀ text, sep ∉ text → motive text)
    (more : ∀ first rest, sep ∉ first → motive rest → motive (first ++ sep :: rest))
    (text : List α) : motive text := by
  by_cases inside : sep ∈ text
  · obtain ⟨first, rest, same, free⟩ := List.eq_append_cons_of_mem inside
    have shorter : rest.length < text.length := by
      rw [same, List.length_append, List.length_cons]
      omega
    rw [same]
    exact more first rest free (split_induction sep last more rest)
  · exact last text inside
termination_by text.length

/-- A field without the separator lies whole before every separator that follows it. -/
theorem prefix_field {sep : α} {field : List α} (free : sep ∉ field) (scope rest : List α) :
    scope ++ [sep] <+: field ++ rest ↔ ∃ inner, scope = field ++ inner ∧ inner ++ [sep] <+: rest := by
  induction field generalizing scope with
  | nil => simp
  | cons letter field ih =>
    have other : sep ≠ letter := fun same => free (same ▸ List.mem_cons_self)
    have later : sep ∉ field := fun member => free (List.mem_cons_of_mem _ member)
    cases scope with
    | nil => simp [List.cons_prefix_cons, other]
    | cons first scope =>
      simp only [List.cons_append, List.cons_prefix_cons, ih later, List.cons.injEq]
      constructor
      · intro holds
        obtain ⟨head, inner, tail, within⟩ := holds
        exact ⟨inner, ⟨head, tail⟩, within⟩
      · intro holds
        obtain ⟨inner, ⟨head, tail⟩, within⟩ := holds
        exact ⟨head, inner, tail, within⟩

theorem prefix_separator {sep : α} (scope rest : List α) :
    scope ++ [sep] <+: sep :: rest ↔ scope = [] ∨ ∃ inner, scope = sep :: inner ∧
      inner ++ [sep] <+: rest := by
  cases scope with
  | nil => simp [List.cons_prefix_cons]
  | cons letter scope =>
    simp only [List.cons_append, List.cons_prefix_cons, List.cons.injEq, reduceCtorEq, false_or]
    constructor
    · intro holds
      obtain ⟨head, within⟩ := holds
      exact ⟨scope, ⟨head, rfl⟩, within⟩
    · intro holds
      obtain ⟨inner, ⟨head, tail⟩, within⟩ := holds
      exact ⟨head, tail ▸ within⟩

theorem not_prefix_of_free {sep : α} {text : List α} (free : sep ∉ text) (scope : List α) :
    ¬ scope ++ [sep] <+: text := by
  intro within
  exact free (within.subset (by simp))

end GenericIam.Separator
