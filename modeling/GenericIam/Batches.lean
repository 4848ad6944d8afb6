import Mathlib.Tactic.Common
import Mathlib.Data.List.Basic

/-! Rows that are found under keys, and changes to them that are made one after the other: the
last change of a key decides what is found under it. -/

namespace GenericIam.Batches

variable {Row κ α : Type}

/-! One change. -/

section Change
variable (slot : Row → Option κ) (content : Row → α)

def Single (rows : Row → Prop) : Prop :=
  ∀ {key first second}, rows first → rows second → slot first = some key →
    slot second = some key → first = second

structure Sets (before : Row → Prop) (key : κ) (outcome : Option α) (after : Row → Prop) : Prop where
  single : ∀ {first second}, after first → after second → slot first = some key →
    slot second = some key → first = second
  filled : ∀ {value}, outcome = some value → ∃ row, after row ∧ slot row = some key ∧
    content row = value
  emptied : outcome = none → ∀ {row}, after row → slot row ≠ some key
  others : ∀ {row}, slot row ≠ some key → (after row ↔ before row)

variable {slot content} {before after : Row → Prop}

/-- The row with its content takes the place of whatever was found under its key. -/
theorem Sets.put {key : κ} {put : Row} (own : slot put = some key)
    (rows : ∀ row, after row ↔ (before row ∧ slot row ≠ some key) ∨ row = put) :
    Sets slot content before key (some (content put)) after := by
  have only : ∀ {row}, after row → slot row = some key → row = put := by
    intro row present here
    rcases (rows row).mp present with ⟨_, other⟩ | new
    · exact absurd here other
    · exact new
  constructor
  · intro first second left right here there
    rw [only left here, only right there]
  · intro value same
    exact ⟨put, (rows put).mpr (.inr rfl), own, Option.some.inj same⟩
  · intro impossible
    cases impossible
  · intro row other
    constructor
    · intro present
      rcases (rows row).mp present with ⟨old, _⟩ | rfl
      · exact old
      · exact absurd own other
    · exact fun old => (rows row).mpr (.inl ⟨old, other⟩)

theorem Sets.keep (single : Single slot before) {key : κ} {row : Row} (there : before row)
    (own : slot row = some key) :
    Sets slot content before key (some (content row)) before where
  single := single
  filled := fun same => ⟨row, there, own, Option.some.inj same⟩
  emptied := fun impossible => nomatch impossible
  others := fun _ => Iff.rfl

theorem Sets.drop {key : κ} (rows : ∀ row, after row ↔ before row ∧ slot row ≠ some key) :
    Sets slot content before key none after where
  single := fun left _ here _ => absurd here ((rows _).mp left).2
  filled := fun impossible => nomatch impossible
  emptied := fun _ _ present => ((rows _).mp present).2
  others := fun other => (rows _).trans ⟨fun both => both.1, fun old => ⟨old, other⟩⟩

end Change

/-! Changes one after the other. -/

variable [DecidableEq κ]

def last (changes : List (κ × α)) (key : κ) : Option α :=
  (changes.reverse.find? fun change => change.1 == key).map Prod.snd

@[simp] theorem last_nil (key : κ) : last ([] : List (κ × α)) key = none := rfl

theorem last_append (first second : List (κ × α)) (key : κ) :
    last (first ++ second) key = (last second key).or (last first key) := by
  simp only [last, List.reverse_append, List.find?_append]
  cases second.reverse.find? fun change => change.1 == key with
  | none => simp
  | some change => simp

theorem last_singleton (own key : κ) (value : α) :
    last [(own, value)] key = if own = key then some value else none := by
  by_cases same : own = key <;> simp [last, same]

theorem last_eq_none {changes : List (κ × α)} {key : κ} :
    last changes key = none ↔ ∀ change ∈ changes, change.1 ≠ key := by
  simp [last]

theorem last_map {β : Type} (changes : List (κ × α)) (f : α → β) (key : κ) :
    last (changes.map fun change => (change.1, f change.2)) key = (last changes key).map f := by
  simp only [last, ← List.map_reverse, List.find?_map, Option.map_map]
  rfl

/-- Changes that all do the same. -/
theorem last_map_const {ι : Type} (items : List ι) (keyOf : ι → κ) (value : α) (key : κ) :
    last (items.map fun item => (keyOf item, value)) key = if ∃ item ∈ items,
      keyOf item = key then some value else none := by
  split
  · next mentioned =>
    obtain ⟨item, member, same⟩ := mentioned
    cases found : last (items.map fun item => (keyOf item, value)) key with
    | none =>
      exact absurd same
        (last_eq_none.mp found (keyOf item, value) (List.mem_map.mpr ⟨item, member, rfl⟩))
    | some other =>
      obtain ⟨change, here, rfl⟩ := Option.map_eq_some_iff.mp found
      obtain ⟨_, _, rfl⟩ := List.mem_map.mp (List.mem_reverse.mp (List.mem_of_find?_eq_some here))
      rfl
  · next absent =>
    rw [last_eq_none]
    intro change member same
    obtain ⟨item, present, rfl⟩ := List.mem_map.mp member
    exact absent ⟨item, present, same⟩

section Changes
variable (slot : Row → Option κ) (content : Row → α)

structure Batch (before : Row → Prop) (changes : List (κ × Option α)) (after : Row → Prop) : Prop where
  single : Single slot after
  filled : ∀ {key value}, last changes key = some (some value) → ∃ row, after row ∧
    slot row = some key ∧ content row = value
  emptied : ∀ {key}, last changes key = some none → ∀ {row}, after row → slot row ≠ some key
  others : ∀ {row}, (∀ key, slot row = some key → last changes key = none) → (after row ↔ before row)

variable {slot content} {before mid after : Row → Prop} {changes : List (κ × Option α)}

theorem Batch.start (single : Single slot before) : Batch slot content before [] before where
  single := single
  filled := fun impossible => nomatch impossible
  emptied := fun impossible => nomatch impossible
  others := fun _ => Iff.rfl

/-- One more change. -/
theorem Batch.next (batch : Batch slot content before changes mid) {key : κ} {outcome : Option α}
    (sets : Sets slot content mid key outcome after) :
    Batch slot content before (changes ++ [(key, outcome)]) after := by
  have latest : ∀ other, last (changes ++ [(key, outcome)]) other = if key = other then some outcome
      else last changes other := by
    intro other
    rw [last_append, last_singleton]
    split <;> simp
  constructor
  · intro other first second left right own own'
    by_cases same : key = other
    · subst same
      exact sets.single left right own own'
    · have away : ∀ {row}, slot row = some other → slot row ≠ some key := fun here there =>
        same (Option.some.inj (there.symm.trans here))
      exact batch.single ((sets.others (away own)).mp left)
        ((sets.others (away own')).mp right) own own'
  · intro other value decided
    rw [latest] at decided
    split at decided
    · next same =>
      subst same
      exact sets.filled (Option.some.inj decided)
    · next different =>
      obtain ⟨row, there, own, holds⟩ := batch.filled decided
      refine ⟨row, (sets.others fun here => different ?_).mpr there, own, holds⟩
      exact Option.some.inj (here.symm.trans own)
  · intro other decided row there own
    rw [latest] at decided
    split at decided
    · next same =>
      subst same
      exact sets.emptied (Option.some.inj decided) there own
    · next different =>
      refine batch.emptied decided ((sets.others fun here => different ?_).mp there) own
      exact Option.some.inj (here.symm.trans own)
  · intro row untouched
    have away : slot row ≠ some key := by
      intro here
      have decided := untouched key here
      simp [latest] at decided
    refine (sets.others away).trans (batch.others fun other own => ?_)
    have decided := untouched other own
    rw [latest] at decided
    split at decided
    · cases decided
    · exact decided

/-- What is found under a key has been put there last, or has not been touched. -/
theorem Batch.found_iff (batch : Batch slot content before changes after) (key : κ) (value : α) :
    (∃ row, after row ∧ slot row = some key ∧ content row = value) ↔
      last changes key = some (some value) ∨ last changes key = none ∧ ∃ row, before row ∧
        slot row = some key ∧ content row = value := by
  cases decided : last changes key with
  | none =>
    have same : ∀ row, slot row = some key → (after row ↔ before row) := by
      intro row own
      refine batch.others fun other there => ?_
      rw [← Option.some.inj (own.symm.trans there)]
      exact decided
    constructor
    · intro holds
      obtain ⟨row, there, own, holds⟩ := holds
      exact .inr ⟨rfl, row, (same row own).mp there, own, holds⟩
    · intro holds
      rcases holds with impossible | ⟨_, row, there, own, holds⟩
      · cases impossible
      · exact ⟨row, (same row own).mpr there, own, holds⟩
  | some outcome =>
    cases outcome with
    | none =>
      refine iff_of_false ?_ ?_
      · intro holds
        obtain ⟨row, there, own, _⟩ := holds
        exact batch.emptied decided there own
      · rintro (impossible | ⟨impossible, _⟩) <;> cases impossible
    | some put =>
      obtain ⟨row, there, own, holds⟩ := batch.filled decided
      constructor
      · intro holds
        obtain ⟨other, present, own', holds'⟩ := holds
        have same : other = row := batch.single present there own' own
        subst same
        exact .inl (congrArg (fun value => some (some value)) (holds.symm.trans holds'))
      · intro holds
        rcases holds with same | ⟨impossible, _⟩
        · cases same
          exact ⟨row, there, own, holds⟩
        · cases impossible

end Changes
end GenericIam.Batches
