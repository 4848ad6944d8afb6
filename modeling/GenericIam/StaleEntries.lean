import GenericIam.Table
import GenericIam.Store
import Mathlib.Tactic.Common

/-! Partial maps that agree but for entries that have gone stale, and tables that are read
as partial maps through a field that no two rows share. -/

namespace GenericIam

namespace Store
variable {Key Value : Type}

def sweep (store : Store Key Value) (stale : Value → Bool) : Store Key Value :=
  fun key => (store key).filter fun value => !stale value

def SameFresh (stale : Value → Bool) (first second : Store Key Value) : Prop :=
  ∀ key value, stale value = false → (first key = some value ↔ second key = some value)

variable {stale later : Value → Bool} {first second : Store Key Value}

theorem sweep_some {key : Key} {value : Value} :
    first.sweep stale key = some value ↔ first key = some value ∧ stale value = false := by
  simp [sweep, Option.filter_eq_some_iff]

theorem SameFresh.refl (stale : Value → Bool) (store : Store Key Value) : SameFresh stale store store :=
  fun _ _ _ => Iff.rfl

/-- A sweep is not seen by those who pass over stale values. -/
theorem SameFresh.sweep (same : SameFresh stale first second) :
    SameFresh stale (first.sweep stale) second := by
  intro key value fresh
  rw [sweep_some, same key value fresh]
  exact and_iff_left fresh

/-- Values that are stale stay so. -/
theorem SameFresh.mono (same : SameFresh stale first second)
    (stays : ∀ value, stale value = true → later value = true) :
    SameFresh later first second := by
  intro key value fresh
  apply same key value
  cases old : stale value with
  | false => rfl
  | true =>
    rw [stays value old] at fresh
    cases fresh

theorem SameFresh.put [DecidableEq Key] (same : SameFresh stale first second) (key : Key)
    (value : Value) :
    SameFresh stale (first.put key value) (second.put key value) := by
  intro other held fresh
  by_cases own : other = key
  · subst own
    rw [put_self, put_self]
  · rw [put_other _ _ own, put_other _ _ own]
    exact same other held fresh

theorem SameFresh.removeWhere (same : SameFresh stale first second) (gone : Key → Bool) :
    SameFresh stale (first.removeWhere gone) (second.removeWhere gone) := by
  intro key value fresh
  rw [removeWhere_some, removeWhere_some]
  exact and_congr_right fun _ => same key value fresh

theorem removeWhere_absent [DecidableEq Key] {store : Store Key Value} {key : Key}
    (absent : store key = none) :
    (store.removeWhere fun other => decide (other = key)) = store := by
  funext other
  by_cases own : other = key
  · subst own
    simp [removeWhere, absent]
  · simp [removeWhere, own]

end Store

namespace Table
variable {Row Key Field Value : Type} [Keyed Row Key]

def Unique (field : Row → Field) (table : Table Row) : Prop :=
  ∀ row ∈ table, ∀ other ∈ table, field row = field other → row = other

section Unique
variable {field : Row → Field} {table later : Table Row} {row hit : Row}

theorem unique_insert [DecidableEq Key] (unique : Unique field table)
    (inserted : table.insert row = some later) (free : ∀ other ∈ table, field other ≠ field row) :
    Unique field later := by
  intro first left second right same
  rcases (mem_insert inserted).mp left with old | rfl
  · rcases (mem_insert inserted).mp right with old' | rfl
    · exact unique first old second old' same
    · exact absurd same (free first old)
  · rcases (mem_insert inserted).mp right with old' | rfl
    · exact absurd same.symm (free second old')
    · rfl

theorem Unique.subset (unique : Unique field table) (fewer : ∀ row ∈ later, row ∈ table) :
    Unique field later :=
  fun first left second right => unique first (fewer first left) second (fewer second right)

/-- A change of one row leaves its field alone. -/
theorem unique_modify {where_ : Row → Bool} {change : Row → Row} (unique : Unique field table)
    (keeps : ∀ row, key (change row) = key row) (member : hit ∈ table) (matched : where_ hit = true)
    (only : ∀ other ∈ table, where_ other = true → key other = key hit)
    (stays : field (change hit) = field hit) : Unique field (table.modify where_ change keeps) := by
  intro first left second right same
  rcases (mem_modify_one keeps member matched only).mp left with ⟨old, apart⟩ | rfl
  · rcases (mem_modify_one keeps member matched only).mp right with ⟨old', _⟩ | rfl
    · exact unique first old second old' same
    · exact absurd (congrArg key (unique first old hit member (same.trans stays))) apart
  · rcases (mem_modify_one keeps member matched only).mp right with ⟨old', apart⟩ | rfl
    · exact absurd (congrArg key (unique second old' hit member (same.symm.trans stays))) apart
    · rfl

end Unique

variable [DecidableEq Field]

def index (field : Row → Field) (content : Row → Value) (table : Table Row) : Store Field Value :=
  fun at_ => (table.findOne fun row => decide (field row = at_)).map content

variable {field : Row → Field} {content : Row → Value} {table later : Table Row}
  {row hit : Row} {at_ : Field}

theorem findOne_unique (unique : Unique field table) :
    table.findOne (fun row => decide (field row = at_)) = some row ↔ row ∈ table ∧ field row = at_ := by
  constructor
  · intro found
    obtain ⟨member, matched⟩ := findOne_some found
    exact ⟨member, by simpa using matched⟩
  · intro ⟨member, same⟩
    cases found : table.findOne fun row => decide (field row = at_) with
    | none => exact absurd (findOne_none.mp found row member) (by simp [same])
    | some other =>
      obtain ⟨present, matched⟩ := findOne_some found
      rw [unique other present row member ((of_decide_eq_true matched).trans same.symm)]

theorem index_some (unique : Unique field table) {value : Value} :
    index field content table at_ = some value ↔ ∃ row ∈ table, field row = at_ ∧
      content row = value := by
  simp only [index, Option.map_eq_some_iff, findOne_unique unique, and_assoc]

theorem index_none (free : ∀ row ∈ table, field row ≠ at_) : index field content table at_ = none := by
  rw [index, Option.map_eq_none_iff, findOne_none]
  exact fun row member => decide_eq_false (free row member)

/-- Tables with the same rows under each field have the same index. -/
theorem index_eq (unique : Unique field table) {store : Store Field Value}
    (same : ∀ at_ value, store at_ = some value ↔ ∃ row ∈ table, field row = at_ ∧
      content row = value) :
    index field content table = store := by
  funext at_
  apply Option.ext
  intro value
  rw [index_some unique]
  exact (same at_ value).symm

theorem index_insert [DecidableEq Key] (unique : Unique field table)
    (inserted : table.insert row = some later) (free : ∀ other ∈ table, field other ≠ field row) :
    index field content later = (index field content table).put (field row) (content row) := by
  apply index_eq (unique_insert unique inserted free)
  intro at_ value
  by_cases own : at_ = field row
  · subst own
    rw [Store.put_self]
    constructor
    · intro same
      exact ⟨row, (mem_insert inserted).mpr (.inr rfl), rfl, Option.some.inj same⟩
    · intro ⟨other, member, same, held⟩
      rcases (mem_insert inserted).mp member with old | rfl
      · exact absurd same (free other old)
      · rw [held]
  · rw [Store.put_other _ _ own, index_some unique]
    constructor
    · intro ⟨other, member, held⟩
      exact ⟨other, (mem_insert inserted).mpr (.inl member), held⟩
    · intro ⟨other, member, same, held⟩
      rcases (mem_insert inserted).mp member with old | rfl
      · exact ⟨other, old, same, held⟩
      · exact absurd same.symm own

theorem index_modify {where_ : Row → Bool} {change : Row → Row} (unique : Unique field table)
    (keeps : ∀ row, key (change row) = key row) (member : hit ∈ table) (matched : where_ hit = true)
    (only : ∀ other ∈ table, where_ other = true → key other = key hit)
    (stays : field (change hit) = field hit) :
    index field content (table.modify where_ change keeps) =
      (index field content table).put (field hit) (content (change hit)) := by
  have rows := fun row => @mem_modify_one _ _ _ table where_ change hit row keeps member matched only
  apply index_eq (unique_modify unique keeps member matched only stays)
  intro at_ value
  by_cases own : at_ = field hit
  · subst own
    rw [Store.put_self]
    constructor
    · intro same
      exact ⟨change hit, (rows _).mpr (.inr rfl), stays, Option.some.inj same⟩
    · intro ⟨other, present, same, held⟩
      rcases (rows _).mp present with ⟨old, apart⟩ | rfl
      · exact absurd (congrArg key (unique other old hit member same)) apart
      · rw [held]
  · rw [Store.put_other _ _ own, index_some unique]
    constructor
    · intro ⟨other, present, same, held⟩
      refine ⟨other, (rows _).mpr (.inl ⟨present, fun alike => ?_⟩), same, held⟩
      exact own (same.symm.trans (congrArg field (eq_of_key_eq present member alike)))
    · intro ⟨other, present, same, held⟩
      rcases (rows _).mp present with ⟨old, _⟩ | rfl
      · exact ⟨other, old, same, held⟩
      · exact absurd (same.symm.trans stays) own

/-- One row is removed. -/
theorem index_remove (unique : Unique field table) (member : hit ∈ table)
    (rest : ∀ row, row ∈ later ↔ row ∈ table ∧ row ≠ hit) :
    index field content later = (index field content table).removeWhere fun at_ =>
      decide (at_ = field hit) := by
  apply index_eq (unique.subset fun row present => ((rest row).mp present).1)
  intro at_ value
  rw [Store.removeWhere_some, decide_eq_false_iff_not, index_some unique]
  constructor
  · intro ⟨other, row, present, same, held⟩
    exact ⟨row, (rest row).mpr ⟨present, fun own => other (own ▸ same.symm)⟩, same, held⟩
  · intro ⟨row, present, same, held⟩
    obtain ⟨old, apart⟩ := (rest row).mp present
    exact ⟨fun own => apart (unique row old hit member (same.trans own)), row, old, same, held⟩

/-- The rows with stale contents are removed. -/
theorem index_sweep {stale : Value → Bool} (unique : Unique field table)
    (rest : ∀ row, row ∈ later ↔ row ∈ table ∧ stale (content row) = false) :
    index field content later = (index field content table).sweep stale := by
  apply index_eq (unique.subset fun row present => ((rest row).mp present).1)
  intro at_ value
  rw [Store.sweep_some, index_some unique]
  constructor
  · intro ⟨⟨row, present, same, held⟩, fresh⟩
    exact ⟨row, (rest row).mpr ⟨present, held ▸ fresh⟩, same, held⟩
  · intro ⟨row, present, same, held⟩
    obtain ⟨old, fresh⟩ := (rest row).mp present
    exact ⟨⟨row, old, same, held⟩, held ▸ fresh⟩

end Table
end GenericIam
