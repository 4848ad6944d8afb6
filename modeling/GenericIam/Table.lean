import Mathlib.Data.List.Find
import Mathlib.Data.List.Nodup
import Mathlib.Logic.Function.Basic

/-! Tables of rows with a primary key. A table carries the proof that no two of
its rows share a key, so that every lookup by key has at most one answer. -/

namespace GenericIam.Table

class Keyed (Row : Type) (Key : outParam Type) where
  key : Row → Key

export Keyed (key)

end GenericIam.Table

namespace GenericIam
open Table

structure Table (Row : Type) {Key : Type} [Keyed Row Key] where
  rows : List Row
  distinct : (rows.map key).Nodup

namespace Table

variable {Row Key : Type} [Keyed Row Key]

@[ext] theorem ext {first second : Table Row} (same : first.rows = second.rows) : first = second := by
  cases first
  cases second
  cases same
  rfl

def empty : Table Row := ⟨[], List.nodup_nil⟩

def findOne (table : Table Row) (where_ : Row → Bool) : Option Row := table.rows.find? where_

def find (table : Table Row) (where_ : Row → Bool) : List Row := table.rows.filter where_

def count (table : Table Row) (where_ : Row → Bool) : Nat := (table.find where_).length

def any (table : Table Row) (where_ : Row → Bool) : Bool := table.rows.any where_

/-- The rows a reader is shown; hidden rows keep their keys taken in the table itself. -/
def select (table : Table Row) (where_ : Row → Bool) : Table Row where
  rows := table.rows.filter where_
  distinct := table.distinct.sublist (List.filter_sublist.map key)

def insert [DecidableEq Key] (table : Table Row) (row : Row) : Option (Table Row) :=
  if fresh : key row ∉ table.rows.map key then
    some {
      rows := table.rows ++ [row]
      distinct := by
        rw [List.map_append, List.nodup_append]
        refine ⟨table.distinct, by simp, ?_⟩
        intro first member second last
        simp only [List.map_cons, List.map_nil, List.mem_singleton] at last
        intro same
        obtain rfl := same
        exact fresh (last ▸ member) }
  else none

def modify (table : Table Row) (where_ : Row → Bool) (change : Row → Row)
    (keeps : ∀ row, key (change row) = key row) : Table Row where
  rows := table.rows.map fun row => if where_ row then change row else row
  distinct := by
    have keys : (table.rows.map fun row => if where_ row then change row else row).map key =
        table.rows.map key := by
      rw [List.map_map]
      apply List.map_congr_left
      intro row _
      by_cases matched : where_ row = true
      · simp only [Function.comp, if_pos matched, keeps]
      · simp only [Function.comp, if_neg matched]
    rw [keys]
    exact table.distinct

instance : Membership Row (Table Row) := ⟨fun table row => row ∈ table.rows⟩

instance {table : Table Row} {holds : Row → Prop} [DecidablePred holds] :
    Decidable (∀ row ∈ table, holds row) :=
  inferInstanceAs (Decidable (∀ row ∈ table.rows, holds row))

instance {table : Table Row} {holds : Row → Prop} [DecidablePred holds] :
    Decidable (∃ row ∈ table, holds row) :=
  inferInstanceAs (Decidable (∃ row ∈ table.rows, holds row))

theorem mem_rows {table : Table Row} {row : Row} : row ∈ table ↔ row ∈ table.rows := Iff.rfl

@[simp] theorem not_mem_empty (row : Row) : row ∉ (empty : Table Row) := List.not_mem_nil

/-- Two rows of one table with the same key are the same row. -/
theorem eq_of_key_eq {table : Table Row} {first second : Row} (left : first ∈ table)
    (right : second ∈ table) (same : key first = key second) : first = second :=
  List.inj_on_of_nodup_map table.distinct left right same

@[simp] theorem mem_find {table : Table Row} {where_ : Row → Bool} {row : Row} :
    row ∈ table.find where_ ↔ row ∈ table ∧ where_ row = true := List.mem_filter

@[simp] theorem mem_select {table : Table Row} {where_ : Row → Bool} {row : Row} :
    row ∈ table.select where_ ↔ row ∈ table ∧ where_ row = true := List.mem_filter

theorem findOne_some {table : Table Row} {where_ : Row → Bool} {row : Row}
    (found : table.findOne where_ = some row) : row ∈ table ∧ where_ row = true :=
  ⟨List.mem_of_find?_eq_some found, List.find?_some found⟩

theorem findOne_none {table : Table Row} {where_ : Row → Bool} :
    table.findOne where_ = none ↔ ∀ row ∈ table, where_ row = false := by
  simp only [findOne, List.find?_eq_none, mem_rows, Bool.not_eq_true]

theorem findOne_congr {table : Table Row} {first second : Row → Bool}
    (same : ∀ row ∈ table, first row = second row) :
    table.findOne first = table.findOne second := List.find?_congr same

/-- Looking for the key of a row finds the row. -/
theorem findOne_of_mem {table : Table Row} {where_ : Row → Bool} {row : Row} (member : row ∈ table)
    (matched : where_ row = true) (single : ∀ other, where_ other = true → key other = key row) :
    table.findOne where_ = some row := by
  cases found : table.findOne where_ with
  | none =>
    have missed := findOne_none.mp found row member
    rw [matched] at missed
    cases missed
  | some other =>
    obtain ⟨present, hit⟩ := findOne_some found
    rw [eq_of_key_eq present member (single other hit)]

/-- A row by its key. -/
theorem findOne_key [DecidableEq Key] {table : Table Row} {id : Key} {row : Row} :
    table.findOne (fun other => key other == id) = some row ↔ row ∈ table ∧ key row = id := by
  constructor
  · intro found
    obtain ⟨member, matched⟩ := findOne_some found
    exact ⟨member, beq_iff_eq.mp matched⟩
  · intro present
    refine findOne_of_mem present.1 (beq_iff_eq.mpr present.2) fun other matched => ?_
    rw [present.2]
    exact beq_iff_eq.mp matched

theorem any_iff {table : Table Row} {where_ : Row → Bool} :
    table.any where_ = true ↔ ∃ row ∈ table, where_ row = true := List.any_eq_true

theorem count_eq_zero {table : Table Row} {where_ : Row → Bool} :
    table.count where_ = 0 ↔ ∀ row ∈ table, where_ row = false := by
  simp only [count, find, List.length_eq_zero_iff, List.filter_eq_nil_iff, mem_rows, Bool.not_eq_true]

theorem count_pos {table : Table Row} {where_ : Row → Bool} :
    0 < table.count where_ ↔ ∃ row ∈ table, where_ row = true := by
  rw [Nat.pos_iff_ne_zero, Ne, count_eq_zero]
  simp

theorem insert_some [DecidableEq Key] {table next : Table Row} {row : Row}
    (inserted : table.insert row = some next) :
    (∀ other ∈ table, key other ≠ key row) ∧ next.rows = table.rows ++ [row] := by
  unfold insert at inserted
  split at inserted
  next fresh =>
    cases inserted
    refine ⟨fun other member same => fresh ?_, rfl⟩
    exact List.mem_map.mpr ⟨other, member, same⟩
  next => cases inserted

theorem insert_isSome [DecidableEq Key] {table : Table Row} {row : Row} :
    (table.insert row).isSome = true ↔ ∀ other ∈ table, key other ≠ key row := by
  unfold insert
  split
  next fresh =>
    simp only [Option.isSome_some, true_iff]
    intro other member same
    exact fresh (List.mem_map.mpr ⟨other, member, same⟩)
  next taken =>
    simp only [not_not, List.mem_map] at taken
    obtain ⟨other, member, same⟩ := taken
    simp only [Option.isSome_none, Bool.false_eq_true, false_iff, not_forall]
    exact ⟨other, member, fun distinct => distinct same⟩

theorem mem_insert [DecidableEq Key] {table next : Table Row} {row other : Row}
    (inserted : table.insert row = some next) : other ∈ next ↔ other ∈ table ∨ other = row := by
  rw [mem_rows, (insert_some inserted).2, List.mem_append, List.mem_singleton, mem_rows]

theorem mem_modify {table : Table Row} {where_ : Row → Bool} {change : Row → Row}
    {keeps : ∀ row, key (change row) = key row} {row : Row} :
    row ∈ table.modify where_ change keeps ↔
      (row ∈ table ∧ where_ row = false) ∨ ∃ old ∈ table, where_ old = true ∧ change old = row := by
  simp only [mem_rows, modify, List.mem_map]
  constructor
  · intro holds
    obtain ⟨old, member, same⟩ := holds
    by_cases matched : where_ old = true
    · rw [if_pos matched] at same
      exact .inr ⟨old, member, matched, same⟩
    · rw [if_neg matched] at same
      subst same
      exact .inl ⟨member, by simpa using matched⟩
  · intro holds
    rcases holds with ⟨member, unmatched⟩ | ⟨old, member, matched, same⟩
    · exact ⟨row, member, by simp [unmatched]⟩
    · exact ⟨old, member, by rw [if_pos matched, same]⟩

theorem mem_insert_away [DecidableEq Key] {table later : Table Row} {row other : Row}
    (inserted : table.insert row = some later) (away : other ≠ row) :
    other ∈ later ↔ other ∈ table := by
  rw [mem_insert inserted]
  exact or_iff_left away

/-- A row that the condition does not pick out is there as before. -/
theorem mem_select_away {table : Table Row} {where_ : Row → Bool} {row : Row}
    (away : row ∈ table → where_ row = false → False) :
    row ∈ table.select where_ ↔ row ∈ table := by
  rw [mem_select]
  refine ⟨And.left, fun present => ⟨present, ?_⟩⟩
  by_contra missed
  exact away present (Bool.not_eq_true _ |>.mp missed)

theorem mem_modify_away {table : Table Row} {where_ : Row → Bool} {change : Row → Row}
    {keeps : ∀ row, key (change row) = key row} {row : Row}
    (away : ∀ old ∈ table, where_ old = true → old ≠ row ∧ change old ≠ row) :
    row ∈ table.modify where_ change keeps ↔ row ∈ table := by
  rw [mem_modify]
  constructor
  · intro holds
    rcases holds with ⟨present, _⟩ | ⟨old, present, hit, changed⟩
    · exact present
    · exact absurd changed (away old present hit).2
  · intro present
    refine .inl ⟨present, ?_⟩
    by_contra hit
    exact (away row present (Bool.not_eq_false _ |>.mp hit)).1 rfl

/-- Only one row is changed. -/
theorem mem_modify_one {table : Table Row} {where_ : Row → Bool} {change : Row → Row} {hit row : Row}
    (keeps : ∀ row, key (change row) = key row) (member : hit ∈ table) (matched : where_ hit = true)
    (only : ∀ other ∈ table, where_ other = true → key other = key hit) :
    row ∈ table.modify where_ change keeps ↔ (row ∈ table ∧ key row ≠ key hit) ∨ row = change hit := by
  rw [mem_modify]
  constructor
  · intro holds
    rcases holds with ⟨before, missed⟩ | ⟨old, before, accepted, rfl⟩
    · refine .inl ⟨before, fun same => ?_⟩
      rw [eq_of_key_eq before member same, matched] at missed
      cases missed
    · rw [eq_of_key_eq before member (only old before accepted)]
      exact .inr rfl
  · intro holds
    rcases holds with ⟨before, other⟩ | rfl
    · refine .inl ⟨before, ?_⟩
      cases accepted : where_ row with
      | false => rfl
      | true => exact absurd (only row before accepted) other
    · exact .inr ⟨hit, member, matched, rfl⟩

def Differs (before after : Table Row) (row : Row) : Prop := ¬(row ∈ after ↔ row ∈ before)

theorem not_differs {before after : Table Row} {row : Row} (same : after = before) :
    ¬Differs before after row := by
  intro differs
  exact differs (by rw [same])

theorem differs_select {table : Table Row} {where_ : Row → Bool} {row : Row}
    (differs : Differs table (table.select where_) row) :
    row ∈ table ∧ where_ row = false := by
  by_cases present : row ∈ table
  · refine ⟨present, ?_⟩
    by_contra kept
    rw [Bool.not_eq_false] at kept
    exact differs ⟨fun _ => present, fun _ => mem_select.mpr ⟨present, kept⟩⟩
  · exact absurd ⟨fun shown => (mem_select.mp shown).1, fun there => absurd there present⟩ differs

theorem select_select (table : Table Row) (first second : Row → Bool) :
    (table.select first).select second = table.select (fun row => first row && second row) := by
  apply Table.ext
  simp only [select, List.filter_filter, Bool.and_comm]

/-- A condition that only admits shown rows is answered alike with and without the hidden ones. -/
theorem find_select {table : Table Row} {shown where_ : Row → Bool}
    (within : ∀ row ∈ table, where_ row = true → shown row = true) :
    (table.select shown).find where_ = table.find where_ := by
  simp only [find, select, List.filter_filter]
  apply List.filter_congr
  intro row member
  cases matched : where_ row with
  | false => simp
  | true => simp [within row member matched]

theorem findOne_select {table : Table Row} {shown where_ : Row → Bool}
    (within : ∀ row ∈ table, where_ row = true → shown row = true) :
    (table.select shown).findOne where_ = table.findOne where_ := by
  have same := find_select within
  simp only [find] at same
  simp only [findOne, ← List.head?_filter, same]

/-! What a reader who is shown some of the rows makes of a statement on the whole table. -/

theorem any_select {table : Table Row} {shown where_ : Row → Bool}
    (within : ∀ row ∈ table, where_ row = true → shown row = true) :
    (table.select shown).any where_ = table.any where_ := by
  rw [Bool.eq_iff_iff, any_iff, any_iff]
  constructor
  · intro found
    obtain ⟨row, member, matched⟩ := found
    exact ⟨row, (mem_select.mp member).1, matched⟩
  · intro found
    obtain ⟨row, member, matched⟩ := found
    exact ⟨row, mem_select.mpr ⟨member, within row member matched⟩, matched⟩

theorem select_congr {table : Table Row} {first second : Row → Bool}
    (same : ∀ row ∈ table, first row = second row) : table.select first = table.select second := by
  apply Table.ext
  exact List.filter_congr same

theorem select_comm (table : Table Row) (first second : Row → Bool) :
    (table.select first).select second = (table.select second).select first := by
  rw [select_select, select_select]
  exact select_congr fun row _ => Bool.and_comm _ _

/-- Deleting hidden rows goes unseen. -/
theorem select_hidden {table : Table Row} {shown kept : Row → Bool}
    (spares : ∀ row ∈ table, shown row = true → kept row = true) :
    (table.select kept).select shown = table.select shown := by
  rw [select_select]
  apply select_congr
  intro row member
  cases visible : shown row with
  | false => rw [Bool.and_false]
  | true => rw [spares row member visible, Bool.and_true]

theorem insert_hidden [DecidableEq Key] {table next : Table Row} {row : Row} {shown : Row → Bool}
    (inserted : table.insert row = some next) (hidden : shown row = false) :
    next.select shown = table.select shown := by
  apply Table.ext
  simp [select, (insert_some inserted).2, hidden]

theorem insert_select [DecidableEq Key] {table : Table Row} {row : Row} {shown : Row → Bool}
    (visible : shown row = true)
    (taken : ∀ other ∈ table, key other = key row → shown other = true) :
    (table.insert row).map (fun next => next.select shown) = (table.select shown).insert row := by
  cases whole : table.insert row with
  | none =>
    cases part : (table.select shown).insert row with
    | none => rfl
    | some next =>
      have absent : ¬(table.insert row).isSome = true := by simp [whole]
      refine absurd (insert_isSome.mpr ?_) absent
      intro other member same
      exact (insert_some part).1 other (mem_select.mpr ⟨member, taken other member same⟩) same
  | some next =>
    have fresh : ((table.select shown).insert row).isSome = true := by
      apply insert_isSome.mpr
      intro other member
      exact (insert_some whole).1 other (mem_select.mp member).1
    obtain ⟨part, inserted⟩ := Option.isSome_iff_exists.mp fresh
    rw [inserted, Option.map_some]
    congr 1
    apply Table.ext
    simp [select, (insert_some whole).2, (insert_some inserted).2, visible]

/-- Tables that show the same show the same after one insert into both. -/
theorem insert_congr [DecidableEq Key] {table table' next next' : Table Row} {row : Row}
    {shown : Row → Bool} (same : table.select shown = table'.select shown)
    (inserted : table.insert row = some next) (inserted' : table'.insert row = some next') :
    next.select shown = next'.select shown := by
  have rows : table.rows.filter shown = table'.rows.filter shown := congrArg Table.rows same
  apply Table.ext
  simp only [select, (insert_some inserted).2, (insert_some inserted').2, List.filter_append, rows]

theorem modify_select {table : Table Row} {where_ shown : Row → Bool} {change : Row → Row}
    {keeps : ∀ row, key (change row) = key row}
    (visible : ∀ row ∈ table, where_ row = true → shown row = true ∧ shown (change row) = true) :
    (table.modify where_ change keeps).select shown =
      (table.select shown).modify where_ change keeps := by
  apply Table.ext
  simp only [select, modify, List.filter_map, Function.comp_def]
  congr 1
  apply List.filter_congr
  intro row member
  by_cases matched : where_ row = true
  · obtain ⟨before, after⟩ := visible row member matched
    rw [if_pos matched, before, after]
  · rw [if_neg matched]

theorem modify_hidden {table : Table Row} {where_ shown : Row → Bool} {change : Row → Row}
    {keeps : ∀ row, key (change row) = key row}
    (hidden : ∀ row ∈ table, where_ row = true → shown row = false ∧ shown (change row) = false) :
    (table.modify where_ change keeps).select shown = table.select shown := by
  apply Table.ext
  simp only [select, modify, List.filter_map, Function.comp_def]
  have same : table.rows.filter (fun row => shown (if where_ row = true then change row else row)) =
      table.rows.filter shown := by
    apply List.filter_congr
    intro row member
    by_cases matched : where_ row = true
    · obtain ⟨before, after⟩ := hidden row member matched
      rw [if_pos matched, before, after]
    · rw [if_neg matched]
  rw [same]
  have unchanged : ∀ row ∈ table.rows.filter shown,
      (if where_ row = true then change row else row) = row := by
    intro row member
    obtain ⟨present, visible⟩ := List.mem_filter.mp member
    apply if_neg
    intro matched
    rw [(hidden row present matched).1] at visible
    cases visible
  rw [List.map_congr_left unchanged, List.map_id']

end Table
end GenericIam
