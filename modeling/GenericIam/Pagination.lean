import Mathlib.Data.List.Pairwise
import Mathlib.Data.List.Perm.Basic
import Mathlib.Data.List.Sort
import Mathlib.Order.Lattice

/-! Pages of rows that are ordered by a rank which several rows may share. Every page is
cut out of an order of its own, so the rows of one rank may stand differently each time. -/

namespace GenericIam.Pagination

section Order
variable {Row Rank : Type} [LinearOrder Rank] (rank : Row → Rank)

structure Arranges (rows order : List Row) : Prop where
  perm : order.Perm rows
  sorted : order.Pairwise fun first second => rank second ≤ rank first

def page (limit index : Nat) (order : List Row) : List Row := (order.drop (index * limit)).take limit

def pageCount (limit total : Nat) : Nat := (total + limit - 1) / limit

/-- How many rows stand above all rows of the rank of `row`, and how many down to the last of them. -/
def above (rows : List Row) (row : Row) : Nat := rows.countP fun other => decide (rank row < rank other)

def downTo (rows : List Row) (row : Row) : Nat :=
  rows.countP fun other => decide (rank row ≤ rank other)

/-- The rows of one rank all fall on one page. -/
def FitsPages (limit : Nat) (rows : List Row) : Prop :=
  ∀ row ∈ rows, above rank rows row / limit = (downTo rank rows row - 1) / limit

instance (limit : Nat) (rows : List Row) : Decidable (FitsPages rank limit rows) :=
  inferInstanceAs (Decidable (∀ row ∈ rows, _ = _))

variable {rank} {rows order front back : List Row} {row other : Row} {limit index : Nat}

theorem lt_pageCount {position total : Nat} (positive : 0 < limit) (within : position < total) :
    position / limit < pageCount limit total := by
  unfold pageCount
  rw [Nat.lt_div_iff_mul_lt positive]
  have below := Nat.div_mul_le_self position limit
  omega

theorem mem_page (positive : 0 < limit) :
    row ∈ page limit index order ↔ ∃ front back, order = front ++ row :: back ∧
      front.length / limit = index := by
  unfold page
  rw [List.mem_iff_getElem?]
  simp only [List.getElem?_take, List.getElem?_drop]
  constructor
  · intro holds
    obtain ⟨offset, found⟩ := holds
    split at found
    · next small =>
      obtain ⟨within, same⟩ := List.getElem?_eq_some_iff.mp found
      refine ⟨order.take (index * limit + offset), order.drop (index * limit + offset + 1), ?_, ?_⟩
      · rw [← same, List.getElem_cons_drop, List.take_append_drop]
      · rw [List.length_take, Nat.min_eq_left (Nat.le_of_lt within), Nat.mul_comm,
          Nat.mul_add_div positive,
          Nat.div_eq_of_lt small, Nat.add_zero]
    · cases found
  · intro holds
    obtain ⟨front, back, rfl, rfl⟩ := holds
    refine ⟨front.length % limit, ?_⟩
    rw [if_pos (Nat.mod_lt _ positive), Nat.mul_comm, Nat.div_add_mod]
    simp

theorem above_perm (same : order.Perm rows) (row : Row) :
    above rank order row = above rank rows row := same.countP_eq _

theorem downTo_perm (same : order.Perm rows) (row : Row) :
    downTo rank order row = downTo rank rows row := same.countP_eq _

/-- Where a row can stand. -/
theorem position_bounds
    (sorted : (front ++ row :: back).Pairwise fun first second => rank second ≤ rank first) :
    above rank (front ++ row :: back) row ≤ front.length ∧
      front.length < downTo rank (front ++ row :: back) row := by
  obtain ⟨-, behind, across⟩ := List.pairwise_append.mp sorted
  obtain ⟨lower, -⟩ := List.pairwise_cons.mp behind
  constructor
  · have none_below : (row :: back).countP (fun other => decide (rank row < rank other)) = 0 := by
      rw [List.countP_eq_zero]
      intro other member
      rcases List.mem_cons.mp member with rfl | later
      · simp
      · simpa using lower other later
    rw [above, List.countP_append, none_below, Nat.add_zero]
    exact List.countP_le_length
  · have all_above : front.countP (fun other => decide (rank row ≤ rank other)) = front.length := by
      rw [List.countP_eq_length]
      intro other member
      simpa using across other member row List.mem_cons_self
    rw [downTo, List.countP_append, all_above, List.countP_cons_of_pos (by simp)]
    omega

/-- The positions between the bounds are taken by the rows of the rank. -/
theorem rank_between
    (sorted : (front ++ other :: back).Pairwise fun first second => rank second ≤ rank first)
    (low : above rank (front ++ other :: back) row ≤ front.length)
    (high : front.length < downTo rank (front ++ other :: back) row) :
    rank other = rank row := by
  obtain ⟨-, behind, across⟩ := List.pairwise_append.mp sorted
  obtain ⟨lower, -⟩ := List.pairwise_cons.mp behind
  rcases lt_trichotomy (rank other) (rank row) with less | same | more
  · have none_below : (other :: back).countP (fun third => decide (rank row ≤ rank third)) = 0 := by
      rw [List.countP_eq_zero]
      intro third member
      rcases List.mem_cons.mp member with rfl | later
      · simpa using less
      · simpa using lt_of_le_of_lt (lower third later) less
    rw [downTo, List.countP_append, none_below, Nat.add_zero] at high
    exact absurd high (Nat.not_lt.mpr List.countP_le_length)
  · exact same
  · have all_above : front.countP (fun third => decide (rank row < rank third)) = front.length := by
      rw [List.countP_eq_length]
      intro third member
      simpa using lt_of_lt_of_le more (across third member other List.mem_cons_self)
    rw [above, List.countP_append, all_above, List.countP_cons_of_pos (by simpa using more)] at low
    omega

/-- Whatever the order, a page holds the rows that are its own. -/
theorem mem_page_of_fits (positive : 0 < limit) (fits : FitsPages rank limit rows)
    (arranged : Arranges rank rows order) :
    row ∈ page limit index order ↔ row ∈ rows ∧ above rank rows row / limit = index := by
  have placed : ∀ {front back}, order = front ++ row :: back →
      front.length / limit = above rank rows row / limit := by
    intro front back same
    obtain rfl := same
    obtain ⟨low, high⟩ := position_bounds arranged.sorted
    rw [above_perm arranged.perm] at low
    rw [downTo_perm arranged.perm] at high
    have member : row ∈ rows := arranged.perm.mem_iff.mp (by simp)
    refine Nat.le_antisymm ?_ (Nat.div_le_div_right low)
    rw [fits row member]
    exact Nat.div_le_div_right (by omega)
  rw [mem_page positive]
  constructor
  · intro holds
    obtain ⟨front, back, whole, here⟩ := holds
    exact ⟨arranged.perm.mem_iff.mp (by simp [whole]), (placed whole).symm.trans here⟩
  · intro holds
    obtain ⟨member, here⟩ := holds
    obtain ⟨front, back, whole⟩ := List.append_of_mem (arranged.perm.mem_iff.mpr member)
    exact ⟨front, back, whole, (placed whole).trans here⟩

/-- Sorting rows into compartments loses none and repeats none. -/
theorem flatMap_filter_perm (key : Row → Nat) (rows : List Row) (count : Nat) :
    ((List.range count).flatMap fun index => rows.filter fun row => key row == index).Perm
      (rows.filter fun row => decide (key row < count)) := by
  induction count with
  | zero => simp
  | succ count ih =>
    rw [List.range_succ, List.flatMap_append]
    have parted :=
      List.filter_append_perm (fun row => decide (key row < count)) (rows.filter fun row =>
      decide (key row < count + 1))
    refine List.Perm.trans ?_ parted
    rw [List.filter_filter, List.filter_filter]
    have lower : (rows.filter fun row => decide (key row < count) && decide (key row < count + 1)) =
        rows.filter fun row =>
      decide (key row < count) := by
      refine List.filter_congr fun row _ => ?_
      rw [Bool.eq_iff_iff]
      simp only [Bool.and_eq_true, decide_eq_true_eq]
      omega
    have last : (rows.filter fun row => !decide (key row < count) && decide (key row < count + 1)) =
        rows.filter fun row => key row == count := by
      refine List.filter_congr fun row _ => ?_
      rw [Bool.eq_iff_iff]
      simp only [Bool.and_eq_true, Bool.not_eq_true', decide_eq_true_eq,
        decide_eq_false_iff_not, beq_iff_eq]
      omega
    rw [lower, last, List.flatMap_singleton]
    exact ih.append_right _

def allPages (limit total : Nat) (orders : Nat → List Row) : List Row :=
  (List.range (pageCount limit total)).flatMap fun index => page limit index (orders index)

theorem nodup_page (nodup : rows.Nodup) (arranged : Arranges rank rows order) :
    (page limit index order).Nodup :=
  (arranged.perm.nodup_iff.mpr nodup).sublist ((List.take_sublist _ _).trans (List.drop_sublist _ _))

/-- Rows that fit the pages are all there, each once. -/
theorem allPages_perm (positive : 0 < limit) (nodup : rows.Nodup) (fits : FitsPages rank limit rows)
    {orders : Nat → List Row} (arranged : ∀ index, Arranges rank rows (orders index)) :
    (allPages limit rows.length orders).Perm rows := by
  have compartment : ∀ index,
      (page limit index (orders index)).Perm (rows.filter fun row =>
      above rank rows row / limit == index) := by
    intro index
    rw [List.perm_ext_iff_of_nodup (nodup_page nodup (arranged index)) (nodup.filter _)]
    intro row
    rw [mem_page_of_fits positive fits (arranged index), List.mem_filter, beq_iff_eq]
  have together := List.Perm.flatMap_left (List.range (pageCount limit rows.length)) fun index _ =>
    compartment index
  have kept :
      (rows.filter fun row => decide (above rank rows row / limit < pageCount limit rows.length)) =
      rows := by
    rw [List.filter_eq_self]
    intro row member
    refine decide_eq_true (lt_pageCount positive ?_)
    obtain ⟨front, back, whole⟩ := List.append_of_mem ((arranged 0).perm.mem_iff.mpr member)
    have low := (position_bounds (whole ▸ (arranged 0).sorted)).1
    rw [← whole, above_perm (arranged 0).perm] at low
    rw [← (arranged 0).perm.length_eq, whole]
    simp only [List.length_append, List.length_cons]
    omega
  have sorted :=
    flatMap_filter_perm (fun row => above rank rows row / limit) rows (pageCount limit rows.length)
  rw [kept] at sorted
  exact together.trans sorted

theorem arranges_mergeSort (rank : Row → Rank) (rows : List Row) :
    Arranges rank rows (rows.mergeSort fun first second => decide (rank second ≤ rank first)) := by
  refine ⟨List.mergeSort_perm rows _, ?_⟩
  have sorted : (rows.mergeSort fun first second => decide (rank second ≤ rank first)).Pairwise
      fun first second => decide (rank second ≤ rank first) = true := by
    refine List.pairwise_mergeSort ?_ ?_ rows
    · intro _ _ _ first second
      simp only [decide_eq_true_eq] at first second ⊢
      exact second.trans first
    · intro first second
      simpa using le_total (rank second) (rank first)
  simpa using sorted

theorem disjoint_pages {total first second : Nat} {orders : Nat → List Row}
    (nodup : (allPages limit total orders).Nodup) (left : first < pageCount limit total)
    (right : second < pageCount limit total) (differ : first ≠ second) :
    List.Disjoint (page limit first (orders first)) (page limit second (orders second)) := by
  have symmetric : Std.Symm (Function.onFun List.Disjoint fun index =>
    page limit index (orders index)) :=
    ⟨fun _ _ apart _ right left => apart left right⟩
  exact (List.nodup_flatMap.mp nodup).2.forall (List.mem_range.mpr left)
    (List.mem_range.mpr right) differ

/-- Two neighbours of one rank may change places. -/
theorem Arranges.swap {first second : Row}
    (arranged : Arranges rank rows (front ++ first :: second :: back))
    (same : rank first = rank second) :
    Arranges rank rows (front ++ second :: first :: back) := by
  refine ⟨((List.Perm.swap first second back).append_left front).trans arranged.perm, ?_⟩
  have sorted := arranged.sorted
  simp only [List.pairwise_append, List.pairwise_cons, List.mem_cons,
    forall_eq_or_imp, same] at sorted ⊢
  obtain ⟨before, ⟨⟨-, lower⟩, -, behind⟩, across⟩ := sorted
  exact ⟨before, ⟨⟨le_refl _, lower⟩, lower, behind⟩, across⟩

/-- Rows of one rank on both sides of the end of a page: one of them is shown on both pages
when the two orders place it differently. -/
theorem exists_repeated (positive : 0 < limit) (nodup : rows.Nodup)
    (straddles : ¬FitsPages rank limit rows) :
    ∃ orders : Nat → List Row, (∀ index, Arranges rank rows (orders index)) ∧
      ¬(allPages limit rows.length orders).Perm rows := by
  simp only [FitsPages, not_forall] at straddles
  obtain ⟨row, member, apart⟩ := straddles
  obtain ⟨order, arranged⟩ : ∃ order, Arranges rank rows order := ⟨_, arranges_mergeSort rank rows⟩
  obtain ⟨earlier, later, whole⟩ := List.append_of_mem (arranged.perm.mem_iff.mpr member)
  have bounds := position_bounds (whole ▸ arranged.sorted)
  rw [← whole, above_perm arranged.perm, downTo_perm arranged.perm] at bounds
  have fewer : downTo rank rows row ≤ order.length := by
    rw [← downTo_perm arranged.perm]
    exact List.countP_le_length
  -- The first end of a page after the rows above; rows of the rank stand on both sides of it.
  generalize ends : above rank rows row / limit = index at apart
  have low : above rank rows row ≤ index * limit + (limit - 1) := by
    have split := Nat.div_add_mod (above rank rows row) limit
    have small := Nat.mod_lt (above rank rows row) positive
    rw [ends, Nat.mul_comm] at split
    omega
  have high : index * limit + limit < downTo rank rows row := by
    have further : index < (downTo rank rows row - 1) / limit := by
      refine Nat.lt_of_le_of_ne ?_ apart
      rw [← ends]
      exact Nat.div_le_div_right (by omega)
    have within := (Nat.le_div_iff_mul_le positive).mp further
    rw [Nat.succ_mul] at within
    omega
  obtain ⟨front, first, second, back, parts, length⟩ : ∃ front first second back,
      order = front ++ first :: second :: back ∧ front.length = index * limit + (limit - 1) := by
    have inside : index * limit + (limit - 1) + 1 < order.length := by omega
    refine ⟨order.take (index * limit + (limit - 1)), order[index * limit + (limit - 1)],
      order[index * limit + (limit - 1) + 1],
      order.drop (index * limit + (limit - 1) + 1 + 1), ?_, ?_⟩
    · rw [List.getElem_cons_drop, List.getElem_cons_drop, List.take_append_drop]
    · rw [List.length_take]
      omega
  subst parts
  have regrouped : front ++ first :: second :: back = (front ++ [first]) ++ second :: back := by simp
  have before : rank first = rank row := by
    refine rank_between arranged.sorted ?_ ?_
    · rw [above_perm arranged.perm]
      omega
    · rw [downTo_perm arranged.perm]
      omega
  have after : rank second = rank row := by
    refine rank_between (regrouped ▸ arranged.sorted) ?_ ?_
    · rw [← regrouped, above_perm arranged.perm, List.length_append, List.length_singleton]
      omega
    · rw [← regrouped, downTo_perm arranged.perm, List.length_append, List.length_singleton]
      omega
  have swapped := arranged.swap (before.trans after.symm)
  have last_end : (index * limit + limit) / limit = index + 1 := by
    rw [← Nat.succ_mul, Nat.mul_div_cancel _ positive]
  have counted : index + 1 < pageCount limit rows.length := by
    rw [← last_end]
    refine lt_pageCount positive (Nat.lt_of_lt_of_le high ?_)
    rw [← arranged.perm.length_eq]
    exact fewer
  refine ⟨fun at_ => if at_ ≤ index then front ++ first :: second :: back
    else front ++ second :: first :: back, ?_, fun same => ?_⟩
  · intro at_
    dsimp only
    split
    · exact arranged
    · exact swapped
  · have apart :=
      disjoint_pages (same.nodup_iff.mpr nodup) (Nat.lt_of_succ_lt counted) counted
      (Nat.ne_of_lt (Nat.lt_succ_self index))
    rw [if_pos (Nat.le_refl index), if_neg (Nat.not_succ_le_self index)] at apart
    refine apart ((mem_page positive).mpr ⟨front, second :: back, rfl, ?_⟩)
      ((mem_page positive).mpr ⟨front ++ [second], back, by simp, ?_⟩)
    · rw [length, Nat.mul_comm, Nat.mul_add_div positive, Nat.div_eq_of_lt (by omega), Nat.add_zero]
    · rw [List.length_append, length, List.length_singleton, ← last_end]
      congr 1
      omega

/-- The pages show every row once, however the rows of one rank are ordered from page to
page, exactly when no rank reaches over the end of a page. -/
theorem pages_perm_iff (positive : 0 < limit) (nodup : rows.Nodup) :
    (∀ orders : Nat → List Row, (∀ index, Arranges rank rows (orders index)) →
      (allPages limit rows.length orders).Perm rows) ↔
      FitsPages rank limit rows := by
  constructor
  · intro complete
    by_contra straddles
    obtain ⟨orders, arranged, incomplete⟩ := exists_repeated positive nodup straddles
    exact incomplete (complete orders arranged)
  · intro fits orders arranged
    exact allPages_perm positive nodup fits arranged

end Order

end GenericIam.Pagination
