import GenericIam.ReadCommitted
import Mathlib.Data.List.Induction

/-! Entities that are loaded, changed in memory and saved under READ COMMITTED, where a save
reads the row again and writes the columns in which the entity differs from it. -/

namespace GenericIam.SavedChanges
open Transaction ReadCommitted

/-! Columns. -/

section Columns
variable {Column : Type} {Value : Column → Type}

abbrev Change (Value : Column → Type) := (column : Column) → Option (Value column)

def Change.on (change : Change Value) (row : (column : Column) → Value column)
    (column : Column) : Value column :=
  (change column).getD (row column)

def difference [∀ column, DecidableEq (Value column)]
    (stored entity : (column : Column) → Value column) : Change Value := fun column =>
  if stored column = entity column then none else some (entity column)

def applyAll (row : (column : Column) → Value column) (changes : List (Change Value)) :
    (column : Column) → Value column :=
  changes.foldl (fun row change => change.on row) row

theorem applyAll_append (row : (column : Column) → Value column) (changes : List (Change Value))
    (change : Change Value) :
    applyAll row (changes ++ [change]) = change.on (applyAll row changes) := by
  unfold applyAll
  rw [List.foldl_append]
  rfl

/-- A column has the value that the last change gave it which mentioned it. -/
theorem applyAll_last (row : (column : Column) → Value column) (changes : List (Change Value))
    (column : Column) :
    applyAll row changes column = ((changes.filterMap fun change => change column).getLast?).getD
      (row column) := by
  induction changes using List.reverseRecOn with
  | nil => rfl
  | append_singleton changes change ih =>
    rw [applyAll_append, List.filterMap_append]
    unfold Change.on
    cases mentioned : change column with
    | none => simp [mentioned, ih]
    | some value => simp [mentioned]

variable [∀ column, DecidableEq (Value column)]

/-- When a save has the effect of the change that was made to the entity: the columns that
it takes back have their loaded values again by then, and those that had their new values
already still have them. -/
theorem save_eq_iff {change : Change Value} {loaded stored current : (column : Column) → Value column} :
    (difference stored (change.on loaded)).on current = change.on current ↔
      (∀ column, change column = none → stored column ≠ loaded column →
        current column = loaded column) ∧
        ∀ column value, change column = some value → stored column = value →
          current column = value := by
  constructor
  · intro same
    constructor
    · intro column unmentioned differs
      have here := congrFun same column
      simp only [Change.on, difference, unmentioned, Option.getD_none, if_neg differs,
        Option.getD_some] at here
      exact here.symm
    · intro column value mentioned already
      have here := congrFun same column
      simp only [Change.on, difference, mentioned, Option.getD_some, if_pos already,
        Option.getD_none] at here
      exact here
  · intro kept
    obtain ⟨restored, still⟩ := kept
    funext column
    cases mentioned : change column with
    | none =>
      by_cases same : stored column = loaded column
      · simp only [Change.on, difference, mentioned, same, Option.getD_none, if_true]
      · simp only [Change.on, difference, mentioned, Option.getD_none, if_neg same, Option.getD_some]
        exact (restored column mentioned same).symm
    | some value =>
      by_cases same : stored column = value
      · simp only [Change.on, difference, mentioned, same, Option.getD_some, if_true, Option.getD_none]
        exact still column value mentioned same
      · simp only [Change.on, difference, mentioned, Option.getD_some, if_neg same]

end Columns

/-! Requests that save one row. -/

structure Entity (E : Effects) (Db : Type) {Column : Type} (Value : Column → Type) where
  Row : Type
  Fixed : Type
  find : Db → Option Row
  seen : E.View → Option Row
  fixed : Row → Fixed
  columns : Row → (column : Column) → Value column
  update : Change Value → E.Stmt
  /-- Statements over another connection that leave the row alone. -/
  aside : E.Stmt → Prop

structure Access {E : Effects} {Db Column : Type} {Value : Column → Type} (entity : Entity E Db Value)
    (engine : Engine E Db) where
  shows : entity.Fixed → Prop
  seen_view : ∀ {db row}, entity.seen (engine.view db) = some row ↔ entity.find db = some row ∧
    shows (entity.fixed row)
  updated : ∀ {change db db' row}, engine.apply (entity.update change) db = .ok db' →
    entity.find db = some row → shows (entity.fixed row) →
    ∃ row', entity.find db' = some row' ∧ entity.fixed row' = entity.fixed row ∧
      entity.columns row' = change.on (entity.columns row)
  aside_find : ∀ {stmt db db'}, entity.aside stmt → engine.applyDetached stmt db = .ok db' →
    entity.find db' = entity.find db

section Programs
variable {E : Effects} {Db Column : Type} {Value : Column → Type} [∀ column, DecidableEq (Value column)]
  (entity : Entity E Db Value)

def Tail : Program E Unit → Prop
  | .pure _ | .throw _ => True
  | .emit _ next => Tail next
  | .detached stmt next => entity.aside stmt ∧ ∀ answer, Tail (next answer)
  | _ => False

def Writes (change : Change Value) (program : Program E Unit) : Prop :=
  ∃ next, program = .write (entity.update change) next ∧ Tail entity (next none) ∧
    ∀ why, ∃ error, next (some why) = .throw error

def Rereads (row : (column : Column) → Value column) (program : Program E Unit) : Prop :=
  ∃ next, program = .read next ∧ ∀ {view stored}, entity.seen view = some stored →
    Writes entity (difference (entity.columns stored) row) (next view)

def Loads (change : Change Value) (program : Program E Unit) : Prop :=
  ∃ next, program = .read next ∧ ∀ view, (∃ error, next view = .throw error) ∨
    ∃ loaded, entity.seen view = some loaded ∧
      Rereads entity (change.on (entity.columns loaded)) (next view)

end Programs

section Requests
variable {E : Effects} {Db Kind Column : Type} {Value : Column → Type}
  [∀ column, DecidableEq (Value column)]
  {entity : Entity E Db Value} {engine : Kind → Engine E Db} (access : ∀ kind,
    Access entity (engine kind)) (intent : Kind → Change Value)

variable (entity) in
/-- The columns that a request relies on to stay as they are: from its load those that it
does not mention, from its second read those that had the value already that it gives them. -/
def Relies (request : Request E Db Kind) (column : Column) : Prop :=
  (∃ view, request.reads = [view] ∧ intent request.kind column = none) ∨
    ∃ view view' stored value, request.reads = [view, view'] ∧ entity.seen view' = some stored ∧
      intent request.kind column = some value ∧ entity.columns stored column = value

variable (entity) in
def clear : Condition E Db Kind := fun db request request' others =>
  request'.phase = .committed → ∀ other ∈ others, other.phase = .running →
    ∀ {column}, Relies entity intent other column →
    ∀ {own before after}, request.sees db = some own → entity.find db = some before →
      entity.find own = some after →
      entity.columns after column = entity.columns before column

omit [∀ column, DecidableEq (Value column)] in
theorem onCommits_clear : OnCommits (clear entity intent) := fun _ _ _ _ open_ done => absurd done open_

omit [∀ column, DecidableEq (Value column)] in
/-- A request that has found none of the values it gives when it read the row again. -/
theorem relies_nothing {intent : Kind → Change Value} {request : Request E Db Kind}
    {view view' : E.View} {stored : entity.Row} (read : request.reads = [view, view'])
    (seen : entity.seen view' = some stored)
    (differs : ∀ {column value}, intent request.kind column = some value →
      entity.columns stored column ≠ value)
    (column : Column) : ¬Relies entity intent request column := by
  intro holds
  rcases holds with ⟨single, read', _⟩ | ⟨first, second, stored', value, read', seen', given, already⟩
  · rw [read] at read'
    cases read'
  · rw [read] at read'
    cases read'
    rw [seen] at seen'
    cases seen'
    exact differs given already

structure Settled (change : Change Value)
    (loaded stored current : (column : Column) → Value column) : Prop where
  unmentioned : ∀ {column}, change column = none → stored column = loaded column
  mentioned : ∀ {column value}, change column = some value → stored column = value →
    current column = value

theorem Settled.saved {change : Change Value}
    {loaded stored current : (column : Column) → Value column}
    (settled : Settled change loaded stored current) :
    (difference stored (change.on loaded)).on current = change.on current :=
  save_eq_iff.mpr ⟨fun _ none_given differs => absurd (settled.unmentioned none_given) differs,
    fun _ _ => settled.mentioned⟩

/-- Where a request has got to that loads and saves the row, which is `found` by now. -/
inductive Stage (found : Option entity.Row) (request : Request E Db Kind) : Prop where
  | begins (nothing : request.log = []) (unread : request.reads = [])
      (loads : Loads entity (intent request.kind) request.program)
  | loaded (loaded current : entity.Row) (view : E.View) (nothing : request.log = [])
      (read : request.reads = [view])
      (rereads : Rereads entity ((intent request.kind).on (entity.columns loaded)) request.program)
      (present : found = some current) (shown : (access request.kind).shows (entity.fixed current))
      (same : ∀ column, intent request.kind column = none →
        entity.columns current column = entity.columns loaded column)
  | stored (loaded stored current : entity.Row) (view view' : E.View) (nothing : request.log = [])
      (read : request.reads = [view, view'])
      (seen : entity.seen view' = some stored)
      (writes : Writes entity
        (difference (entity.columns stored) ((intent request.kind).on (entity.columns loaded)))
        request.program)
      (present : found = some current) (shown : (access request.kind).shows (entity.fixed current))
      (settled : Settled (intent request.kind) (entity.columns loaded) (entity.columns stored)
        (entity.columns current))
  | written (loaded stored current : entity.Row) (view view' : E.View)
      (read : request.reads = [view, view'])
      (seen : entity.seen view' = some stored)
      (sent : request.log =
        [entity.update
        (difference (entity.columns stored) ((intent request.kind).on (entity.columns loaded)))])
      (tail : Tail entity request.program)
      (present : found = some current) (shown : (access request.kind).shows (entity.fixed current))
      (settled : Settled (intent request.kind) (entity.columns loaded) (entity.columns stored)
        (entity.columns current))
  | failed (error : E.Error) (program : request.program = .throw error)

structure Sound (db : Db) (request : Request E Db Kind) : Prop where
  engine : request.engine = engine request.kind
  stage : Stage access intent (entity.find db) request

def Stands (db : Db) (request : Request E Db Kind) : Prop :=
  request.phase = .running → Sound access intent db request

section Steps
variable {access intent} {waits : E.Stmt → E.Stmt → Prop}
  {others : List (Request E Db Kind)} {db db' own : Db}
  {request request' : Request E Db Kind}

/-- The row changes with commits only. -/
theorem Sound.stays (sound : Sound access intent db request)
    (moved : Moves waits others db request db' request') (open_ : request'.phase ≠ .committed) :
    entity.find db' = entity.find db := by
  cases moved with
  | commit => exact absurd rfl open_
  | detached running program _ accepted =>
    rw [sound.engine] at accepted
    cases sound.stage with
    | begins _ _ loads =>
      obtain ⟨next, reads, _⟩ := loads
      rw [program] at reads
      cases reads
    | loaded _ _ _ _ _ rereads =>
      obtain ⟨next, reads, _⟩ := rereads
      rw [program] at reads
      cases reads
    | stored _ _ _ _ _ _ _ _ writes =>
      obtain ⟨next, sends, _⟩ := writes
      rw [program] at sends
      cases sends
    | written _ _ _ _ _ _ _ _ tail =>
      rw [program] at tail
      exact (access request.kind).aside_find tail.1 accepted
    | failed error throws =>
      rw [program] at throws
      cases throws
  | _ => rfl

theorem Sound.next (sound : Sound access intent db request)
    (moved : Moves waits others db request db' request') (running : request'.phase = .running) :
    request'.kind = request.kind ∧ request'.engine = request.engine ∧
      Stage access intent (entity.find db) request' := by
  have alive : request' ≠ { request with phase := .aborted } := by
    intro ended
    rw [ended] at running
    cases running
  cases sound.stage with
  | begins nothing unread loads =>
    obtain ⟨next, program, branches⟩ := loads
    obtain ⟨_, aborted | ⟨own, seen, rfl⟩⟩ := moved.of_read program
    · exact absurd aborted alive
    · have here := ReadCommitted.Request.sees_nothing nothing seen
      subst here
      rcases branches (request.engine.view own) with ⟨error, throws⟩ | ⟨loaded, found, rereads⟩
      · exact ⟨rfl, rfl, .failed error throws⟩
      · rw [sound.engine] at found
        obtain ⟨present, shown⟩ := (access request.kind).seen_view.mp found
        exact ⟨rfl, rfl,
          .loaded loaded loaded (request.engine.view own) nothing
          (by simp [unread]) rereads present shown fun _ _ => rfl⟩
  | loaded loaded current view nothing read rereads present shown same =>
    obtain ⟨next, program, writes⟩ := rereads
    obtain ⟨_, aborted | ⟨own, seen, rfl⟩⟩ := moved.of_read program
    · exact absurd aborted alive
    · have here := ReadCommitted.Request.sees_nothing nothing seen
      subst here
      have again : entity.seen (request.engine.view own) = some current := by
        rw [sound.engine]
        exact (access request.kind).seen_view.mpr ⟨present, shown⟩
      exact ⟨rfl, rfl,
        .stored loaded current current view (request.engine.view own) nothing (by simp [read]) again
        (writes again) present shown
        ⟨same _, fun _ already => already⟩⟩
  | stored loaded stored current view view' nothing read seen writes present shown settled =>
    obtain ⟨next, program, tail, throws⟩ := writes
    obtain ⟨_, aborted | ⟨own, own', _, _, rfl⟩ | ⟨why, rfl⟩⟩ := moved.of_write program
    · exact absurd aborted alive
    · exact ⟨rfl, rfl,
        .written loaded stored current view view' read seen
        (by simp [nothing]) tail present shown settled⟩
    · obtain ⟨error, thrown⟩ := throws why
      exact ⟨rfl, rfl, .failed error thrown⟩
  | written loaded stored current view view' read seen sent tail present shown settled =>
    cases program : request.program with
    | pure value =>
      rcases moved.of_pure program with ⟨_, aborted⟩ | ⟨_, committed⟩
      · exact absurd aborted alive
      · rw [committed] at running
        cases running
    | throw error => exact absurd (moved.of_throw program).2 alive
    | emit event next =>
      rw [program] at tail
      obtain ⟨_, aborted | rfl⟩ := moved.of_emit program
      · exact absurd aborted alive
      · exact ⟨rfl, rfl,
          .written loaded stored current view view' read seen sent tail present shown settled⟩
    | detached stmt next =>
      rw [program] at tail
      rcases moved.of_detached program with ⟨_, aborted⟩ | ⟨_, rfl⟩
      · exact absurd aborted alive
      · exact ⟨rfl, rfl,
          .written loaded stored current view view' read seen sent (tail.2 none) present shown settled⟩
    | read _ | write _ _ | generate _ =>
      rw [program] at tail
      exact tail.elim
  | failed error throws => exact absurd (moved.of_throw throws).2 alive

/-- A commit has the effect of the change that was asked for. -/
theorem Sound.commits (sound : Sound access intent db request)
    (returned : request.program = .pure ()) (seen : request.sees db = some db') :
    ∃ row row', entity.find db = some row ∧ entity.find db' = some row' ∧
      entity.fixed row' = entity.fixed row ∧
      entity.columns row' = (intent request.kind).on (entity.columns row) := by
  cases sound.stage with
  | written loaded stored current view view' _ _ sent _ present shown settled =>
    unfold ReadCommitted.Request.sees at seen
    rw [sent, sound.engine] at seen
    obtain ⟨row', found, fixed, columns⟩ :=
      (access request.kind).updated (replay_singleton seen) present shown
    exact ⟨current, row', present, found, fixed, columns.trans settled.saved⟩
  | begins _ _ loads =>
    obtain ⟨next, program, _⟩ := loads
    rw [returned] at program
    cases program
  | loaded _ _ _ _ _ rereads =>
    obtain ⟨next, program, _⟩ := rereads
    rw [returned] at program
    cases program
  | stored _ _ _ _ _ _ _ _ writes =>
    obtain ⟨next, program, _⟩ := writes
    rw [returned] at program
    cases program
  | failed error throws =>
    rw [returned] at throws
    cases throws

/-- What another request commits is not what this one relies on. -/
theorem stage_beside {other : Request E Db Kind} {row row' : entity.Row}
    (stage : Stage access intent (some row) other) (fixed : entity.fixed row' = entity.fixed row)
    (untouched : ∀ {column}, Relies entity intent other column →
      entity.columns row' column = entity.columns row column) :
    Stage access intent (some row') other := by
  cases stage with
  | begins nothing unread loads => exact .begins nothing unread loads
  | loaded loaded current view nothing read rereads present shown same =>
    cases present
    refine .loaded loaded row' view nothing read rereads rfl (fixed ▸ shown) fun column unmentioned => ?_
    exact (untouched (.inl ⟨view, read, unmentioned⟩)).trans (same column unmentioned)
  | stored loaded stored current view view' nothing read seen writes present shown settled =>
    cases present
    refine .stored loaded stored row' view view' nothing read seen writes rfl (fixed ▸ shown)
      ⟨settled.unmentioned, fun given already => ?_⟩
    exact (untouched (.inr ⟨view, view', stored, _, read, seen, given, already⟩)).trans
      (settled.mentioned given already)
  | written loaded stored current view view' read seen sent tail present shown settled =>
    cases present
    refine .written loaded stored row' view view' read seen sent tail rfl (fixed ▸ shown)
      ⟨settled.unmentioned, fun given already => ?_⟩
    exact (untouched (.inr ⟨view, view', stored, _, read, seen, given, already⟩)).trans
      (settled.mentioned given already)
  | failed error program => exact .failed error program

theorem advances : Advances waits (clear entity intent) (fun _ => True) (Stands access intent) := by
  intro others db request db' request' _ mine _ moved _
  refine ⟨trivial, fun running => ?_⟩
  have sound := mine moved.running
  obtain ⟨kind, engine, stage⟩ := sound.next moved running
  have open_ : request'.phase ≠ .committed := by
    rw [running]
    decide
  constructor
  · rw [engine, kind]
    exact sound.engine
  · rw [sound.stays moved open_]
    exact stage

theorem stable : Stable waits (clear entity intent) (fun _ => True) (Stands access intent) := by
  intro others db request db' request' other _ mine theirs member moved cleared running
  have sound := mine moved.running
  have beside := theirs running
  refine ⟨beside.engine, ?_⟩
  by_cases done : request'.phase = .committed
  · obtain ⟨_, returned, seen⟩ := moved.committed done
    obtain ⟨row, row', present, later, fixed, _⟩ := sound.commits returned seen
    have stage := beside.stage
    rw [present] at stage
    rw [later]
    exact stage_beside stage fixed fun relies =>
      cleared done other member running relies seen present later
  · rw [sound.stays moved done]
    exact beside.stage

end Steps

include access in
/-- In a run in which no request commits what another one relies on, the row has the
changes of the requests that have committed, in their order. -/
theorem saved_changes {waits : E.Stmt → E.Stmt → Prop} {first last : State E Db Kind}
    {completed : List Kind} {row : entity.Row}
    (asked : ∀ request ∈ first.requests, Fresh request ∧ request.engine = engine request.kind ∧
      Loads entity (intent request.kind) request.program)
    (start : entity.find first.db = some row)
    (run : History waits (clear entity intent) first completed last) :
    ∃ row', entity.find last.db = some row' ∧
      entity.columns row' = applyAll (entity.columns row) (completed.map intent) := by
  have begun : Holds (fun _ => True) (Stands access intent) first := by
    refine ⟨trivial, fun request member _ => ?_⟩
    obtain ⟨fresh, engine, loads⟩ := asked request member
    exact ⟨engine, .begins fresh.log fresh.reads loads⟩
  induction run with
  | start => exact ⟨row, start, rfl⟩
  | @move db db' request request' completed before after earlier moved cleared ih =>
    obtain ⟨current, present, columns⟩ := ih
    have held := earlier.reaches.holds advances stable begun
    have sound : Sound access intent db request :=
      held.requests request (List.mem_append_right _ List.mem_cons_self) moved.running
    by_cases done : request'.phase = .committed
    · obtain ⟨_, returned, seen⟩ := moved.committed done
      obtain ⟨row, row', found, later, _, effect⟩ := sound.commits returned seen
      have same : some current = some row := present.symm.trans found
      cases same
      have kind : request'.kind = request.kind := by
        cases moved <;> rfl
      refine ⟨row', later, ?_⟩
      rw [effect, columns, ReadCommitted.Request.completed, if_pos done, kind, List.map_append]
      exact (applyAll_append _ _ _).symm
    · refine ⟨current, ?_, ?_⟩
      · rw [sound.stays moved done]
        exact present
      · rw [columns, ReadCommitted.Request.completed, if_neg done, List.append_nil]

end Requests

end GenericIam.SavedChanges
