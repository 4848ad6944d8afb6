import GenericIam.Runs
import GenericIam.Table
import GenericIam.Transaction

/-! Programs that keep a ledger: what they leave other than it was is named by an event by the
time they return. -/

namespace GenericIam.Ledgers
open Table Transaction Runs

/-! The rows about one subject. -/

section Rows
variable {Row Key Field : Type} [Keyed Row Key] {field : Row → Field} {at_ : Field}
  {table middle later : Table Row}

def SameAt (field : Row → Field) (at_ : Field) (table later : Table Row) : Prop :=
  ∀ row, field row = at_ → (row ∈ later ↔ row ∈ table)

theorem SameAt.refl (table : Table Row) : SameAt field at_ table table := fun _ _ => Iff.rfl

theorem SameAt.trans (first : SameAt field at_ table middle)
    (second : SameAt field at_ middle later) : SameAt field at_ table later :=
  fun row about => (second row about).trans (first row about)

theorem sameAt_insert [DecidableEq Key] {row : Row} (inserted : table.insert row = some later) :
    SameAt field at_ table later ∨ field row = at_ := by
  by_cases about : field row = at_
  · exact .inr about
  · left
    intro other named
    refine mem_insert_away inserted ?_
    intro same
    obtain rfl := same
    exact about named

theorem sameAt_select (where_ : Row → Bool) :
    SameAt field at_ table (table.select where_) ∨ ∃ row ∈ table, where_ row = false ∧
      field row = at_ := by
  by_cases gone : ∃ row ∈ table, where_ row = false ∧ field row = at_
  · exact .inr gone
  · left
    intro row about
    exact mem_select_away fun present missed => gone ⟨row, present, missed, about⟩

theorem sameAt_modify {where_ : Row → Bool} {change : Row → Row}
    (keeps : ∀ row, key (change row) = key row)
    (stays : ∀ row ∈ table, where_ row = true → field (change row) = field row) :
    SameAt field at_ table (table.modify where_ change keeps) ∨ ∃ row ∈ table, where_ row = true ∧
      field row = at_ := by
  by_cases hit : ∃ row ∈ table, where_ row = true ∧ field row = at_
  · exact .inr hit
  · left
    intro row about
    refine mem_modify_away fun old present accepted => ⟨?_, ?_⟩
    · intro same
      obtain rfl := same
      exact hit ⟨old, present, accepted, about⟩
    · intro same
      obtain rfl := same
      exact hit ⟨old, present, accepted, (stays old present accepted).symm.trans about⟩

end Rows

/-- When two databases have the same about a subject, and which events are about it. -/
structure Ledger (E : Effects) (Db Subject : Type) where
  same : Subject → Db → Db → Prop
  names : E.Event → Subject → Prop
  refl : ∀ subject db, same subject db db
  trans : ∀ {subject first second third}, same subject first second → same subject second third →
    same subject first third

section Programs
variable {E : Effects} {Db Subject α ι : Type} {ledger : Ledger E Db Subject} {start db : Db}
  {owed more rest : Subject → Prop}
  {tx : Tx E Db}

/-- What is not as at the start has been named by an event, or it is still owed one. -/
def Ledger.Owes (ledger : Ledger E Db Subject) (start : Db) (owed : Subject → Prop)
    (tx : Tx E Db) : Prop :=
  ∀ subject, ledger.same subject start tx.db ∨
    (∃ event ∈ tx.events, ledger.names event subject) ∨ owed subject

abbrev Ledger.Settled (ledger : Ledger E Db Subject) (start : Db) (tx : Tx E Db) : Prop :=
  ledger.Owes start (fun _ => False) tx

theorem settled_start (db : Db) : ledger.Settled db { db } :=
  fun subject => .inl (ledger.refl subject db)

theorem Ledger.Owes.mono (owes : ledger.Owes start owed tx)
    (weaker : ∀ subject, owed subject → more subject) :
    ledger.Owes start more tx := by
  intro subject
  rcases owes subject with same | named | due
  · exact .inl same
  · exact .inr (.inl named)
  · exact .inr (.inr (weaker subject due))

/-- A statement adds what it touches. -/
theorem Ledger.Owes.write (owes : ledger.Owes start owed tx) (stmt : E.Stmt)
    (touches : ∀ subject, ledger.same subject tx.db db ∨ more subject) :
    ledger.Owes start (fun subject => owed subject ∨
      more subject) { tx with db, log := tx.log ++ [stmt] } := by
  intro subject
  rcases touches subject with kept | touched
  · rcases owes subject with same | named | due
    · exact .inl (ledger.trans same kept)
    · exact .inr (.inl named)
    · exact .inr (.inr (.inl due))
  · exact .inr (.inr (.inr touched))

/-- An event settles what it names. -/
theorem Ledger.Owes.emit {event : E.Event} (owes : ledger.Owes start owed tx)
    (settles : ∀ subject, owed subject → ledger.names event subject ∨ rest subject) :
    ledger.Owes start rest { tx with events := tx.events ++ [event] } := by
  intro subject
  rcases owes subject with same | ⟨earlier, member, named⟩ | due
  · exact .inl same
  · exact .inr (.inl ⟨earlier, List.mem_append_left _ member, named⟩)
  · rcases settles subject due with named | later
    · exact .inr (.inl ⟨event, List.mem_append_right _ List.mem_cons_self, named⟩)
    · exact .inr (.inr later)

variable {engine : Engine E Db} {keys : Nat → E.Key} {monitor : Monitor E Db}

/-- A request leaves a subject as it was, or it has been accepted and one of its events is
about the subject. -/
theorem serve_accounts {program : Program E α} {fail : E.Error → Tx E Db → Prop}
    (holds : wp engine keys monitor program (fun _ after => ledger.Settled db after) fail { db })
    (outside : ∀ {there before stmt after}, monitor.detached there stmt →
      engine.applyDetached stmt before = .ok after →
      ∀ subject, ledger.same subject before after)
    (subject : Subject) :
    ledger.same subject db (serve engine keys program db).db ∨
      (serve engine keys program db).result.isOk = true ∧
      ∃ event ∈ (serve engine keys program db).tx.events, ledger.names event subject := by
  have ended := serve_post holds
  cases result : (serve engine keys program db).result with
  | ok value =>
    rw [result] at ended
    rw [ended.2]
    rcases ended.1 subject with same | named | impossible
    · exact .inl same
    · exact .inr ⟨rfl, named⟩
    · exact impossible.elim
  | error error =>
    rw [result] at ended
    left
    obtain ⟨_, sent, _, logged, evolves⟩ := wp_evolves holds
    rw [← serve_tx, List.nil_append] at logged
    rw [ended.2, logged]
    have keeps : ∀ {before after : Db}, ∀ stmt ∈ sent, ledger.same subject db before →
      engine.applyDetached stmt before = .ok after →
        ledger.same subject db after := by
      intro before after stmt member same applied
      obtain ⟨_, allowed⟩ := evolves.outside_monitored stmt member
      exact ledger.trans same (outside allowed applied subject)
    exact keepOutside_invariant (ledger.refl subject db) keeps

end Programs

/-! Runs. -/

section Explained
variable {State Step : Type} {next : Step → State → State} {same : State → State → Prop}
  {explains : Step → State → Prop}

/-- What every step keeps unless it explains why not, a run keeps unless one of its steps
explains why not. -/
theorem same_or_explained (refl : ∀ state, same state state)
    (trans : ∀ {first second third}, same first second → same second third → same first third)
    (each : ∀ step state, same state (next step state) ∨ explains step state) (state : State)
    (steps : List Step) :
    same state (final next state steps) ∨
      ∃ before step after, steps = before ++ step :: after ∧
        explains step (final next state before) := by
  induction steps generalizing state with
  | nil => exact .inl (refl state)
  | cons step rest ih =>
    rcases each step state with kept | explained
    · rcases ih (next step state) with same | ⟨before, other, after, split, explained⟩
      · exact .inl (trans kept same)
      · refine .inr ⟨step :: before, other, after, ?_, explained⟩
        rw [split, List.cons_append]
    · exact .inr ⟨[], step, rest, rfl, explained⟩

end Explained
end GenericIam.Ledgers
