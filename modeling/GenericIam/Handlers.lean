import GenericIam.Events
import GenericIam.Transaction

/-! What the handlers of the service are written in: statements on the database under
the session of the caller, events, generated ids and HTTP errors. -/

namespace GenericIam.Handlers
open Database Identifiers Events Transaction

inductive HttpException where
  | badRequest (message : String)
  | unauthorized (message : String)
  | forbidden (message : String)
  | notFound (message : String)
  | conflict (message : String)
  | queryFailed
  deriving DecidableEq

/-- Why a statement was refused: a foreign key, with its column, or something else. -/
inductive Violation where
  | foreignKey (column : String)
  | other
  deriving DecidableEq

abbrev effects (Id : Type) : Effects where
  View := Db
  Stmt := Write
  Violation := Violation
  Event := Event Id
  Key := Uuid
  Error := HttpException

abbrev Handler (Id α : Type) := Program (effects Id) α

def send (session : Session) (write : Write) (db : Db) : Except Violation Db :=
  match write.apply session db with
  | some next => .ok next
  | none => .error <| match write.missingReference db with
    | some column => .foreignKey column
    | none => .other

/-- The rows that a handler can read. None of them reads refresh tokens, which only the
authentication service looks up, over another connection. -/
abbrev shown (session : Session) (db : Db) : Db := { db.seenBy session with refreshTokens := .empty }

/-- A session sees the rows that the policies admit; detached statements use the
default connection. -/
def engine (Id : Type) (session : Session) : Engine (effects Id) Db where
  view := shown session
  apply := send session
  applyDetached := send .bypassRls

variable {Id α : Type}

def visible : Handler Id Db := view

def newId : Handler Id Uuid := newKey

def persist (write : Write) : Handler Id Unit := do
  match ← attempt write with
  | none => pure ()
  | some _ => .throw .queryFailed

def emit (event : Event Id) : Handler Id Unit := publish event

def refuseIf (condition : Bool) (error : HttpException) : Handler Id Unit :=
  if condition then .throw error else pure ()

def orThrow (found : Option α) (error : HttpException) : Handler Id α :=
  match found with
  | some row => pure row
  | none => .throw error

theorem bind_refuseIf (condition : Bool) (error : HttpException) (next : Unit → Handler Id α) :
    (refuseIf condition error).bind next = if condition = true then .throw error else next () := by
  cases condition <;> rfl

inductive Given (α : Type) where
  | absent
  | null
  | value (given : α)
  deriving DecidableEq

def Given.over (field : Given α) (old : α) : α :=
  match field with
  | .value given => given
  | _ => old

def Given.overNullable {β : Type} (field : Given α) (read : α → β) (old : Option β) : Option β :=
  match field with
  | .absent => old
  | .null => none
  | .value given => some (read given)

def Given.isNull (field : Given α) : Bool :=
  match field with
  | .null => true
  | _ => false

section Rules
variable {session : Session} {ids : Nat → Uuid} {monitor : Monitor (effects Id) Db}
  {fail : HttpException → Tx (effects Id) Db → Prop} {tx : Tx (effects Id) Db}

theorem send_ok {write : Write} {db next : Db} (sent : send session write db = .ok next) :
    write.apply session db = some next := by
  unfold send at sent
  split at sent
  next applied =>
    cases sent
    exact applied
  next => cases sent

theorem wp_persist {write : Write} {post : Unit → Tx (effects Id) Db → Prop}
    (allowed : monitor.write tx.db write)
    (done : ∀ db, write.apply session tx.db = some db →
      post () { tx with db, log := tx.log ++ [write] })
    (refused : fail .queryFailed { tx with log := tx.log ++ [write] }) :
    wp (engine Id session) ids monitor (persist write) post fail tx := by
  unfold persist
  rw [wp_bind]
  apply wp_attempt allowed
  · intro db sent
    exact done db (send_ok sent)
  · intro why _
    exact refused

theorem wp_persist_applied {write : Write} {db : Db} {post : Unit → Tx (effects Id) Db → Prop}
    (allowed : monitor.write tx.db write) (applied : write.apply session tx.db = some db)
    (done : post () { tx with db, log := tx.log ++ [write] }) :
    wp (engine Id session) ids monitor (persist write) post fail tx := by
  unfold persist
  rw [wp_bind]
  apply wp_attempt allowed
  · intro other sent
    have same : some db = some other := applied.symm.trans (send_ok sent)
    cases same
    exact done
  · intro why refused
    have sent : send session write tx.db = .error why := refused
    unfold send at sent
    rw [applied] at sent
    cases sent

/-- The same when it matters why the statement was refused. -/
theorem wp_persist_cases {write : Write} {post : Unit → Tx (effects Id) Db → Prop}
    (allowed : monitor.write tx.db write)
    (done : ∀ db, write.apply session tx.db = some db →
      post () { tx with db, log := tx.log ++ [write] })
    (refused : write.apply session tx.db = none →
      fail .queryFailed { tx with log := tx.log ++ [write] }) :
    wp (engine Id session) ids monitor (persist write) post fail tx := by
  cases applied : write.apply session tx.db with
  | none =>
    apply wp_persist allowed
    · intro db went
      rw [applied] at went
      cases went
    · exact refused applied
  | some db => exact wp_persist_applied allowed applied (done db applied)

@[simp] theorem wp_visible {post : Db → Tx (effects Id) Db → Prop} :
    wp (engine Id session) ids monitor visible post fail tx ↔ post (shown session tx.db) tx := Iff.rfl

@[simp] theorem wp_newId {post : Uuid → Tx (effects Id) Db → Prop} :
    wp (engine Id session) ids monitor newId post fail tx ↔
      post (ids tx.generated) { tx with generated := tx.generated + 1 } := Iff.rfl

@[simp] theorem wp_emit {event : Event Id} {post : Unit → Tx (effects Id) Db → Prop} :
    wp (engine Id session) ids monitor (emit event) post fail tx ↔
      post () { tx with events := tx.events ++ [event] } := Iff.rfl

theorem wp_refuseIf {condition : Bool} {error : HttpException} {post : Unit → Tx (effects Id) Db → Prop}
    (passed : condition = false → post () tx) (refused : condition = true → fail error tx) :
    wp (engine Id session) ids monitor (refuseIf condition error) post fail tx := by
  cases condition with
  | false => exact passed rfl
  | true => exact refused rfl

theorem wp_orThrow {found : Option α} {error : HttpException} {post : α → Tx (effects Id) Db → Prop}
    (present : ∀ row, found = some row → post row tx) (absent : found = none → fail error tx) :
    wp (engine Id session) ids monitor (orThrow found error) post fail tx := by
  cases found with
  | none => exact absent rfl
  | some row => exact present row rfl

end Rules
end GenericIam.Handlers
