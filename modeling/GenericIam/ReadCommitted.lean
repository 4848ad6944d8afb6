import GenericIam.Transaction
import Mathlib.Logic.Relation

/-! Requests that run side by side under READ COMMITTED: each statement of a transaction
sees what is committed by then and what the transaction itself has written. -/

namespace GenericIam.ReadCommitted
open Transaction

inductive Phase where
  | running
  | committed
  | aborted
  deriving DecidableEq

/-- A request with what its transaction has read and written so far; `kind` says which
request it is. -/
structure Request (E : Effects) (Db Kind : Type) where
  kind : Kind
  engine : Engine E Db
  keys : Nat → E.Key
  program : Program E Unit
  generated : Nat := 0
  reads : List E.View := []
  log : List E.Stmt := []
  phase : Phase := .running

structure State (E : Effects) (Db Kind : Type) where
  db : Db
  requests : List (Request E Db Kind)

variable {E : Effects} {Db Kind : Type}

/-- The statements of a transaction on top of what is committed. -/
def replay (engine : Engine E Db) (log : List E.Stmt) (db : Db) : Option Db :=
  log.foldlM (fun db stmt => (engine.apply stmt db).toOption) db

def Request.sees (request : Request E Db Kind) (db : Db) : Option Db :=
  replay request.engine request.log db

theorem Request.sees_nothing {request : Request E Db Kind} {db own : Db}
    (nothing : request.log = []) (seen : request.sees db = some own) :
    own = db := by
  unfold Request.sees at seen
  rw [nothing] at seen
  cases seen
  rfl

/-- A statement waits for the transactions whose statements it `waits` for, which hold
locks until they end. -/
def Free (waits : E.Stmt → E.Stmt → Prop) (others : List (Request E Db Kind)) (stmt : E.Stmt) : Prop :=
  ∀ other ∈ others, other.phase = .running → ∀ held ∈ other.log, ¬waits stmt held

/-- One step of a request among others. A transaction may be aborted at any time: by an
error of its own, by a deadlock or by a broken connection. -/
inductive Moves (waits : E.Stmt → E.Stmt → Prop) (others : List (Request E Db Kind)) :
    Db → Request E Db Kind → Db → Request E Db Kind → Prop where
  | read {db own : Db} {request : Request E Db Kind} {next : E.View → Program E Unit}
      (running : request.phase = .running)
      (program : request.program = .read next) (seen : request.sees db = some own) :
      Moves waits others db request db
        { request with program := next (request.engine.view own), reads :=
          request.reads ++ [request.engine.view own] }
  | written {db own own' : Db} {request : Request E Db Kind} {stmt : E.Stmt}
      {next : Option E.Violation → Program E Unit}
      (running : request.phase = .running) (program : request.program = .write stmt next)
        (seen : request.sees db = some own)
      (free : Free waits others stmt) (accepted : request.engine.apply stmt own = .ok own') :
      Moves waits others db request db
        { request with program := next none, log := request.log ++ [stmt] }
  | refused {db own : Db} {request : Request E Db Kind} {stmt : E.Stmt}
      {next : Option E.Violation → Program E Unit} {why : E.Violation}
      (running : request.phase = .running) (program : request.program = .write stmt next)
        (seen : request.sees db = some own)
      (free : Free waits others stmt) (refused : request.engine.apply stmt own = .error why) :
      Moves waits others db request db { request with program := next (some why) }
  | detached {db db' : Db} {request : Request E Db Kind} {stmt : E.Stmt}
      {next : Option E.Violation → Program E Unit}
      (running : request.phase = .running) (program : request.program = .detached stmt next)
        (free : Free waits others stmt)
      (accepted : request.engine.applyDetached stmt db = .ok db') :
      Moves waits others db request db' { request with program := next none }
  | emit {db : Db} {request : Request E Db Kind} {event : E.Event} {next : Program E Unit}
      (running : request.phase = .running)
      (program : request.program = .emit event next) :
        Moves waits others db request db { request with program := next }
  | generate {db : Db} {request : Request E Db Kind} {next : E.Key → Program E Unit}
      (running : request.phase = .running)
      (program : request.program = .generate next) :
      Moves waits others db request db
        { request with program := next (request.keys request.generated), generated :=
          request.generated + 1 }
  | commit {db own : Db} {request : Request E Db Kind} (running : request.phase = .running)
      (program : request.program = .pure ())
      (seen : request.sees db = some own) :
        Moves waits others db request own { request with phase := .committed }
  | abort {db : Db} {request : Request E Db Kind} (running : request.phase = .running) :
      Moves waits others db request db { request with phase := .aborted }

/-! What a step of a request can be, by what is left of its program. -/

section Inversion
variable {waits : E.Stmt → E.Stmt → Prop} {others : List (Request E Db Kind)} {db db' : Db}
  {request request' : Request E Db Kind}

theorem Moves.running (moved : Moves waits others db request db' request') :
    request.phase = .running := by
  cases moved <;> assumption

theorem Moves.of_read {next : E.View → Program E Unit}
    (moved : Moves waits others db request db' request') (program : request.program = .read next) :
    db' = db ∧
      (request' = { request with phase := .aborted } ∨ ∃ own, request.sees db = some own ∧
      request' = { request with
      program := next (request.engine.view own), reads :=
        request.reads ++ [request.engine.view own] }) := by
  cases moved with
  | read running program' seen =>
    rw [program] at program'
    cases program'
    exact ⟨rfl, .inr ⟨_, seen, rfl⟩⟩
  | abort running => exact ⟨rfl, .inl rfl⟩
  | written running program' | refused running program' | detached running program'
  | emit running program'
  | generate running program' | commit running program' =>
    rw [program] at program'
    cases program'

theorem Moves.of_write {stmt : E.Stmt} {next : Option E.Violation → Program E Unit}
    (moved : Moves waits others db request db' request')
    (program : request.program = .write stmt next) :
    db' = db ∧ (request' = { request with phase := .aborted } ∨
      (∃ own own', request.sees db = some own ∧ request.engine.apply stmt own = .ok own' ∧
        request' = { request with program := next none, log := request.log ++ [stmt] }) ∨
      ∃ why, request' = { request with program := next (some why) }) := by
  cases moved with
  | written running program' seen _ accepted =>
    rw [program] at program'
    cases program'
    exact ⟨rfl, .inr (.inl ⟨_, _, seen, accepted, rfl⟩)⟩
  | refused running program' seen _ refused =>
    rw [program] at program'
    cases program'
    exact ⟨rfl, .inr (.inr ⟨_, rfl⟩)⟩
  | abort running => exact ⟨rfl, .inl rfl⟩
  | read running program' | detached running program' | emit running program'
  | generate running program' | commit running program' =>
    rw [program] at program'
    cases program'

theorem Moves.of_detached {stmt : E.Stmt} {next : Option E.Violation → Program E Unit}
    (moved : Moves waits others db request db' request')
    (program : request.program = .detached stmt next) :
    db' = db ∧ request' = { request with phase := .aborted } ∨
      request.engine.applyDetached stmt db = .ok db' ∧
        request' = { request with program := next none } := by
  cases moved with
  | detached running program' _ accepted =>
    rw [program] at program'
    cases program'
    exact .inr ⟨accepted, rfl⟩
  | abort running => exact .inl ⟨rfl, rfl⟩
  | read running program' | written running program' | refused running program' | emit running program'
  | generate running program'
  | commit running program' =>
    rw [program] at program'
    cases program'

theorem Moves.of_emit {event : E.Event} {next : Program E Unit}
    (moved : Moves waits others db request db' request')
    (program : request.program = .emit event next) :
    db' = db ∧
      (request' = { request with phase := .aborted } ∨
      request' = { request with program := next }) := by
  cases moved with
  | emit running program' =>
    rw [program] at program'
    cases program'
    exact ⟨rfl, .inr rfl⟩
  | abort running => exact ⟨rfl, .inl rfl⟩
  | read running program' | written running program' | refused running program'
  | detached running program' | generate running program'
  | commit running program' =>
    rw [program] at program'
    cases program'

theorem Moves.of_throw {error : E.Error} (moved : Moves waits others db request db' request')
    (program : request.program = .throw error) :
    db' = db ∧ request' = { request with phase := .aborted } := by
  cases moved with
  | abort running => exact ⟨rfl, rfl⟩
  | read running program' | written running program' | refused running program'
  | detached running program' | emit running program'
  | generate running program' | commit running program' =>
    rw [program] at program'
    cases program'

theorem Moves.of_pure (moved : Moves waits others db request db' request')
    (program : request.program = .pure ()) :
    db' = db ∧ request' = { request with phase := .aborted } ∨
      request.sees db = some db' ∧ request' = { request with phase := .committed } := by
  cases moved with
  | commit running _ seen => exact .inr ⟨seen, rfl⟩
  | abort running => exact .inl ⟨rfl, rfl⟩
  | read running program' | written running program' | refused running program'
  | detached running program' | emit running program'
  | generate running program' =>
    rw [program] at program'
    cases program'

/-- Only a commit commits. -/
theorem Moves.committed (moved : Moves waits others db request db' request')
    (done : request'.phase = .committed) :
    request.phase = .running ∧ request.program = .pure () ∧ request.sees db = some db' := by
  cases moved with
  | commit running program seen => exact ⟨running, program, seen⟩
  | read running | written running | refused running | detached running | emit running
  | generate running =>
    rw [running] at done
    cases done
  | abort running => cases done

/-- What is committed stays as it is but for commits and statements over another connection. -/
theorem Moves.stays (moved : Moves waits others db request db' request')
    (attached : ∀ stmt next, request.program ≠ .detached stmt next)
    (open_ : request'.phase ≠ .committed) : db' = db := by
  cases moved with
  | commit => exact absurd rfl open_
  | detached running program => exact absurd program (attached _ _)
  | _ => rfl

end Inversion

/-- A condition on a step: the database and the request before it, the request after it,
and the others. -/
abbrev Condition (E : Effects) (Db Kind : Type) :=
  Db → Request E Db Kind → Request E Db Kind → List (Request E Db Kind) → Prop

inductive Step (waits : E.Stmt → E.Stmt → Prop) (clear : Condition E Db Kind) :
    State E Db Kind → State E Db Kind → Prop where
  | move {db db' : Db} {request request' : Request E Db Kind} (before after : List (Request E Db Kind))
      (moved : Moves waits (before ++ after) db request db' request')
      (cleared : clear db request request' (before ++ after)) :
      Step waits clear ⟨db, before ++ request :: after⟩ ⟨db', before ++ request' :: after⟩

def Reaches (waits : E.Stmt → E.Stmt → Prop) (clear : Condition E Db Kind) :
    State E Db Kind → State E Db Kind → Prop :=
  Relation.ReflTransGen (Step waits clear)

def always : Condition E Db Kind := fun _ _ _ _ => True

structure Fresh (request : Request E Db Kind) : Prop where
  generated : request.generated = 0
  reads : request.reads = []
  log : request.log = []
  phase : request.phase = .running

structure Holds (invariant : Db → Prop) (own : Db → Request E Db Kind → Prop)
    (state : State E Db Kind) : Prop where
  database : invariant state.db
  requests : ∀ request ∈ state.requests, own state.db request

section Rule
variable {waits : E.Stmt → E.Stmt → Prop} {clear : Condition E Db Kind} {invariant : Db → Prop}
  {own : Db → Request E Db Kind → Prop}

/-- A request that moves keeps the invariant and gets where it may rely on what it needs. -/
def Advances (waits : E.Stmt → E.Stmt → Prop) (clear : Condition E Db Kind) (invariant : Db → Prop)
    (own : Db → Request E Db Kind → Prop) : Prop :=
  ∀ {others db request db' request'}, invariant db → own db request → (∀ other ∈ others, own db other) →
    Moves waits others db request db' request' → clear db request request' others →
      invariant db' ∧ own db' request'

def Stable (waits : E.Stmt → E.Stmt → Prop) (clear : Condition E Db Kind) (invariant : Db → Prop)
    (own : Db → Request E Db Kind → Prop) : Prop :=
  ∀ {others db request db' request' other}, invariant db → own db request →
    own db other → other ∈ others →
    Moves waits others db request db' request' → clear db request request' others → own db' other

theorem mem_others {before after : List (Request E Db Kind)} {request other : Request E Db Kind}
    (member : other ∈ before ++ after) :
    other ∈ before ++ request :: after :=
  List.perm_middle.mem_iff.mpr (List.mem_cons_of_mem _ member)

theorem Step.holds (advances : Advances waits clear invariant own)
    (stable : Stable waits clear invariant own) {state state' : State E Db Kind}
    (step : Step waits clear state state') (holds : Holds invariant own state) :
    Holds invariant own state' := by
  obtain ⟨database, requests⟩ := holds
  cases step with
  | @move db db' request request' before after moved cleared =>
    have mine : own db request := requests request (List.mem_append_right _ List.mem_cons_self)
    obtain ⟨later, arrived⟩ :=
      advances database mine (fun other member => requests other (mem_others member)) moved cleared
    refine ⟨later, fun other member => ?_⟩
    rcases List.mem_cons.mp (List.perm_middle.mem_iff.mp member) with moving | there
    · rw [moving]
      exact arrived
    · exact stable database mine (requests other (mem_others there)) there moved cleared

theorem Reaches.holds (advances : Advances waits clear invariant own)
    (stable : Stable waits clear invariant own) {first last : State E Db Kind}
    (run : Reaches waits clear first last) (start : Holds invariant own first) :
    Holds invariant own last := by
  induction run with
  | refl => exact start
  | tail _ step ih => exact step.holds advances stable ih

def Request.completed (request : Request E Db Kind) : List Kind :=
  if request.phase = .committed then [request.kind] else []

inductive History (waits : E.Stmt → E.Stmt → Prop) (clear : Condition E Db Kind)
    (first : State E Db Kind) :
    List Kind → State E Db Kind → Prop where
  | start : History waits clear first [] first
  | move {db db' : Db} {request request' : Request E Db Kind} {completed : List Kind}
      {before after : List (Request E Db Kind)}
      (earlier : History waits clear first completed ⟨db, before ++ request :: after⟩)
      (moved : Moves waits (before ++ after) db request db' request')
        (cleared : clear db request request' (before ++ after)) :
      History waits clear first (completed ++ request'.completed) ⟨db', before ++ request' :: after⟩

theorem History.reaches {first last : State E Db Kind} {completed : List Kind}
    (run : History waits clear first completed last) :
    Reaches waits clear first last := by
  induction run with
  | start => exact .refl
  | move _ moved cleared ih => exact ih.tail (.move _ _ moved cleared)

theorem History.trans {first middle last : State E Db Kind} {early late : List Kind}
    (run : History waits clear first early middle) (rest : History waits clear middle late last) :
    History waits clear first (early ++ late) last := by
  induction rest with
  | start =>
    rw [List.append_nil]
    exact run
  | move _ moved cleared ih =>
    rw [← List.append_assoc]
    exact .move ih moved cleared

end Rule

theorem replay_append (engine : Engine E Db) (log : List E.Stmt) (stmt : E.Stmt) (db : Db) :
    replay engine (log ++ [stmt]) db = (replay engine log db).bind fun own =>
      (engine.apply stmt own).toOption := by
  unfold replay
  rw [List.foldlM_append]
  cases List.foldlM (fun db stmt => (engine.apply stmt db).toOption) db log with
  | none => rfl
  | some own => simp [List.foldlM]

theorem replay_singleton {engine : Engine E Db} {stmt : E.Stmt} {db own : Db}
    (replayed : replay engine [stmt] db = some own) :
    engine.apply stmt db = .ok own := by
  rw [← List.nil_append [stmt], replay_append] at replayed
  cases answer : engine.apply stmt db with
  | error why => simp [replay, answer, Except.toOption] at replayed
  | ok after =>
    have same : some after = some own := by simpa [replay, answer, Except.toOption] using replayed
    cases same
    rfl

/-- What every accepted statement of a log keeps. -/
theorem replay_keeps {engine : Engine E Db} {keeps : Db → Prop} {log : List E.Stmt} {db own : Db}
    (replayed : replay engine log db = some own) (start : keeps db)
    (each : ∀ stmt ∈ log, ∀ {before after}, keeps before →
      engine.apply stmt before = .ok after → keeps after) :
    keeps own := by
  induction log generalizing db with
  | nil =>
    cases replayed
    exact start
  | cons stmt rest ih =>
    unfold replay at replayed
    rw [List.foldlM_cons] at replayed
    obtain ⟨between, accepted, more⟩ := Option.bind_eq_some_iff.mp replayed
    cases answer : engine.apply stmt db with
    | error why =>
      rw [answer] at accepted
      cases accepted
    | ok between' =>
      rw [answer] at accepted
      cases accepted
      exact ih more (each stmt List.mem_cons_self start answer) fun other member =>
        each other (List.mem_cons_of_mem _ member)

/-! What a program is about to do. -/

section Upcoming
variable {α β : Type}

def Upcoming (stmt : E.Stmt) : Program E α → Prop
  | .write first _ => first = stmt
  | .emit _ next => Upcoming stmt next
  | .generate next => ∃ key, Upcoming stmt (next key)
  | _ => False

theorem upcoming_bind {stmt : E.Stmt} {program : Program E α} {next : α → Program E β}
    (upcoming : Upcoming stmt (program.bind next)) :
    Upcoming stmt program ∨ ∃ value, Upcoming stmt (next value) := by
  induction program with
  | pure value => exact .inr ⟨value, upcoming⟩
  | write first rest => exact .inl upcoming
  | emit event rest ih => exact ih upcoming
  | generate rest ih =>
    obtain ⟨key, upcoming⟩ := upcoming
    rcases ih key upcoming with first | second
    · exact .inl ⟨key, first⟩
    · exact .inr second
  | throw _ | read _ | detached _ _ => exact upcoming.elim

theorem bind_write {stmt : E.Stmt} {program : Program E α} {next : α → Program E β}
    {after : Option E.Violation → Program E β} (begins : program.bind next = .write stmt after) :
    (∃ rest, program = .write stmt rest) ∨ ∃ value, program = .pure value ∧
      next value = .write stmt after := by
  cases program with
  | write first rest =>
    cases begins
    exact .inl ⟨rest, rfl⟩
  | pure value => exact .inr ⟨value, rfl, begins⟩
  | throw _ | read _ | detached _ _ | emit _ _ | generate _ => cases begins

end Upcoming

/-! Schedules: whose turn it is, again and again. -/

section Schedules
variable (waits : E.Stmt → E.Stmt → Bool)

def Request.act (request : Request E Db Kind) (db : Db) :
    Program E Unit → Option (Db × Request E Db Kind)
  | .pure () => (request.sees db).map fun own => (own, { request with phase := .committed })
  | .throw _ => some (db, { request with phase := .aborted })
  | .read next => (request.sees db).map fun own =>
      (db, { request with program := next (request.engine.view own), reads :=
        request.reads ++ [request.engine.view own] })
  | .write stmt next => (request.sees db).map fun own =>
      match request.engine.apply stmt own with
      | .ok _ => (db, { request with program := next none, log := request.log ++ [stmt] })
      | .error why => (db, { request with program := next (some why) })
  | .detached stmt next => (request.engine.applyDetached stmt db).toOption.map fun db' =>
    (db', { request with program := next none })
  | .emit _ next => some (db, { request with program := next })
  | .generate next =>
      some (db, { request with program := next (request.keys request.generated), generated :=
        request.generated + 1 })

def Request.blocked (request : Request E Db Kind) (others : List (Request E Db Kind)) : Bool :=
  match request.program with
  | .write stmt _
  | .detached stmt _ => others.any fun other =>
    decide (other.phase = .running) && other.log.any (waits stmt)
  | _ => false

theorem free_of_any {others : List (Request E Db Kind)} {stmt : E.Stmt}
    (none_held : (others.any fun other => decide (other.phase = .running) &&
      other.log.any (waits stmt)) = false) :
    Free (fun stmt held => waits stmt held = true) others stmt := by
  intro other member running held sent waiting
  rw [List.any_eq_false] at none_held
  have idle := none_held other member
  rw [running] at idle
  simp only [decide_true, Bool.true_and, List.any_eq_true, not_exists, not_and] at idle
  exact idle held sent waiting

theorem act_moves {request request' : Request E Db Kind} {db db' : Db}
    {others : List (Request E Db Kind)} (running : request.phase = .running)
    (unblocked : request.blocked waits others = false)
    (turn : request.act db request.program = some (db', request')) :
    Moves (fun stmt held => waits stmt held = true) others db request db' request' := by
  unfold Request.blocked at unblocked
  generalize program : request.program = left at turn unblocked
  cases left with
  | pure value =>
    obtain ⟨own, seen, same⟩ := Option.map_eq_some_iff.mp turn
    cases same
    exact .commit running program seen
  | throw error =>
    cases turn
    exact .abort running
  | read next =>
    obtain ⟨own, seen, same⟩ := Option.map_eq_some_iff.mp turn
    cases same
    exact .read running program seen
  | write stmt next =>
    obtain ⟨own, seen, same⟩ := Option.map_eq_some_iff.mp turn
    have free := free_of_any waits unblocked
    cases answer : request.engine.apply stmt own with
    | ok own' =>
      rw [answer] at same
      cases same
      exact .written running program seen free answer
    | error why =>
      rw [answer] at same
      cases same
      exact .refused running program seen free answer
  | detached stmt next =>
    obtain ⟨after, accepted, same⟩ := Option.map_eq_some_iff.mp turn
    cases same
    cases answer : request.engine.applyDetached stmt db with
    | ok db' =>
      rw [answer] at accepted
      cases accepted
      exact .detached running program (free_of_any waits unblocked) answer
    | error why =>
      rw [answer] at accepted
      cases accepted
  | emit event next =>
    cases turn
    exact .emit running program
  | generate next =>
    cases turn
    exact .generate running program

def State.turn (state : State E Db Kind) (index : Nat) : State E Db Kind :=
  let before := state.requests.take index
  match state.requests.drop index with
  | [] => state
  | request :: after =>
      if request.phase = .running ∧ request.blocked waits (before ++ after) = false then
        match request.act state.db request.program with
        | some (db', request') => ⟨db', before ++ request' :: after⟩
        | none => state
      else state

def schedule (state : State E Db Kind) (turns : List Nat) : State E Db Kind :=
  turns.foldl (State.turn waits) state

def State.completes (state : State E Db Kind) (index : Nat) : List Kind :=
  match state.requests.drop index with
  | [] => []
  | request :: after =>
      if request.phase = .running ∧
        request.blocked waits (state.requests.take index ++ after) = false then
        match request.act state.db request.program with
        | some (_, request') => request'.completed
        | none => []
      else []

def completions (state : State E Db Kind) : List Nat → List Kind
  | [] => []
  | index :: rest => state.completes waits index ++ completions (state.turn waits index) rest

def State.Meets (clear : Condition E Db Kind) (state : State E Db Kind) (index : Nat) : Prop :=
  ∀ before request after db' request', state.requests = before ++ request :: after →
    before.length = index →
    request.phase = .running → request.blocked waits (before ++ after) = false →
      request.act state.db request.program = some (db', request') →
        clear state.db request request' (before ++ after)

theorem history_turn {clear : Condition E Db Kind} {state : State E Db Kind} {index : Nat}
    (meets : state.Meets waits clear index) :
    History (fun stmt held => waits stmt held = true) clear state (state.completes waits index)
      (state.turn waits index) := by
  unfold State.turn State.completes
  cases split : state.requests.drop index with
  | nil => exact .start
  | cons request after =>
    dsimp only
    split
    · next ready =>
      cases turn : request.act state.db request.program with
      | none => exact .start
      | some result =>
        obtain ⟨db', request'⟩ := result
        have whole : state.requests = state.requests.take index ++ request :: after := by
          rw [← split, List.take_append_drop]
        have length : (state.requests.take index).length = index := by
          have long : state.requests.drop index ≠ [] := by simp [split]
          rw [List.length_take]
          exact Nat.min_eq_left (Nat.le_of_lt (by simpa using long))
        have begun : History (fun stmt held => waits stmt held = true) clear state []
            ⟨state.db, state.requests.take index ++ request :: after⟩ := by
          rw [← whole]
          exact .start
        exact .move begun (act_moves waits ready.1 ready.2 turn)
          (meets _ _ _ _ _ whole length ready.1 ready.2 turn)
    · exact .start

theorem history_schedule (state : State E Db Kind) (turns : List Nat) :
    History (fun stmt held => waits stmt held = true) always state (completions waits state turns)
      (schedule waits state turns) := by
  induction turns generalizing state with
  | nil => exact .start
  | cons index rest ih => exact (history_turn waits fun _ _ _ _ _ _ _ _ _ _ => trivial).trans (ih _)

theorem reaches_schedule (state : State E Db Kind) (turns : List Nat) :
    Reaches (fun stmt held => waits stmt held = true) always state (schedule waits state turns) :=
  (history_schedule waits state turns).reaches

theorem meets_turn {clear : Condition E Db Kind} {state : State E Db Kind} {index : Nat}
    {before after : List (Request E Db Kind)} {request : Request E Db Kind}
    (whole : state.requests = before ++ request :: after) (length : before.length = index)
    (cleared : ∀ request', clear state.db request request' (before ++ after)) :
    state.Meets waits clear index := by
  intro before' request₁ after' _ request' whole' length' _ _ _
  obtain ⟨rfl, rest⟩ := List.append_inj (whole.symm.trans whole') (length.trans length'.symm)
  cases rest
  exact cleared request'

def OnCommits (clear : Condition E Db Kind) : Prop :=
  ∀ db request request' others, request'.phase ≠ .committed → clear db request request' others

theorem meets_of_silent {clear : Condition E Db Kind} {state : State E Db Kind} {index : Nat}
    (idle : OnCommits clear) (silent : state.completes waits index = []) :
    state.Meets waits clear index := by
  intro before request after db' request' whole length running unblocked turn
  refine idle _ _ _ _ fun committed => ?_
  unfold State.completes at silent
  have rest : state.requests.drop index = request :: after := by rw [whole, ← length, List.drop_left]
  have early : state.requests.take index = before := by rw [whole, ← length, List.take_left]
  simp [rest, early, running, unblocked, turn, Request.completed, committed] at silent

/-- A schedule during which nothing is committed meets it. -/
theorem history_silent {clear : Condition E Db Kind} (idle : OnCommits clear)
    (state : State E Db Kind) (turns : List Nat) (silent : completions waits state turns = []) :
    History (fun stmt held => waits stmt held = true) clear state [] (schedule waits state turns) := by
  induction turns generalizing state with
  | nil => exact .start
  | cons index rest ih =>
    obtain ⟨first, later⟩ := List.append_eq_nil_iff.mp silent
    have moved := history_turn waits (meets_of_silent waits idle first)
    rw [first] at moved
    exact moved.trans (ih _ later)

/-- Nothing is committed before a turn that meets it. -/
theorem history_until {clear : Condition E Db Kind} (idle : OnCommits clear)
    {state next : State E Db Kind} {index : Nat} (meets : next.Meets waits clear index)
    {turns : List Nat} (reached : schedule waits state turns = next)
    (silent : completions waits state turns = []) :
    History (fun stmt held => waits stmt held = true) clear state (next.completes waits index)
      (next.turn waits index) := by
  subst reached
  exact (history_silent waits idle state turns silent).trans (history_turn waits meets)

end Schedules

end GenericIam.ReadCommitted
