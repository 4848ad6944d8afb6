import GenericIam.Guards
import GenericIam.Runs

/-! The transaction that each request gets: the connection that it takes from the pool, the
role and tenant that it sets there, and in what state it gives the connection back. -/

namespace GenericIam.PooledConnections
open Database Guards Runs

/-! Connections. -/

inductive Role where
  | iam_app
  | iam_tenant_user
  | iam_superadmin
  deriving DecidableEq

structure OpenTransaction (Id : Type) where
  role : Role
  currentTenantId : Option Id := none
  deriving DecidableEq

structure Connection (Id : Type) where
  role : Role := .iam_app
  transaction : Option (OpenTransaction Id) := none
  deriving DecidableEq

structure Scope (Id : Type) where
  role : Role
  tenantId : Option Id
  deriving DecidableEq

namespace Connection
variable {Id : Type}

def scope (connection : Connection Id) : Scope Id :=
  match connection.transaction with
  | none => ⟨connection.role, none⟩
  | some opened => ⟨opened.role, opened.currentTenantId⟩

def start (connection : Connection Id) : Connection Id :=
  match connection.transaction with
  | none => { connection with transaction := some { role := connection.role } }
  | some _ => connection

def setRole (role : Role) (connection : Connection Id) : Connection Id :=
  match connection.transaction with
  | none => { connection with role }
  | some opened => { connection with transaction := some { opened with role } }

def setTenant (tenantId : Id) (connection : Connection Id) : Connection Id :=
  { connection with transaction := connection.transaction.map fun opened =>
    { opened with currentTenantId := some tenantId } }

/-- The role is kept. -/
def commit (connection : Connection Id) : Connection Id :=
  match connection.transaction with
  | none => connection
  | some opened => { role := opened.role }

/-- The role is undone. -/
def rollback (connection : Connection Id) : Connection Id := { connection with transaction := none }

def resetRole (connection : Connection Id) : Connection Id := connection.setRole .iam_app

end Connection

/-! The pipeline of a request. -/

inductive Fate where
  | unended
  | undone
  | kept
  deriving DecidableEq

inductive Answer (Fate : Type) where
  | done
  | failed (left : Fate)
  deriving DecidableEq

/-- Which of the steps that are tried succeed. A START TRANSACTION that fails may have
opened the transaction, and a ROLLBACK that fails may leave it open. -/
structure Answers where
  connect : Bool := true
  startTransaction : Answer Bool := .done
  setRole : Bool := true
  setConfig : Bool := true
  handler : Bool := true
  commitTransaction : Answer Fate := .done
  rollbackTransaction : Answer Bool := .done
  deriving DecidableEq

inductive Failure where
  | startTransaction
  | setRole
  | setConfig
  | handler
  | commitTransaction
  | rollbackTransaction
  deriving DecidableEq

/-- The runner takes its transaction for active until a COMMIT or a ROLLBACK has been
answered. It is also kept how often the connection has been released and in which scope
the handler has run. -/
structure QueryRunner (Id : Type) where
  connection : Connection Id
  isTransactionActive : Bool := false
  isReleased : Bool := false
  releases : Nat := 0
  handledIn : Option (Scope Id) := none
  deriving DecidableEq

abbrev Stage (Id : Type) := QueryRunner Id → Except Failure Unit × QueryRunner Id

namespace Stage
variable {Id : Type}

def switchMap (first second : Stage Id) : Stage Id := fun runner =>
  match first runner with
  | (.ok _, after) => second after
  | (.error failure, after) => (.error failure, after)

def catchError (stage : Stage Id) (handle : Failure → Stage Id) : Stage Id := fun runner =>
  match stage runner with
  | (.ok _, after) => (.ok (), after)
  | (.error failure, after) => handle failure after

def finalize (stage : Stage Id) (cleanup : QueryRunner Id → QueryRunner Id) : Stage Id := fun runner =>
  ((stage runner).1, cleanup (stage runner).2)

end Stage

section Stages
variable {Id : Type} (user : Option (JwtPayload Id)) (answers : Answers)

def startTransaction : Stage Id := fun runner =>
  match answers.startTransaction with
  | .done =>
      (.ok (), { runner with connection := runner.connection.start, isTransactionActive := true })
  | .failed opened =>
      (.error .startTransaction, { runner with
        connection := if opened then runner.connection.start else runner.connection,
          isTransactionActive := true })

def setRole (role : Role) : Stage Id := fun runner =>
  if answers.setRole then (.ok (), { runner with connection := runner.connection.setRole role })
    else (.error .setRole, runner)

def setConfig (tenantId : Id) : Stage Id := fun runner =>
  if answers.setConfig then (.ok (), { runner with connection := runner.connection.setTenant tenantId })
    else (.error .setConfig, runner)

def prepare : Stage Id :=
  let isSuperAdmin := user.any fun user => user.identityType = .SUPER_ADMIN
  match user.bind JwtPayload.tenantId, isSuperAdmin with
  | some tenantId, false => (setRole answers .iam_tenant_user).switchMap (setConfig answers tenantId)
  | _, true => setRole answers .iam_superadmin
  | none, false => fun runner => (.ok (), runner)

def handle : Stage Id := fun runner =>
  (if answers.handler then .ok () else .error .handler,
    { runner with handledIn := some runner.connection.scope })

def commitTransaction : Stage Id := fun runner =>
  if runner.isTransactionActive then
    match answers.commitTransaction with
    | .done =>
        (.ok (), { runner with connection := runner.connection.commit, isTransactionActive := false })
    | .failed .unended => (.error .commitTransaction, runner)
    | .failed .undone =>
        (.error .commitTransaction, { runner with connection := runner.connection.rollback })
    | .failed .kept =>
        (.error .commitTransaction, { runner with connection := runner.connection.commit })
  else (.ok (), runner)

def rollbackTransaction (failure : Failure) : Stage Id := fun runner =>
  if runner.isTransactionActive then
    match answers.rollbackTransaction with
    | .done =>
        (.error failure,
        { runner with connection := runner.connection.rollback, isTransactionActive := false })
    | .failed stillOpen =>
        (.error .rollbackTransaction,
          { runner with connection := if stillOpen then runner.connection
          else runner.connection.rollback })
  else (.error failure, runner)

def release (runner : QueryRunner Id) : QueryRunner Id :=
  if runner.isReleased then runner
  else { runner with connection := runner.connection.resetRole, isReleased := true, releases :=
    runner.releases + 1 }

def handled : Stage Id :=
  (((handle answers).switchMap (commitTransaction answers)).catchError
    (rollbackTransaction answers)).finalize release

def intercept : Stage Id :=
  ((startTransaction answers).switchMap (prepare user answers)).switchMap (handled answers)

end Stages

/-! What a request makes of a connection that nobody has left anything on. -/

section Request
variable {Id : Type} {user : Option (JwtPayload Id)} {answers : Answers}

def ownScope (user : Option (JwtPayload Id)) : Scope Id :=
  match user with
  | none => ⟨.iam_app, none⟩
  | some user =>
      if user.identityType = .SUPER_ADMIN then ⟨.iam_superadmin, none⟩
      else match user.tenantId with
        | none => ⟨.iam_app, none⟩
        | some tenantId => ⟨.iam_tenant_user, some tenantId⟩

/-- The connection has been released once, with no transaction open and the role of the
pool, and the handler has run in the scope of the caller. -/
structure ComesBack (user : Option (JwtPayload Id)) (runner : QueryRunner Id) : Prop where
  released : runner.releases = 1
  closed : runner.connection.transaction = none
  reset : runner.connection.role = .iam_app
  inScope : runner.handledIn = some (ownScope user)

def Unprepared (user : Option (JwtPayload Id)) (answers : Answers) : Prop :=
  answers.startTransaction ≠ .done ∨
    (ownScope user).role ≠ .iam_app ∧ answers.setRole = false ∨ (ownScope user).tenantId ≠ none ∧
      answers.setConfig = false

/-- A transaction is to be rolled back, and that fails without ending it. -/
def StaysOpen (answers : Answers) : Prop :=
  (answers.handler = false ∨ answers.commitTransaction = .failed .unended) ∧
    answers.rollbackTransaction = .failed true

def scopedRunner (scope : Scope Id) : QueryRunner Id where
  connection := { transaction := some ⟨scope.role, scope.tenantId⟩ }
  isTransactionActive := true

/-- Whose statements the transaction is prepared for. -/
theorem prepare_cases (user : Option (JwtPayload Id)) (answers : Answers) :
    (ownScope user = ⟨.iam_app, none⟩ ∧ prepare user answers = fun runner => (.ok (), runner)) ∨
    (ownScope user = ⟨.iam_superadmin, none⟩ ∧ prepare user answers = setRole answers .iam_superadmin) ∨
    ∃ tenantId, ownScope user = ⟨.iam_tenant_user, some tenantId⟩ ∧
      prepare user answers =
        (setRole answers .iam_tenant_user).switchMap (setConfig answers tenantId) := by
  cases user with
  | none => exact .inl ⟨rfl, rfl⟩
  | some user =>
    by_cases admin : user.identityType = .SUPER_ADMIN
    · refine .inr (.inl ⟨by simp [ownScope, admin], ?_⟩)
      cases named : user.tenantId <;> simp [prepare, admin, named]
    · cases named : user.tenantId with
      | none => exact .inl ⟨by simp [ownScope, admin, named], by simp [prepare, admin, named]⟩
      | some tenantId =>
        exact .inr (.inr ⟨tenantId, by simp [ownScope, admin, named], by simp [prepare, admin, named]⟩)

def opened (user : Option (JwtPayload Id)) (answers : Answers) : Except Failure Unit × QueryRunner Id :=
  (startTransaction answers).switchMap (prepare user answers) { connection := {} }

theorem opened_of_prepared (ready : ¬Unprepared user answers) :
    opened user answers = (.ok (), scopedRunner (ownScope user)) := by
  simp only [Unprepared, not_or, not_and, ne_eq, not_not, Bool.not_eq_false] at ready
  obtain ⟨started, role, tenant⟩ := ready
  simp only [opened, Stage.switchMap, startTransaction, started]
  rcases prepare_cases user answers with ⟨own, stage⟩ | ⟨own, stage⟩ | ⟨tenantId, own, stage⟩
  · simp [own, stage, scopedRunner, Connection.start]
  · have allowed := role (by simp [own])
    simp [own, stage, scopedRunner, setRole, allowed, Connection.start, Connection.setRole]
  · have allowed := role (by simp [own])
    have configured := tenant (by simp [own])
    simp [own, stage, scopedRunner, Stage.switchMap, setRole, setConfig, allowed, configured,
      Connection.start, Connection.setRole,
      Connection.setTenant]

/-- Whatever stage fails, nothing has been released. -/
theorem opened_of_unprepared (unready : Unprepared user answers) :
    ∃ failure after, opened user answers = (.error failure, after) ∧ after.releases = 0 := by
  simp only [opened, Stage.switchMap, startTransaction]
  cases started : answers.startTransaction with
  | failed stillOpened => exact ⟨_, _, rfl, rfl⟩
  | done =>
    have denied : (ownScope user).role ≠ .iam_app ∧ answers.setRole = false ∨
      (ownScope user).tenantId ≠ none ∧ answers.setConfig = false :=
      unready.resolve_left fun failed => failed started
    rcases prepare_cases user answers with ⟨own, _⟩ | ⟨own, stage⟩ | ⟨tenantId, own, stage⟩
    · simp [own] at denied
    · have refused : answers.setRole = false := by simpa [own] using denied
      exact ⟨.setRole,
        { connection := Connection.start {}, isTransactionActive := true }, by
        simp [stage, setRole, refused], rfl⟩
    · cases allowed : answers.setRole with
      | false =>
        exact ⟨.setRole, { connection := Connection.start {}, isTransactionActive := true },
          by simp [stage, Stage.switchMap, setRole, allowed], rfl⟩
      | true =>
        have refused : answers.setConfig = false := by simpa [own, allowed] using denied
        exact ⟨.setConfig,
          { connection := (Connection.start {}).setRole .iam_tenant_user, isTransactionActive := true },
          by simp [stage, Stage.switchMap, setRole, setConfig, allowed, refused], rfl⟩

/-- How the handler and the end of the transaction leave the runner that `release` gets. -/
def settled (scope : Scope Id) (answers : Answers) : QueryRunner Id :=
  ((((handle answers).switchMap (commitTransaction answers)).catchError (rollbackTransaction answers))
    (scopedRunner scope)).2

theorem handled_settled (scope : Scope Id) :
    (handled answers (scopedRunner scope)).2 = release (settled scope answers) := rfl

def Finished (scope : Scope Id) (runner : QueryRunner Id) : Prop :=
  ∃ role active,
    runner = { connection := { role }, isTransactionActive := active, handledIn := some scope }

theorem rollback_open (scope : Scope Id) (answers : Answers) (failure : Failure) :
    Finished scope
      (rollbackTransaction answers failure { scopedRunner scope with handledIn := some scope }).2 ∧
      answers.rollbackTransaction ≠ .failed true ∨
    (rollbackTransaction answers failure { scopedRunner scope with handledIn := some scope }).2 =
      { scopedRunner scope with handledIn := some scope } ∧
        answers.rollbackTransaction = .failed true := by
  cases rolled : answers.rollbackTransaction with
  | done =>
    refine .inl ⟨⟨.iam_app, false, ?_⟩, by simp⟩
    simp [rollbackTransaction, scopedRunner, rolled, Connection.rollback]
  | failed stillOpen =>
    cases stillOpen with
    | false =>
      refine .inl ⟨⟨.iam_app, true, ?_⟩, by simp⟩
      simp [rollbackTransaction, scopedRunner, rolled, Connection.rollback]
    | true =>
      refine .inr ⟨?_, rfl⟩
      simp [rollbackTransaction, scopedRunner, rolled]

/-- A rollback after the end of the transaction does nothing. -/
theorem rollback_finished {scope : Scope Id} {runner : QueryRunner Id}
    (finished : Finished scope runner) (answers : Answers) (failure : Failure) :
    Finished scope (rollbackTransaction answers failure runner).2 := by
  obtain ⟨role, active, rfl⟩ := finished
  unfold rollbackTransaction
  split
  · split
    · exact ⟨role, false, rfl⟩
    · next stillOpen _ => exact ⟨role, active, by cases stillOpen <;> rfl⟩
  · exact ⟨role, active, rfl⟩

theorem settled_cases (scope : Scope Id) (answers : Answers) :
    Finished scope (settled scope answers) ∧ ¬StaysOpen answers ∨
      settled scope answers = { scopedRunner scope with handledIn := some scope } ∧
        StaysOpen answers := by
  have start : (scopedRunner scope).connection.scope = scope := rfl
  cases accepted : answers.handler with
  | false =>
    have same : settled scope answers =
        (rollbackTransaction answers .handler
        { scopedRunner scope with handledIn := some scope }).2 := by
      simp [settled, Stage.catchError, Stage.switchMap, handle, accepted, start]
    rw [same]
    refine (rollback_open scope answers .handler).imp (And.imp_right ?_) (And.imp_right ?_)
    · exact fun ended stays => ended stays.2
    · exact fun failed => ⟨.inl accepted, failed⟩
  | true =>
    have same : settled scope answers =
        ((commitTransaction answers).catchError (rollbackTransaction answers)
            { scopedRunner scope with handledIn := some scope }).2 := by
      simp [settled, Stage.catchError, Stage.switchMap, handle, accepted, start]
    rw [same]
    cases committed : answers.commitTransaction with
    | done =>
      refine .inl ⟨⟨scope.role, false, ?_⟩, ?_⟩
      · simp [Stage.catchError, commitTransaction, scopedRunner, committed, Connection.commit]
      · simp [StaysOpen, accepted, committed]
    | failed fate =>
      cases fate with
      | unended =>
        have refused :
          ((commitTransaction answers).catchError (rollbackTransaction answers)
          { scopedRunner scope with handledIn := some scope }) =
            rollbackTransaction answers .commitTransaction
                { scopedRunner scope with handledIn := some scope } := by
          simp [Stage.catchError, commitTransaction, scopedRunner, committed]
        rw [refused]
        refine (rollback_open scope answers .commitTransaction).imp (And.imp_right ?_)
          (And.imp_right ?_)
        · exact fun ended stays => ended stays.2
        · exact fun failed => ⟨.inr committed, failed⟩
      | undone =>
        have finished :
          Finished scope { scopedRunner scope with connection := {}, handledIn := some scope } :=
          ⟨.iam_app, true, rfl⟩
        refine .inl ⟨?_, by simp [StaysOpen, accepted, committed]⟩
        have refused :
          ((commitTransaction answers).catchError (rollbackTransaction answers)
          { scopedRunner scope with handledIn := some scope }) =
            rollbackTransaction answers .commitTransaction
                { scopedRunner scope with connection := {}, handledIn := some scope } := by
          simp [Stage.catchError, commitTransaction, scopedRunner, committed, Connection.rollback]
        rw [refused]
        exact rollback_finished finished answers _
      | kept =>
        have finished :
          Finished scope
          { scopedRunner scope with connection := { role := scope.role }, handledIn := some scope } :=
          ⟨scope.role, true, rfl⟩
        refine .inl ⟨?_, by simp [StaysOpen, accepted, committed]⟩
        have refused :
          (commitTransaction answers).catchError (rollbackTransaction answers)
              { scopedRunner scope with handledIn := some scope } =
            rollbackTransaction answers .commitTransaction
              { scopedRunner scope with connection := { role := scope.role }, handledIn := some scope } := by
          simp [Stage.catchError, commitTransaction, scopedRunner, committed, Connection.commit]
        rw [refused]
        exact rollback_finished finished answers _

/-- The connection comes back when nothing fails that is outside the inner pipe, and the
rollback there does not leave the transaction open. -/
theorem comesBack_iff (user : Option (JwtPayload Id)) (answers : Answers) :
    ComesBack user (intercept user answers { connection := {} }).2 ↔
      ¬(Unprepared user answers ∨ StaysOpen answers) := by
  have stages : intercept user answers { connection := {} } =
      (match opened user answers with
        | (.ok _, after) => handled answers after
        | (.error failure, after) => (.error failure, after)) := rfl
  by_cases unready : Unprepared user answers
  · obtain ⟨failure, after, failed, kept⟩ := opened_of_unprepared unready
    rw [stages, failed]
    refine iff_of_false ?_ fun neither => neither (.inl unready)
    intro back
    have released : after.releases = 1 := back.released
    rw [kept] at released
    cases released
  · rw [stages, opened_of_prepared unready]
    have inner : (handled answers (scopedRunner (ownScope user))).2 =
      release (settled (ownScope user) answers) := handled_settled _
    rw [inner]
    rcases settled_cases (ownScope user) answers with ⟨⟨role, active, finished⟩, ended⟩ | ⟨same, stays⟩
    · refine iff_of_true ?_ fun either => either.elim unready ended
      rw [finished]
      exact ⟨rfl, rfl, rfl, rfl⟩
    · refine iff_of_false ?_ fun neither => neither (.inr stays)
      intro back
      have closed := back.closed
      rw [same] at closed
      cases closed

end Request
/-! The pool. -/

def maxConnections : Nat := 20

structure Request (Id : Type) where
  url : String
  user : Option (JwtPayload Id)
  answers : Answers := {}

/-- The connections that wait for a request, those that requests hold, and how many have
not been given back by a request that has ended. -/
structure Pool (Id : Type) where
  idle : List (Connection Id) := []
  running : List (Request Id × Connection Id) := []
  lost : Nat := 0

/-- Requests overlap in any way: one begins with the idle connection that the pool picks or
a new one, and one of those under way ends. -/
inductive Event (Id : Type) where
  | begins (pick : Nat) (request : Request Id)
  | ends (index : Nat)

section Pool
variable {Id : Type}

def Pool.size (pool : Pool Id) : Nat := pool.idle.length + pool.running.length + pool.lost

def Pool.connect (pick : Nat) (pool : Pool Id) : Option (Connection Id × Pool Id) :=
  match pool.idle[pick]? with
  | some connection => some (connection, { pool with idle := pool.idle.eraseIdx pick })
  | none => if pool.idle.isEmpty && pool.size < maxConnections then some ({}, pool) else none

/-- A request that is not given a connection waits for one, and one for the health of the
service asks for none. -/
def Event.next : Event Id → Pool Id → Pool Id
  | .begins pick request, pool =>
      if "/health".toList.isPrefixOf request.url.toList then pool
      else if request.answers.connect then
        match pool.connect pick with
        | some (connection, rest) => { rest with running := rest.running ++ [(request, connection)] }
        | none => pool
      else pool
  | .ends index, pool =>
      match pool.running[index]? with
      | none => pool
      | some (request, connection) =>
          let runner := (intercept request.user request.answers { connection }).2
          let rest := { pool with running := pool.running.eraseIdx index }
          if runner.releases = 0 then { rest with lost := rest.lost + 1 }
            else { rest with idle := rest.idle ++ [runner.connection] }

def Returns : Event Id → Pool Id → Prop
  | .begins _ _, _ => True
  | .ends index, pool => ∀ request connection, pool.running[index]? = some (request, connection) →
      ComesBack request.user (intercept request.user request.answers { connection }).2

/-- In the request that ends a statement has failed that prepares the transaction, or the
rollback while the transaction was open. -/
def Spoils : Event Id → Pool Id → Prop
  | .begins _ _, _ => False
  | .ends index, pool => ∃ request connection, pool.running[index]? = some (request, connection) ∧
      (Unprepared request.user request.answers ∨ StaysOpen request.answers)

/-- Nobody has left anything on a connection. -/
structure Tidy (pool : Pool Id) : Prop where
  idle : ∀ connection ∈ pool.idle, connection = {}
  running : ∀ entry ∈ pool.running, entry.2 = {}

theorem tidy_connect {pick : Nat} {pool rest : Pool Id} {connection : Connection Id}
    (tidy : Tidy pool) (taken : pool.connect pick = some (connection, rest)) :
    connection = {} ∧ Tidy rest ∧ rest.lost = pool.lost := by
  unfold Pool.connect at taken
  split at taken
  · next found =>
    cases taken
    refine ⟨tidy.idle _ (List.mem_of_getElem? found), ⟨?_, tidy.running⟩, rfl⟩
    intro other member
    exact tidy.idle other (List.mem_of_mem_eraseIdx member)
  · split at taken
    · cases taken
      exact ⟨rfl, tidy, rfl⟩
    · cases taken

theorem returns_iff {pool : Pool Id} (tidy : Tidy pool) (event : Event Id) :
    Returns event pool ↔ ¬Spoils event pool := by
  cases event with
  | begins pick request => exact iff_of_true trivial id
  | ends index =>
    have clean : ∀ request connection, pool.running[index]? = some (request, connection) →
      connection = {} :=
      fun request connection found => tidy.running _ (List.mem_of_getElem? found)
    constructor
    · intro returns spoils
      obtain ⟨request, connection, found, spoiled⟩ := spoils
      have back := returns request connection found
      rw [clean request connection found] at back
      exact (comesBack_iff request.user request.answers).mp back spoiled
    · intro calm request connection found
      rw [clean request connection found]
      exact (comesBack_iff request.user request.answers).mpr fun spoiled =>
        calm ⟨request, connection, found, spoiled⟩

theorem ComesBack.clean {user : Option (JwtPayload Id)} {runner : QueryRunner Id}
    (back : ComesBack user runner) : runner.connection = {} := by
  have closed := back.closed
  have reset := back.reset
  cases connection : runner.connection with
  | mk role transaction =>
    rw [connection] at closed reset
    cases closed
    cases reset
    rfl

/-- What returned connections keep of the pool. -/
theorem tidy_next {event : Event Id} {pool : Pool Id} (tidy : Tidy pool)
    (returns : Returns event pool) :
    Tidy (event.next pool) ∧ (event.next pool).lost = pool.lost := by
  cases event with
  | begins pick request =>
    simp only [Event.next]
    split
    · exact ⟨tidy, rfl⟩
    · split
      · split
        · next connection rest taken =>
          obtain ⟨clean, kept, same⟩ := tidy_connect tidy taken
          refine ⟨⟨kept.idle, ?_⟩, same⟩
          intro entry member
          rcases List.mem_append.mp member with old | new
          · exact kept.running entry old
          · rw [List.mem_singleton.mp new]
            exact clean
        · exact ⟨tidy, rfl⟩
      · exact ⟨tidy, rfl⟩
  | ends index =>
    simp only [Event.next]
    split
    · exact ⟨tidy, rfl⟩
    · next request connection found =>
      have back := returns request connection found
      rw [if_neg (by rw [back.released]; exact Nat.one_ne_zero)]
      refine ⟨⟨?_, ?_⟩, rfl⟩
      · intro other member
        rcases List.mem_append.mp member with old | new
        · exact tidy.idle other old
        · rw [List.mem_singleton.mp new]
          exact back.clean
      · intro entry member
        exact tidy.running entry (List.mem_of_mem_eraseIdx member)

/-- However requests overlap, each of them gives back the connection that it has taken, as
it was, exactly when nothing fails that is outside the inner pipe and no rollback leaves
its transaction open; then none is lost, and no handler runs in the scope of another. -/
theorem connections_return_iff {pool : Pool Id} (tidy : Tidy pool) (events : List (Event Id)) :
    (EveryStep Event.next Returns pool events ↔
      EveryStep Event.next (fun event pool => ¬Spoils event pool) pool events) ∧
    (EveryStep Event.next (fun event pool => ¬Spoils event pool) pool events →
      Tidy (final Event.next pool events) ∧ (final Event.next pool events).lost = pool.lost) := by
  have keeps : ∀ event (there : Pool Id), Tidy there ∧ there.lost = pool.lost → Returns event there →
      Tidy (event.next there) ∧ (event.next there).lost = pool.lost := by
    intro event there before returns
    obtain ⟨after, kept⟩ := tidy_next before.1 returns
    exact ⟨after, kept.trans before.2⟩
  have same : EveryStep Event.next Returns pool events ↔
    EveryStep Event.next (fun event pool => ¬Spoils event pool) pool events :=
    everyStep_congr_of ⟨tidy, rfl⟩ (fun event there before => returns_iff before.1 event) keeps
  refine ⟨same, ?_⟩
  intro calm
  exact (same.mpr calm).final ⟨tidy, rfl⟩ keeps

def Leaks (request : Request Id) : Prop :=
  "/health".toList.isPrefixOf request.url.toList = false ∧ request.answers.connect = true ∧
    Unprepared request.user request.answers

def oneAfterAnother (requests : List (Request Id)) : List (Event Id) :=
  requests.flatMap fun request => [.begins 0 request, .ends 0]

/-- Each of them costs the pool a connection, as long as there is one. -/
theorem lost_of_leaks {requests : List (Request Id)} (leaks : ∀ request ∈ requests, Leaks request)
    {lost : Nat} (room : lost + requests.length ≤ maxConnections) :
    final Event.next ({ lost } : Pool Id) (oneAfterAnother requests) =
      { lost := lost + requests.length } := by
  induction requests generalizing lost with
  | nil => rfl
  | cons request rest ih =>
    obtain ⟨url, connected, unready⟩ := leaks request List.mem_cons_self
    have free : lost < maxConnections := by
      simp only [List.length_cons] at room
      omega
    have begun : Event.next (.begins 0 request) ({ lost } : Pool Id) =
        { running := [(request, {})], lost } := by
      simp only [Event.next, url, connected, Bool.false_eq_true, if_false, if_true]
      simp [Pool.connect, Pool.size, free]
    obtain ⟨failure, after, failed, kept⟩ := opened_of_unprepared unready
    have stages : intercept request.user request.answers { connection := {} } =
        (.error failure, after) := by
      have whole : intercept request.user request.answers { connection := {} } =
          (match opened request.user request.answers with
            | (.ok _, after) => handled request.answers after
            | (.error failure, after) => (.error failure, after)) := rfl
      rw [whole, failed]
    have ended : Event.next (.ends 0) ({ running := [(request, {})], lost } : Pool Id) =
        { lost := lost + 1 } := by
      simp [Event.next, stages, kept]
    calc final Event.next ({ lost } : Pool Id) (oneAfterAnother (request :: rest))
        = final Event.next (Event.next (.ends 0) (Event.next (.begins 0 request) { lost }))
          (oneAfterAnother rest) := rfl
      _ = final Event.next { lost := lost + 1 } (oneAfterAnother rest) := by rw [begun, ended]
      _ = { lost := lost + 1 + rest.length } := by
          refine ih (fun other member => leaks other (List.mem_cons_of_mem _ member)) ?_
          simp only [List.length_cons] at room
          omega
      _ = { lost := lost + (request :: rest).length } := by
          simp only [List.length_cons]
          congr 1
          omega

end Pool

/-! A clerk whose tenant cannot be set. -/

section Example

def clerk : JwtPayload Uuid := ⟨2, some 1, .USER⟩

def visit (answers : Answers) : Request Uuid := ⟨"/users", some clerk, answers⟩

theorem tidy_empty : Tidy ({} : Pool Uuid) := by
  constructor <;> simp

theorem visit_leaks : Leaks (visit { setConfig :=
  false }) := ⟨by decide, rfl, .inr (.inr ⟨by decide, rfl⟩)⟩

/-- The connection is gone, and after twenty such requests the pool has none left. -/
theorem connections_lost :
    Tidy ({} : Pool Uuid) ∧
      ¬EveryStep Event.next Returns {} (oneAfterAnother [visit { setConfig := false }]) ∧
    (final Event.next {}
      (oneAfterAnother (List.replicate maxConnections (visit { setConfig := false })))).connect 0 =
      none := by
  refine ⟨tidy_empty, ?_, ?_⟩
  · intro every
    have back := every.2.1 (visit { setConfig := false }) {} rfl
    exact Nat.zero_ne_one back.released
  · have all : ∀ request ∈ List.replicate maxConnections (visit { setConfig := false }),
      Leaks request := by
      intro request member
      rw [List.eq_of_mem_replicate member]
      exact visit_leaks
    have used := lost_of_leaks all (Nat.le_of_eq (by simp) : 0 + _ ≤ maxConnections)
    rw [used]
    simp [Pool.connect, Pool.size]

/-- A handler that fails does no harm. -/
theorem connections_return_clerk :
    EveryStep Event.next Returns {} (oneAfterAnother [visit { handler := false }]) := by
  refine (connections_return_iff tidy_empty _).1.mpr ⟨id, ?_, trivial⟩
  intro spoils
  obtain ⟨request, connection, found, spoiled⟩ := spoils
  cases found
  rcases spoiled with unready | stays
  · rcases unready with failed | ⟨_, denied⟩ | ⟨_, denied⟩
    · exact failed rfl
    · cases denied
    · cases denied
  · cases stays.2

end Example
end GenericIam.PooledConnections
