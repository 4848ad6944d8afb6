import Mathlib.Data.List.Basic
import Mathlib.Tactic.Common

/-! `runInTransaction`: who opens, ends and releases a query runner when operations run
in transactions of their own or join the transaction of their caller. -/

namespace GenericIam.OwnedTransactions

inductive IsolationLevel where
  | readUncommitted
  | readCommitted
  | repeatableRead
  | serializable
  deriving DecidableEq

/-- The position of the runner that the manager belongs to, none for the one of the data source. -/
structure EntityManager where
  queryRunner : Option Nat
  deriving DecidableEq

structure RunInTransactionOptions where
  isolationLevel : Option IsolationLevel := none
  existingManager : Option EntityManager := none
  deriving DecidableEq

/-- `written` is what has been sent in the transaction of the runner, `kept` what a COMMIT
has made durable. -/
structure QueryRunner (Stmt : Type) where
  isTransactionActive : Bool := false
  written : List Stmt := []
  kept : List Stmt := []
  releases : Nat := 0
  deriving DecidableEq

inductive Call where
  | createQueryRunner
  | connect
  | startTransaction (isolationLevel : Option IsolationLevel)
  | commitTransaction
  | rollbackTransaction
  | release
  deriving DecidableEq

structure DataSource (Stmt : Type) where
  runners : List (QueryRunner Stmt) := []
  calls : List (Nat × Call) := []
  deriving DecidableEq

/-- How the calls on a runner that may fail are answered. A COMMIT that fails has not been
carried out. -/
structure Answers (Error : Type) where
  connect : Option Error := none
  startTransaction : Option Error := none
  commitTransaction : Option Error := none
  rollbackTransaction : Option Error := none

namespace DataSource
variable {Stmt : Type}

def createQueryRunner (dataSource : DataSource Stmt) : DataSource Stmt where
  runners := dataSource.runners ++ [{}]
  calls := dataSource.calls ++ [(dataSource.runners.length, .createQueryRunner)]

def call (dataSource : DataSource Stmt) (queryRunner : Nat) (made : Call)
    (change : QueryRunner Stmt → QueryRunner Stmt) :
    DataSource Stmt where
  runners := dataSource.runners.modify queryRunner change
  calls := dataSource.calls ++ [(queryRunner, made)]

def write (dataSource : DataSource Stmt) (manager : EntityManager) (stmt : Stmt) : DataSource Stmt :=
  match manager.queryRunner with
  | none => dataSource
  | some queryRunner =>
      { dataSource with runners := dataSource.runners.modify queryRunner fun runner =>
        { runner with written := runner.written ++ [stmt] } }

def isTransactionActive (dataSource : DataSource Stmt) (manager : EntityManager) : Bool :=
  (manager.queryRunner.bind fun queryRunner =>
    dataSource.runners[queryRunner]?).any QueryRunner.isTransactionActive

end DataSource

section Code
variable {Stmt Error Value : Type}

/-- What an asynchronous function makes of the data source, and how its promise is settled. -/
abbrev Effect (Stmt Error Value : Type) := DataSource Stmt → Except Error Value × DataSource Stmt

def attempt (queryRunner : Nat) (made : Call) (answer : Option Error)
    (change : QueryRunner Stmt → QueryRunner Stmt) :
    Effect Stmt Error Unit :=
  fun dataSource => match answer with
    | none => (.ok (), dataSource.call queryRunner made change)
    | some error => (.error error, dataSource.call queryRunner made id)

def andThen {First : Type} (first : Effect Stmt Error First)
    (second : First → Effect Stmt Error Value) : Effect Stmt Error Value :=
  fun dataSource => match first dataSource with
    | (.ok value, after) => second value after
    | (.error error, after) => (.error error, after)

def commitTransaction (answers : Answers Error) (queryRunner : Nat) : Effect Stmt Error Unit :=
  attempt queryRunner .commitTransaction answers.commitTransaction fun runner =>
    { runner with isTransactionActive := false, kept := runner.written }

def rollbackTransaction (answers : Answers Error) (queryRunner : Nat) : Effect Stmt Error Unit :=
  attempt queryRunner .rollbackTransaction answers.rollbackTransaction fun runner =>
    { runner with isTransactionActive := false }

def guarded (answers : Answers Error) (queryRunner : Nat) (operation : Effect Stmt Error Value) :
    Effect Stmt Error Value :=
  fun dataSource =>
    match andThen operation (fun result =>
      andThen (commitTransaction answers queryRunner) fun _ after => (.ok result, after))
        dataSource with
    | (.ok result, after) => (.ok result, after)
    | (.error error, after) =>
        andThen (rollbackTransaction answers queryRunner) (fun _ after => (.error error, after)) after

def release (queryRunner : Nat) (dataSource : DataSource Stmt) : DataSource Stmt :=
  dataSource.call queryRunner .release fun runner => { runner with releases := runner.releases + 1 }

def joined (dataSource : DataSource Stmt) (options : RunInTransactionOptions) : Option EntityManager :=
  options.existingManager.filter dataSource.isTransactionActive

def runInTransaction (answers : Nat → Answers Error)
    (operation : EntityManager → Effect Stmt Error Value) (options : RunInTransactionOptions) :
    Effect Stmt Error Value := fun dataSource =>
  match joined dataSource options with
  | some existing => operation existing dataSource
  | none =>
      let queryRunner := dataSource.runners.length
      andThen (attempt queryRunner .connect (answers queryRunner).connect id) (fun _ =>
        andThen (attempt queryRunner (.startTransaction options.isolationLevel)
          (answers queryRunner).startTransaction
          fun runner => { runner with isTransactionActive := true }) fun _ started =>
            let settled :=
              guarded (answers queryRunner) queryRunner (operation ⟨some queryRunner⟩) started
            (settled.1, release queryRunner settled.2)) dataSource.createQueryRunner

/-- The operations that are passed to `runInTransaction`: they write through the manager they
are given, throw, and call `runInTransaction` themselves with options of their choice. -/
inductive Operation (Stmt Error Value : Type) where
  | return (value : Value)
  | throw (error : Error)
  | write (stmt : Stmt) (next : Operation Stmt Error Value)
  | runInTransaction (operation : Operation Stmt Error Value) (options : EntityManager →
      RunInTransactionOptions)
      (next : Except Error Value → Operation Stmt Error Value)

def perform (answers : Nat → Answers Error) :
    Operation Stmt Error Value → EntityManager → Effect Stmt Error Value
  | .return value, _, dataSource => (.ok value, dataSource)
  | .throw error, _, dataSource => (.error error, dataSource)
  | .write stmt next, manager, dataSource =>
    perform answers next manager (dataSource.write manager stmt)
  | .runInTransaction operation options next, manager, dataSource =>
      let inner := runInTransaction answers (perform answers operation) (options manager) dataSource
      perform answers (next inner.1) manager inner.2

end Code

/-! What a run leaves to the owners of the runners that were there before. -/

section Frame
variable {Stmt Error Value : Type}

def QueryRunner.lifecycle (runner : QueryRunner Stmt) : QueryRunner Stmt :=
  { runner with written := [] }

/-- The first `count` runners are as before but for what has been written, and all new calls
are on other runners. -/
structure Untouched (count : Nat) (before after : DataSource Stmt) : Prop where
  more : before.runners.length ≤ after.runners.length
  calls : ∃ made, after.calls = before.calls ++ made ∧ ∀ call ∈ made, count ≤ call.1
  runners : ∀ index < count,
    after.runners[index]?.map QueryRunner.lifecycle = before.runners[index]?.map QueryRunner.lifecycle

namespace Untouched
variable {count : Nat} {before during after : DataSource Stmt}

theorem refl (count : Nat) (dataSource : DataSource Stmt) : Untouched count dataSource dataSource :=
  ⟨Nat.le_refl _, ⟨[], by simp, by simp⟩, fun _ _ => rfl⟩

theorem trans (first : Untouched count before during) (second : Untouched count during after) :
    Untouched count before after := by
  obtain ⟨earlier, before_calls, before_far⟩ := first.calls
  obtain ⟨later, after_calls, after_far⟩ := second.calls
  refine ⟨Nat.le_trans first.more second.more, ⟨earlier ++ later, ?_, ?_⟩, fun index within => ?_⟩
  · rw [after_calls, before_calls, List.append_assoc]
  · intro call member
    exact (List.mem_append.mp member).elim (before_far call) (after_far call)
  · rw [second.runners index within, first.runners index within]

theorem createQueryRunner (within : count ≤ before.runners.length) :
    Untouched count before before.createQueryRunner := by
  refine ⟨by simp [DataSource.createQueryRunner],
    ⟨_, rfl, by simpa using within⟩, fun index small => ?_⟩
  rw [DataSource.createQueryRunner, List.getElem?_append_left (Nat.lt_of_lt_of_le small within)]

theorem call {queryRunner : Nat} (other : count ≤ queryRunner) (made : Call)
    (change : QueryRunner Stmt → QueryRunner Stmt) :
    Untouched count before (before.call queryRunner made change) := by
  refine ⟨by simp [DataSource.call], ⟨_, rfl, by simpa using other⟩, fun index small => ?_⟩
  rw [DataSource.call, List.getElem?_modify_ne _ _ (by omega)]

theorem write (manager : EntityManager) (stmt : Stmt) :
    Untouched count before (before.write manager stmt) := by
  unfold DataSource.write
  split
  · exact refl _ _
  · refine ⟨by simp, ⟨[], by simp, by simp⟩, fun index _ => ?_⟩
    rw [List.getElem?_modify]
    cases before.runners[index]? with
    | none => rfl
    | some runner =>
      simp only [Option.map_eq_map, Option.map_some]
      split <;> rfl

theorem attempt {queryRunner : Nat} (other : count ≤ queryRunner) (made : Call) (answer : Option Error)
    (change : QueryRunner Stmt → QueryRunner Stmt) :
    Untouched count before (OwnedTransactions.attempt queryRunner made answer change before).2 := by
  unfold OwnedTransactions.attempt
  split
  · exact call other made change
  · exact call other made id

theorem andThen {First : Type} {first : Effect Stmt Error First}
    {second : First → Effect Stmt Error Value} (begins : Untouched count before (first before).2)
    (goes_on : ∀ value during, before.runners.length ≤ during.runners.length →
      Untouched count during (second value during).2) :
    Untouched count before (OwnedTransactions.andThen first second before).2 := by
  unfold OwnedTransactions.andThen
  split
  · next value during returned =>
    rw [returned] at begins
    exact begins.trans (goes_on value during begins.more)
  · next error during rejected =>
    rw [rejected] at begins
    exact begins

theorem guarded {queryRunner : Nat} (other : count ≤ queryRunner) {operation : Effect Stmt Error Value}
    (runs : Untouched count before (operation before).2) (own : Answers Error) :
    Untouched count before (OwnedTransactions.guarded own queryRunner operation before).2 := by
  have tried : Untouched count before (OwnedTransactions.andThen operation
      (fun result => OwnedTransactions.andThen (commitTransaction own queryRunner) fun _ after =>
        (.ok result, after)) before).2 :=
    andThen runs fun _ _ _ => andThen (attempt other _ _ _) fun _ during _ => refl count during
  unfold OwnedTransactions.guarded
  split
  · next result during returned =>
    rw [returned] at tried
    exact tried
  · next error during rejected =>
    rw [rejected] at tried
    exact tried.trans (andThen (attempt other _ _ _) fun _ during _ => refl count during)

/-- A runner that the call opens itself is not among those that were there. -/
theorem runInTransaction (answers : Nat → Answers Error)
    {operation : EntityManager → Effect Stmt Error Value} (within : count ≤ before.runners.length)
    (runs : ∀ manager before, count ≤ before.runners.length →
      Untouched count before (operation manager before).2)
    (options : RunInTransactionOptions) :
    Untouched count before (OwnedTransactions.runInTransaction answers operation options before).2 := by
  unfold OwnedTransactions.runInTransaction
  split
  · exact runs _ before within
  · have created : before.runners.length ≤ before.createQueryRunner.runners.length := by
      simp [DataSource.createQueryRunner]
    refine (createQueryRunner within).trans (andThen (attempt within _ _ _) fun _ connected grown =>
      andThen (attempt within _ _ _) ?_)
    intro _ started later
    exact (guarded within (runs _ started (by omega)) _).trans (call within _ _)

end Untouched

theorem untouched_perform (answers : Nat → Answers Error) (operation : Operation Stmt Error Value)
    (manager : EntityManager) {count : Nat} {before : DataSource Stmt}
    (within : count ≤ before.runners.length) :
    Untouched count before (perform answers operation manager before).2 := by
  induction operation generalizing manager before with
  | «return» value => exact .refl _ _
  | throw error => exact .refl _ _
  | write stmt next ih =>
    have written : Untouched count before (before.write manager stmt) := .write manager stmt
    exact written.trans (ih manager (Nat.le_trans within written.more))
  | runInTransaction operation options next ih_operation ih_next =>
    have inner :=
      Untouched.runInTransaction answers within (fun manager _ small =>
      ih_operation manager small) (options manager)
    exact inner.trans (ih_next _ manager (Nat.le_trans within inner.more))

end Frame

/-! The runner of a call that joins nothing. -/

section Owner
variable {Stmt Error Value : Type} {queryRunner : Nat}

/-- What was written in the transaction is kept when the call returns and not kept when it
rejects. -/
def Settled : Except Error Value → QueryRunner Stmt → Prop
  | .ok _, runner => runner.kept = runner.written
  | .error _, runner => runner.kept = []

theorem runner_call {dataSource : DataSource Stmt} {runner : QueryRunner Stmt}
    (held : dataSource.runners[queryRunner]? = some runner) (made : Call)
    (change : QueryRunner Stmt → QueryRunner Stmt) :
    (dataSource.call queryRunner made change).runners[queryRunner]? = some (change runner) := by
  simp [DataSource.call, held]

/-- The `catch` block throws its error, or the one of the rollback, and nothing is kept. -/
def rolledBack (own : Answers Error) (queryRunner : Nat) (error : Error) : Effect Stmt Error Value :=
  andThen (rollbackTransaction own queryRunner) fun _ after => (.error error, after)

theorem settled_rolledBack (own : Answers Error) (error : Error) {during : DataSource Stmt}
    {runner : QueryRunner Stmt} (held : during.runners[queryRunner]? = some runner)
    (unreleased : runner.releases = 0) (unkept : runner.kept = []) :
    ∃ after, (@rolledBack Stmt Error Value own queryRunner error during).2.runners[queryRunner]? =
      some after ∧ after.releases = 0 ∧
      Settled (@rolledBack Stmt Error Value own queryRunner error during).1 after := by
  unfold rolledBack rollbackTransaction attempt andThen
  cases own.rollbackTransaction with
  | none => exact ⟨_, runner_call held _ _, unreleased, unkept⟩
  | some failure => exact ⟨_, runner_call held _ _, unreleased, unkept⟩

/-- However the blocks end, the runner is still to be released, and its writes are kept when
they return and only then. -/
theorem settled_guarded (own : Answers Error) {operation : Effect Stmt Error Value}
    {started : DataSource Stmt} {runner : QueryRunner Stmt}
    (held : (operation started).2.runners[queryRunner]? = some runner)
    (unreleased : runner.releases = 0) (unkept : runner.kept = []) :
    ∃ after, (guarded own queryRunner operation started).2.runners[queryRunner]? = some after ∧
      after.releases = 0 ∧
      Settled (guarded own queryRunner operation started).1 after := by
  cases ran : operation started with
  | mk outcome during =>
    rw [ran] at held
    cases outcome with
    | error error =>
      have same : guarded own queryRunner operation started =
          rolledBack own queryRunner error during := by
        simp only [guarded, rolledBack, andThen, ran]
      rw [same]
      exact settled_rolledBack own error held unreleased unkept
    | ok result =>
      cases committed : own.commitTransaction with
      | none =>
        have same : guarded own queryRunner operation started =
            (.ok result, during.call queryRunner .commitTransaction fun runner =>
            { runner with isTransactionActive := false, kept := runner.written }) := by
          simp only [guarded, andThen, ran, commitTransaction, attempt, committed]
        rw [same]
        exact ⟨_, runner_call held _ _, unreleased, rfl⟩
      | some error =>
        have same : guarded own queryRunner operation started =
            rolledBack own queryRunner error (during.call queryRunner .commitTransaction id) := by
          simp only [guarded, rolledBack, andThen, ran, commitTransaction, attempt, committed]
        rw [same]
        exact settled_rolledBack own error (runner_call held _ _) unreleased unkept

end Owner

/-! Joining. -/

section Joining
variable {Stmt Error Value : Type}

/-- Every call of `runInTransaction` in the operation passes on the manager it has been given. -/
def Operation.PassesManagerOn : Operation Stmt Error Value → Prop
  | .return _ | .throw _ => True
  | .write _ next => next.PassesManagerOn
  | .runInTransaction operation options next =>
      (∀ manager, (options manager).existingManager = some manager) ∧ operation.PassesManagerOn ∧
        ∀ answer, (next answer).PassesManagerOn

structure NoCalls (before after : DataSource Stmt) : Prop where
  calls : after.calls = before.calls
  runners : after.runners.length = before.runners.length
  active : ∀ manager, after.isTransactionActive manager = before.isTransactionActive manager

theorem NoCalls.trans {before during after : DataSource Stmt} (first : NoCalls before during)
    (second : NoCalls during after) :
    NoCalls before after :=
  ⟨second.calls.trans first.calls, second.runners.trans first.runners, fun manager =>
    (second.active manager).trans (first.active manager)⟩

theorem noCalls_write (dataSource : DataSource Stmt) (manager : EntityManager) (stmt : Stmt) :
    NoCalls dataSource (dataSource.write manager stmt) := by
  unfold DataSource.write
  split
  · exact ⟨rfl, rfl, fun _ => rfl⟩
  · refine ⟨rfl, by simp, fun other => ?_⟩
    obtain ⟨queryRunner⟩ := other
    cases queryRunner with
    | none => rfl
    | some index =>
      simp only [DataSource.isTransactionActive, Option.bind_some, List.getElem?_modify]
      cases dataSource.runners[index]? with
      | none => rfl
      | some runner =>
        simp only [Option.map_eq_map, Option.map_some, Option.any_some]
        split <;> rfl

theorem noCalls_perform (answers : Nat → Answers Error) (operation : Operation Stmt Error Value)
    (passes : operation.PassesManagerOn) {manager : EntityManager}
    {before : DataSource Stmt} (active : before.isTransactionActive manager = true) :
    NoCalls before (perform answers operation manager before).2 := by
  induction operation generalizing manager before with
  | «return» value => exact ⟨rfl, rfl, fun _ => rfl⟩
  | throw error => exact ⟨rfl, rfl, fun _ => rfl⟩
  | write stmt next ih =>
    have written := noCalls_write before manager stmt
    exact written.trans (ih passes ((written.active manager).trans active))
  | runInTransaction operation options next ih_operation ih_next =>
    obtain ⟨passed, inside, afterwards⟩ := passes
    have joins : joined before (options manager) = some manager := by simp [joined, passed, active]
    have same : runInTransaction answers (perform answers operation) (options manager) before =
      perform answers operation manager before := by
      simp only [runInTransaction, joins]
    have inner := ih_operation inside active
    simp only [perform, same]
    exact inner.trans (ih_next _ (afterwards _) ((inner.active manager).trans active))

end Joining

/-! The call. -/

section Brackets
variable {Stmt Error Value : Type}

/-- A call that joins leaves the runners to their owners, and makes none and calls none when the
operation passes the manager on. A call that does not join releases the runner it has made
once, and its writes are kept when it returns and only then. -/
def Brackets (options : RunInTransactionOptions) (operation : Operation Stmt Error Value)
    (before : DataSource Stmt) (settled : Except Error Value × DataSource Stmt) : Prop :=
  Untouched before.runners.length before settled.2 ∧
    match joined before options with
    | some _ =>
        operation.PassesManagerOn → settled.2.calls = before.calls ∧
        settled.2.runners.length = before.runners.length
    | none => ∃ runner, settled.2.runners[before.runners.length]? = some runner ∧ runner.releases = 1 ∧
        Settled settled.1 runner

theorem joined_active {dataSource : DataSource Stmt} {options : RunInTransactionOptions}
    {existing : EntityManager} (joins : joined dataSource options = some existing) :
    dataSource.isTransactionActive existing = true :=
  (Option.filter_eq_some_iff.mp joins).2

section Ways
variable {answers : Nat → Answers Error} {operation : EntityManager → Effect Stmt Error Value}
  {options : RunInTransactionOptions}
  {before : DataSource Stmt} {error : Error}

theorem runner_connected (answered : QueryRunner Stmt → QueryRunner Stmt) :
    (before.createQueryRunner.call before.runners.length .connect
      answered).runners[before.runners.length]? = some (answered {}) :=
  runner_call (by simp [DataSource.createQueryRunner]) .connect answered

theorem runInTransaction_joined {existing : EntityManager}
    (joins : joined before options = some existing) :
    runInTransaction answers operation options before = operation existing before := by
  simp only [runInTransaction, joins]

theorem runInTransaction_unconnected (alone : joined before options = none)
    (connects : (answers before.runners.length).connect = some error) :
    runInTransaction answers operation options before =
      (.error error, before.createQueryRunner.call before.runners.length .connect id) := by
  simp only [runInTransaction, alone, andThen, attempt, connects]

theorem runInTransaction_unstarted (alone : joined before options = none)
    (connects : (answers before.runners.length).connect = none)
    (starts : (answers before.runners.length).startTransaction = some error) :
    runInTransaction answers operation options before =
      (.error error,
        (before.createQueryRunner.call before.runners.length .connect id).call before.runners.length
        (.startTransaction options.isolationLevel) id) := by
  simp only [runInTransaction, alone, andThen, attempt, connects, starts]

def begun (options : RunInTransactionOptions) (before : DataSource Stmt) : DataSource Stmt :=
  (before.createQueryRunner.call before.runners.length .connect id).call before.runners.length
    (.startTransaction options.isolationLevel) fun runner => { runner with isTransactionActive := true }

theorem runner_begun :
    (begun options before).runners[before.runners.length]? = some { isTransactionActive := true } :=
  runner_call (runner_connected id) _ _

theorem runInTransaction_started (alone : joined before options = none)
    (connects : (answers before.runners.length).connect = none)
    (starts : (answers before.runners.length).startTransaction = none) :
    runInTransaction answers operation options before =
      ((guarded (answers before.runners.length) before.runners.length
        (operation ⟨some before.runners.length⟩) (begun options before)).1,
        release before.runners.length
          (guarded (answers before.runners.length) before.runners.length
            (operation ⟨some before.runners.length⟩)
            (begun options before)).2) := by
  simp only [runInTransaction, alone, andThen, attempt, connects, starts, begun]

end Ways

/-- The operation leaves it to the call to settle and to release its runner. -/
theorem settled_started {answers : Nat → Answers Error} (operation : Operation Stmt Error Value)
    {options : RunInTransactionOptions} {before : DataSource Stmt}
    (alone : joined before options = none)
    (connects : (answers before.runners.length).connect = none)
    (starts : (answers before.runners.length).startTransaction = none) :
    ∃ runner, (runInTransaction answers
      (perform answers operation) options before).2.runners[before.runners.length]? = some runner ∧
      runner.releases = 1 ∧
        Settled (runInTransaction answers (perform answers operation) options before).1 runner := by
  have grown : before.runners.length + 1 ≤ (begun options before).runners.length := by
    simp [begun, DataSource.call, DataSource.createQueryRunner]
  have kept :=
    (untouched_perform answers operation ⟨some before.runners.length⟩ grown).runners
    before.runners.length (Nat.lt_succ_self _)
  rw [runner_begun, Option.map_some, Option.map_eq_some_iff] at kept
  obtain ⟨runner, held, same⟩ := kept
  have unreleased : runner.releases = 0 := congrArg QueryRunner.releases same
  have unkept : runner.kept = [] := congrArg QueryRunner.kept same
  obtain ⟨after, still, unreleased, settled⟩ :=
    settled_guarded (answers before.runners.length) held unreleased unkept
  rw [runInTransaction_started alone connects starts]
  refine ⟨_, runner_call still _ _, by simp [unreleased], ?_⟩
  cases outcome :
    (guarded (answers before.runners.length) before.runners.length
    (perform answers operation ⟨some before.runners.length⟩)
    (begun options before)).1 with
  | ok value =>
    rw [outcome] at settled
    exact settled
  | error error =>
    rw [outcome] at settled
    exact settled

/-- The call brackets its resources exactly when it joins a transaction or gets one: a runner
that is made and then does not connect, or does not start a transaction, is never released. -/
theorem brackets_iff (answers : Nat → Answers Error) (operation : Operation Stmt Error Value)
    (options : RunInTransactionOptions) (before : DataSource Stmt) :
    Brackets options operation before
      (runInTransaction answers (perform answers operation) options before) ↔
      (joined before options).isSome = true ∨
        (answers before.runners.length).connect = none ∧
          (answers before.runners.length).startTransaction = none := by
  have untouched : Untouched before.runners.length before
    (runInTransaction answers (perform answers operation) options before).2 :=
    .runInTransaction answers (Nat.le_refl _) (fun manager _ small =>
      untouched_perform answers operation manager small) options
  unfold Brackets
  rw [and_iff_right untouched]
  cases joins : joined before options with
  | some existing =>
    simp only [runInTransaction_joined joins, Option.isSome_some, true_or, iff_true]
    intro passes
    have quiet := noCalls_perform answers operation passes (joined_active joins)
    exact ⟨quiet.calls, quiet.runners⟩
  | none =>
    simp only [Option.isSome_none, Bool.false_eq_true, false_or]
    cases connects : (answers before.runners.length).connect with
    | some error =>
      rw [runInTransaction_unconnected joins connects, runner_connected]
      simp
    | none =>
      cases starts : (answers before.runners.length).startTransaction with
      | some error =>
        rw [runInTransaction_unstarted joins connects starts, runner_call (runner_connected id)]
        simp
      | none => exact iff_of_true (settled_started operation joins connects starts) ⟨rfl, rfl⟩

def refusing (_ : Nat) : Answers String :=
  { startTransaction := some "remaining connection slots are reserved" }

theorem runner_leaks : ¬Brackets {} (.write "insert" (.return "done")) {}
    (runInTransaction refusing (perform refusing (.write "insert" (.return "done"))) {} {}) := by
  intro holds
  obtain ⟨-, runner, held, released, -⟩ := holds
  have unreleased : some ({} : QueryRunner String) = some runner := held
  cases unreleased
  cases released

end Brackets

end GenericIam.OwnedTransactions
