import GenericIam.CacheTransparency
import GenericIam.Registers

/-! Checks, requests and the deletes that the events of the requests ask for, one step at a
time and in any order. An event leaves before its request commits, and a check writes to
the cache what it has read some time ago. -/

namespace GenericIam.Races
open Table Database EffectivePermissions Identifiers CacheKeys AuthorizationCheck
open Events Transaction Handlers RbacServices AccountServices TenantWrites Operations
open Footprint ReachableStates Coherence SuperAdminRequests ReadCommitted Registers

/-! Who is at work. -/

inductive Sender where
  | tenant (env : Environment) (tenantId actorId : Uuid) (operation : Operation Uuid)
  | superAdmin (env : Environment) (actorId : Uuid) (operation : SuperAdminOperation Uuid)
  | purge

def Sender.session : Sender → Session
  | .tenant _ tenantId _ _ => .tenantUser tenantId
  | .superAdmin _ _ _ | .purge => .bypassRls

def Sender.program (now : Time) : Sender → Handler Uuid Unit
  | .tenant env tenantId actorId operation => operation.handler env tenantId actorId
  | .superAdmin env actorId operation => operation.handler env actorId
  | .purge => purgeExpiredRoles now

def Sender.Admissible : Sender → Prop
  | .tenant _ _ _ operation => operation.Admissible
  | .superAdmin _ _ _ | .purge => True

/-- Super admins and the purge change no mapping, so that their tenant does not matter. -/
def Sender.owner : Sender → Uuid
  | .tenant _ tenantId _ _ => tenantId
  | .superAdmin _ _ _ | .purge => 0

def Sender.request (now : Time) (ids : Nat → Uuid) (sender : Sender) :
    Request (effects Uuid) Db Sender :=
  { kind := sender, engine := engine Uuid sender.session, keys := ids, program := sender.program now }

/-- A request and the events that it has emitted: the deletes still to come, one list for
each event, and those carried out. Once it has committed, it knows as which one. -/
structure Job where
  request : Request (effects Uuid) Db Sender
  emitted : List (Event Uuid) := []
  due : List (List (Invalidation Uuid)) := []
  handled : List (Invalidation Uuid) := []
  committedAt : Option Nat := none

/-- What an entry or a delete is about: the permissions of a user or the access list. -/
inductive Layer where
  | perms
  | acl
  deriving DecidableEq

def layer : Invalidation Uuid → Layer
  | .perms _ _ | .authzOfUser _ _ | .permsOfTenant _ | .authzOfTenant _ => .perms
  | .acl _ _ | .authzDecision _ _ _ _ _ => .acl

/-- A check under way. What it has read goes back to when so many requests had committed. -/
structure Asking where
  point : Point Uuid
  permsAt : Nat := 0
  aclAt : Nat := 0

structure World where
  db : Db
  cache : Cache CacheKey := Store.empty
  filledAt : CacheKey → Nat := fun _ => 0
  commits : Nat := 0

structure State where
  world : World
  checks : List Asking := []
  jobs : List Job := []

def Job.emits (job : Job) (event : Event Uuid) (next : Program (effects Uuid) Unit) : Job :=
  { job with request := { job.request with program := next }, emitted := job.emitted ++ [event], due :=
    job.due ++ [handle event] }

def Job.commits (job : Job) (commit : Nat) : Job :=
  { job with request := { job.request with phase := .committed }, committedAt := some commit }

def Job.deletes (job : Job) (earlier : List (List (Invalidation Uuid))) (deletion : Invalidation Uuid)
    (rest : List (Invalidation Uuid)) (later : List (List (Invalidation Uuid))) : Job :=
  { job with due := earlier ++ rest :: later, handled := job.handled ++ [deletion] }

def World.without (world : World) (deletion : Invalidation Uuid) : World :=
  { world with cache := deletion.apply tupleKeys world.cache }

/-! The steps. -/

def Asking.since (asking : Asking) : Layer → Nat
  | .perms => asking.permsAt
  | .acl => asking.aclAt

def Asking.back (world : World) (asking : Asking) : Asking :=
  match asking.point with
  | .readPerms dto =>
      { asking with permsAt := world.filledAt (tupleKeys.perms dto.tenantId dto.userId) }
  | .readRoles _ => { asking with permsAt := world.commits }
  | .readAcl _ tenantId dto => { asking with aclAt := world.filledAt (tupleKeys.acl tenantId dto) }
  | .countAcl _ _ _ => { asking with aclAt := world.commits }
  | _ => asking

def Asking.stamp (filledAt : CacheKey → Nat) (asking : Asking) : CacheKey → Nat :=
  match asking.point with
  | .writePerms dto _ =>
      Function.update filledAt (tupleKeys.perms dto.tenantId dto.userId) asking.permsAt
  | .writeAcl _ tenantId dto _ => Function.update filledAt (tupleKeys.acl tenantId dto) asking.aclAt
  | _ => filledAt

def Asking.next (now : Time) (world : World) (asking : Asking) : World × Asking :=
  let (point, cache) := step tupleKeys world.db now world.cache asking.point
  ({ world with cache, filledAt := asking.stamp world.filledAt }, { asking.back world with point })

structure Condition where
  submits : Sender → Prop
  sends : Write → Prop
  commits : World → List Asking → Job → Prop
  deletes : List Asking → Job → Invalidation Uuid → Prop

def anyhow : Condition := ⟨fun _ => True, fun _ => True, fun _ _ _ => True, fun _ _ _ => True⟩

/-- Checks and requests begin at any time. Each delete of an event is a step of its own, in
the order of its handler; entries may also go for other reasons. -/
inductive Step (waits : Write → Write → Prop) (now : Time) (clear : Condition) :
    State → State → Prop where
  | ask {world : World} {checks : List Asking} {jobs : List Job} (call : Call Uuid) :
      Step waits now clear ⟨world, checks, jobs⟩ ⟨world, checks ++ [{ point := call.start }], jobs⟩
  | submit {world : World} {checks : List Asking} {jobs : List Job} {sender : Sender} (ids : Nat → Uuid)
      (cleared : clear.submits sender) :
      Step waits now clear ⟨world, checks, jobs⟩ ⟨world, checks,
        jobs ++ [{ request := sender.request now ids }]⟩
  | check {world : World} {jobs : List Job} {asking : Asking} (before after : List Asking) :
      Step waits now clear ⟨world, before ++ asking :: after, jobs⟩
        ⟨(asking.next now world).1, before ++ (asking.next now world).2 :: after, jobs⟩
  | act {world : World} {checks : List Asking} {job : Job} {db' : Db}
      {request' : Request (effects Uuid) Db Sender}
      (before after : List Job)
      (moved : Moves waits ((before ++ after).map Job.request) world.db job.request db' request')
      (going : request'.phase ≠ .committed)
      (silent : ∀ event next, job.request.program = .emit event next → request'.phase = .aborted)
      (cleared : ∀ stmt, request'.log = job.request.log ++ [stmt] → clear.sends stmt) :
      Step waits now clear ⟨world, checks, before ++ job :: after⟩
        ⟨{ world with db := db' }, checks, before ++ { job with request := request' } :: after⟩
  | emit {world : World} {checks : List Asking} {job : Job} {event : Event Uuid}
      {next : Program (effects Uuid) Unit}
      (before after : List Job) (running : job.request.phase = .running)
        (program : job.request.program = .emit event next) :
      Step waits now clear ⟨world, checks, before ++ job :: after⟩ ⟨world, checks,
        before ++ job.emits event next :: after⟩
  | commit {world : World} {checks : List Asking} {job : Job} {db' : Db} (before after : List Job)
      (running : job.request.phase = .running) (program : job.request.program = .pure ())
      (seen : job.request.sees world.db = some db') (cleared : clear.commits world checks job) :
      Step waits now clear ⟨world, checks, before ++ job :: after⟩
        ⟨{ world with db := db', commits := world.commits + 1 }, checks,
          before ++ job.commits (world.commits + 1) :: after⟩
  | delete {world : World} {checks : List Asking} {job : Job}
      {earlier later : List (List (Invalidation Uuid))}
      {deletion : Invalidation Uuid} {rest : List (Invalidation Uuid)} (before after : List Job)
      (due : job.due = earlier ++ (deletion :: rest) :: later)
        (cleared : clear.deletes checks job deletion) :
      Step waits now clear ⟨world, checks, before ++ job :: after⟩
        ⟨world.without deletion, checks, before ++ job.deletes earlier deletion rest later :: after⟩
  | forget {world : World} {checks : List Asking} {jobs : List Job} (gone : CacheKey → Bool) :
      Step waits now clear ⟨world, checks, jobs⟩
        ⟨{ world with cache := world.cache.removeWhere gone }, checks, jobs⟩

def Reaches (waits : Write → Write → Prop) (now : Time) (clear : Condition) : State → State → Prop :=
  Relation.ReflTransGen (Step waits now clear)

/-! Schedules that can be run. -/

inductive Turn where
  | ask (call : Call Uuid)
  | submit (sender : Sender) (ids : Nat → Uuid)
  | check (index : Nat)
  | act (index : Nat)
  | delete (index event : Nat)

def Job.act (world : World) (job : Job) : Option (World × Job) :=
  match job.request.program with
  | .emit event next => some (world, job.emits event next)
  | .pure () => (job.request.sees world.db).map fun db =>
      ({ world with db, commits := world.commits + 1 },
      job.commits (world.commits + 1))
  | program => (job.request.act world.db program).map fun (db, request) =>
      ({ world with db }, { job with request })

def Job.delete (world : World) (job : Job) (event : Nat) : Option (World × Job) :=
  match job.due.drop event with
  | (deletion :: rest) :: later =>
      some (world.without deletion, job.deletes (job.due.take event) deletion rest later)
  | _ => none

def State.turn (waits : Write → Write → Bool) (now : Time) (state : State) : Turn → State
  | .ask call => { state with checks := state.checks ++ [{ point := call.start }] }
  | .submit sender ids => { state with jobs := state.jobs ++ [{ request := sender.request now ids }] }
  | .check index => match state.checks.drop index with
      | [] => state
      | asking :: after =>
          let (world, asking) := asking.next now state.world
          { state with world, checks := state.checks.take index ++ asking :: after }
  | .act index => match state.jobs.drop index with
      | [] => state
      | job :: after =>
          let others := (state.jobs.take index ++ after).map Job.request
          if job.request.phase = .running ∧ job.request.blocked waits others = false then
            match job.act state.world with
            | some (world, job) => { state with world, jobs := state.jobs.take index ++ job :: after }
            | none => state
          else state
  | .delete index event => match state.jobs.drop index with
      | [] => state
      | job :: after => match job.delete state.world event with
          | some (world, job) => { state with world, jobs := state.jobs.take index ++ job :: after }
          | none => state

def schedule (waits : Write → Write → Bool) (now : Time) (state : State) (turns : List Turn) : State :=
  turns.foldl (State.turn waits now) state

def Turn.Clears (clear : Condition) (state : State) : Turn → Prop
  | .submit sender _ => clear.submits sender
  | .act index => match state.jobs.drop index with
      | [] => True
      | job :: _ => match job.request.program with
          | .write stmt _ => clear.sends stmt
          | .pure () => clear.commits state.world state.checks job
          | _ => True
  | .delete index event => match state.jobs.drop index with
      | [] => True
      | job :: _ => match job.due.drop event with
          | (deletion :: _) :: _ => clear.deletes state.checks job deletion
          | _ => True
  | .ask _ | .check _ => True

def Clears (waits : Write → Write → Bool) (now : Time) (clear : Condition) : State → List Turn → Prop
  | _, [] => True
  | state, turn :: rest =>
    turn.Clears clear state ∧ Clears waits now clear (state.turn waits now turn) rest

section Schedules
variable {waits : Write → Write → Bool} {now : Time} {clear : Condition}

/-- Only a statement goes into the log. -/
theorem sent_of_log {others : List (Request (effects Uuid) Db Sender)} {db db' : Db}
    {request request' : Request (effects Uuid) Db Sender} {stmt : Write} {waits : Write → Write → Prop}
    (moved : Moves waits others db request db' request')
    (logged : request'.log = request.log ++ [stmt]) :
    ∃ next, request.program = .write stmt next := by
  cases moved with
  | written running program =>
    obtain rfl := List.singleton_inj.mp (List.append_cancel_left logged)
    exact ⟨_, program⟩
  | read | refused | detached | emit | generate | commit | abort => 
    exact absurd (List.self_eq_append_right.mp logged) (List.cons_ne_nil _ _)

theorem step_act {world world' : World} {checks : List Asking} {job job' : Job}
    {before after : List Job} (running : job.request.phase = .running)
    (unblocked : job.request.blocked waits ((before ++ after).map Job.request) = false)
    (sends : ∀ stmt next, job.request.program = .write stmt next → clear.sends stmt)
    (commits : job.request.program = .pure () → clear.commits world checks job)
    (acted : job.act world = some (world', job')) :
    Step (fun stmt held => waits stmt held = true) now clear ⟨world, checks, before ++ job :: after⟩
      ⟨world', checks, before ++ job' :: after⟩ := by
  have goes : ∀ {request'} {db' : Db},
    job.request.act world.db job.request.program = some (db', request') →
    job.request.program ≠ .pure () →
      (∀ event next, job.request.program ≠ .emit event next) →
        Step (fun stmt held => waits stmt held = true) now clear
        ⟨world, checks, before ++ job :: after⟩ ⟨{ world with db := db' }, checks,
          before ++ { job with request := request' } :: after⟩ := by
    intro request' db' acted unfinished quiet
    have moved := act_moves waits running unblocked acted
    refine .act before after moved (fun done => unfinished (moved.committed done).2.1)
      (fun event next emits => absurd emits (quiet event next)) ?_
    intro stmt logged
    obtain ⟨next, program⟩ := sent_of_log moved logged
    exact sends stmt next program
  unfold Job.act at acted
  generalize program : job.request.program = left at acted goes
  cases left with
  | emit event next =>
    cases acted
    exact .emit before after running program
  | pure value =>
    obtain ⟨db', seen, same⟩ := Option.map_eq_some_iff.mp acted
    cases same
    exact .commit before after running program seen (commits program)
  | throw _ | read _ | write _ _ | detached _ _ | generate _ =>
    obtain ⟨⟨db', request'⟩, moved, same⟩ := Option.map_eq_some_iff.mp acted
    cases same
    exact goes moved (by simp) (by simp)

theorem step_delete {world world' : World} {checks : List Asking} {job job' : Job}
    {before after : List Job} {event : Nat}
    (deletes : ∀ deletion rest later, job.due.drop event = (deletion :: rest) :: later →
      clear.deletes checks job deletion)
    (deleted : job.delete world event = some (world', job')) :
    Step (fun stmt held => waits stmt held = true) now clear ⟨world, checks, before ++ job :: after⟩
      ⟨world', checks, before ++ job' :: after⟩ := by
  unfold Job.delete at deleted
  split at deleted
  · next deletion rest later split =>
    cases deleted
    have due : job.due = job.due.take event ++ (deletion :: rest) :: later := by
      rw [← split, List.take_append_drop]
    exact .delete before after due (deletes deletion rest later split)
  · cases deleted

/-- A possible turn is a step. -/
theorem step_turn {state : State} {turn : Turn} (clears : turn.Clears clear state) :
    Reaches (fun stmt held => waits stmt held = true) now clear state (state.turn waits now turn) := by
  cases turn with
  | ask call => exact .single (.ask call)
  | submit sender ids => exact .single (.submit ids clears)
  | check index =>
    simp only [State.turn]
    cases split : state.checks.drop index with
    | nil => exact .refl
    | cons asking after =>
      have whole : state = ⟨state.world, state.checks.take index ++ asking :: after, state.jobs⟩ := by
        rw [← split, List.take_append_drop]
      have stepped : Step (fun stmt held => waits stmt held = true) now clear
        ⟨state.world, state.checks.take index ++ asking :: after, state.jobs⟩ _ := .check _ after
      rw [← whole] at stepped
      exact .single stepped
  | act index =>
    simp only [State.turn]
    cases split : state.jobs.drop index with
    | nil => exact .refl
    | cons job after =>
      simp only [Turn.Clears, split] at clears
      dsimp only
      split
      · next ready =>
        cases acted : job.act state.world with
        | none => exact .refl
        | some result =>
          have whole : state = ⟨state.world, state.checks, state.jobs.take index ++ job :: after⟩ := by
            rw [← split, List.take_append_drop]
          have sends : ∀ stmt next, job.request.program = .write stmt next → clear.sends stmt := by
            intro stmt next program
            rwa [program] at clears
          have commits : job.request.program = .pure () →
              clear.commits state.world state.checks job := by
            intro program
            rwa [program] at clears
          have stepped : Step (fun stmt held => waits stmt held = true) now clear
            ⟨state.world, state.checks, state.jobs.take index ++ job :: after⟩ _ :=
              step_act ready.1 ready.2 sends commits acted
          rw [← whole] at stepped
          exact .single stepped
      · exact .refl
  | delete index event =>
    simp only [State.turn]
    cases split : state.jobs.drop index with
    | nil => exact .refl
    | cons job after =>
      simp only [Turn.Clears, split] at clears
      dsimp only
      cases deleted : job.delete state.world event with
      | none => exact .refl
      | some result =>
        have whole : state = ⟨state.world, state.checks, state.jobs.take index ++ job :: after⟩ := by
          rw [← split, List.take_append_drop]
        have deletes : ∀ deletion rest later, job.due.drop event = (deletion :: rest) :: later →
            clear.deletes state.checks job deletion := by
          intro deletion rest later next
          rwa [next] at clears
        have stepped : Step (fun stmt held => waits stmt held = true) now clear
          ⟨state.world, state.checks, state.jobs.take index ++ job :: after⟩ _ :=
            step_delete deletes deleted
        rw [← whole] at stepped
        exact .single stepped

theorem reaches_schedule {state : State} {turns : List Turn}
    (clears : Clears waits now clear state turns) :
    Reaches (fun stmt held => waits stmt held = true) now clear state
      (schedule waits now state turns) := by
  induction turns generalizing state with
  | nil => exact .refl
  | cons turn rest ih => exact (step_turn clears.1).trans (ih clears.2)

theorem clears_anyhow (turns : List Turn) (state : State) : Clears waits now anyhow state turns := by
  induction turns generalizing state with
  | nil => trivial
  | cons turn rest ih =>
    refine ⟨?_, ih _⟩
    cases turn with
    | act index =>
      dsimp only [Turn.Clears]
      split
      · trivial
      · split
        · trivial
        · trivial
        · trivial
    | delete index event =>
      dsimp only [Turn.Clears]
      split
      · trivial
      · split
        · trivial
        · trivial
    | _ => trivial

end Schedules

/-- Nothing is in progress or in flight. -/
structure Settled (state : State) : Prop where
  checks : ∀ asking ∈ state.checks, ∃ result, asking.point = .done result
  jobs : ∀ job ∈ state.jobs, job.request.phase ≠ .running ∧ ∀ rest ∈ job.due, rest = []

/-- Whatever the schedule, a settled cache agrees with what is committed. -/
def NeverStale (waits : Write → Write → Prop) : Prop :=
  ∀ now db cache state, Reachable db → Coherent tupleKeys db now cache →
    Reaches waits now anyhow ⟨{ db, cache }, [], []⟩ state →
    Settled state → Coherent tupleKeys state.world.db now state.world.cache

/-! Which schedules do no harm. -/

def Awaited (caller : Option (CheckAuthzDto Uuid)) (key : CacheKey) : Prop :=
  ∃ asker, caller = some asker ∧ key = tupleKeys.authz asker

def Owes : Point Uuid → Layer → CacheKey → Prop
  | .readRolePermissions dto _, .perms, key | .readOverrides dto _, .perms, key
  | .writePerms dto _, .perms, key =>
      key = tupleKeys.perms dto.tenantId dto.userId ∨ key = tupleKeys.authz dto
  | .readAcl caller _ _, .perms, key | .countAcl caller _ _, .perms, key
  | .writeAcl caller _ _ _, .perms, key => Awaited caller key
  | .writeAcl caller tenantId dto _, .acl, key => key = tupleKeys.acl tenantId dto ∨ Awaited caller key
  | .writeAuthz dto _ _, .perms, key => key = tupleKeys.authz dto
  | .writeAuthz dto _ source, .acl, key => source = "acl" ∧ key = tupleKeys.authz dto
  | _, _, _ => False

def Absent (world : World) (checks : List Asking) (about : Layer) (key : CacheKey) : Prop :=
  world.cache key = none ∧ ∀ asking ∈ checks, ¬Owes asking.point about key

/-- When a request commits after deletes of its events have been carried out already, what
they have deleted has not come back meanwhile; nobody has got a role that it deletes; and
nobody has asked about the first admin of a tenant before there is one. -/
structure InTime (world : World) (checks : List Asking) (job : Job) : Prop where
  handled : ∀ deletion ∈ job.handled, ∀ key, deletion.reaches tupleKeys key = true →
    Absent world checks (layer deletion) key
  unheld : ∀ row, Write.deleteRole row ∈ job.request.log → ∀ ur ∈ world.db.userRoles, ur.roleId ≠ row.id
  newcomers : ∀ row, Write.insertUserRole row ∈ job.request.log →
    (∃ event ∈ job.emitted, CoversUser row.tenantId row.userId event) ∨
    ∀ key, Holds tupleKeys row.tenantId row.userId key → Absent world checks .perms key

/-- When a delete is carried out after its request has committed, no entry that it reaches is
still to be written from what was read before. -/
def UpToDate (checks : List Asking) (job : Job) (deletion : Invalidation Uuid) : Prop :=
  ∀ commit, job.committedAt = some commit → ∀ asking ∈ checks, ∀ key,
    deletion.reaches tupleKeys key = true →
    Owes asking.point (layer deletion) key → commit ≤ asking.since (layer deletion)

def careful (registry : Registry) : Condition where
  submits := Sender.Admissible
  sends := registry.Names
  commits := InTime
  deletes := UpToDate

end GenericIam.Races
