import GenericIam.ConcurrentCalls
import GenericIam.SavedChanges
import GenericIam.Reactivation

/-! Updates of one user, and of one tenant, that run side by side: when none of them is lost. -/

namespace GenericIam.ConcurrentUpdates
open Table Database Identifiers Transaction Handlers RbacServices
open AccountServices Operations ReadCommitted ConcurrentCalls SavedChanges

variable {Id α : Type}

def mention (field : Given α) : Option α :=
  match field with
  | .value given => some given
  | _ => none

def mentionNullable {β : Type} (field : Given α) (read : α → β) : Option (Option β) :=
  match field with
  | .absent => none
  | .null => some none
  | .value given => some (some (read given))

theorem mention_getD (field : Given α) (old : α) : (mention field).getD old = field.over old := by
  cases field <;> rfl

theorem mentionNullable_getD {β : Type} (field : Given α) (read : α → β) (old : Option β) :
    (mentionNullable field read).getD old = field.overNullable read old := by
  cases field <;> rfl

theorem writes_persist {Column : Type} {Value : Column → Type}
    {entity : Entity (effects Id) Db Value} {change : Change Value} {rest : Handler Id Unit}
    (tail : Tail entity rest) :
    Writes entity change (persist (entity.update change) >>= fun _ => rest) :=
  ⟨_, rfl, tail, fun _ => ⟨.queryFailed, rfl⟩⟩

/-- The row is looked up, and then refused or saved. -/
theorem loads_lookup {Column : Type} {Value : Column → Type} [∀ column, DecidableEq (Value column)]
    {entity : Entity (effects Id) Db Value} {found : Db → Option entity.Row} {intent : Change Value}
    {error : HttpException} {body : entity.Row → Handler Id Unit}
    (same : ∀ view, entity.seen view = found view)
    (saves : ∀ {view row}, found view = some row →
      (∃ error, body row = .throw error) ∨ Rereads entity (intent.on (entity.columns row)) (body row)) :
    Loads entity intent ((visible >>= fun db => orThrow (found db) error) >>= body) := by
  refine ⟨_, rfl, fun view => ?_⟩
  dsimp only [Transaction.Program.bind]
  cases looked : found view with
  | none => exact .inl ⟨error, rfl⟩
  | some row =>
    rcases saves looked with thrown | rereads
    · exact .inl thrown
    · exact .inr ⟨row, (same view).trans looked, rereads⟩

/-! Users. -/

inductive UserColumn where
  | email
  | firstName
  | lastName
  | managerId
  | isActive

abbrev UserColumn.Value : UserColumn → Type
  | .email | .firstName | .lastName => String
  | .managerId => Option Uuid
  | .isActive => Bool

instance : ∀ column, DecidableEq (UserColumn.Value column)
  | .email | .firstName | .lastName => inferInstanceAs (DecidableEq String)
  | .managerId => inferInstanceAs (DecidableEq (Option Uuid))
  | .isActive => inferInstanceAs (DecidableEq Bool)

def userColumns (user : UserEntity) : (column : UserColumn) → column.Value
  | .email => user.email
  | .firstName => user.firstName
  | .lastName => user.lastName
  | .managerId => user.managerId
  | .isActive => user.isActive

def userChange (change : Change UserColumn.Value) : UserChange where
  email := change .email
  firstName := change .firstName
  lastName := change .lastName
  managerId := change .managerId
  isActive := change .isActive

theorem userColumns_apply (change : Change UserColumn.Value) (user : UserEntity) :
    userColumns ((userChange change).apply user) = change.on (userColumns user) := by
  funext column
  cases column <;> rfl

theorem userChange_difference (stored user : UserEntity) :
    userChange (difference (userColumns stored) (userColumns user)) = changedColumns stored user := rfl

abbrev userRow (Id : Type) (id : Uuid) : Entity (effects Id) Db UserColumn.Value where
  Row := UserEntity
  Fixed := Uuid
  find db := db.users.findOne fun user => user.id == id
  seen view := view.users.findOne fun user => user.id == id
  fixed user := user.tenantId
  columns := userColumns
  update change := .updateUser id (userChange change)
  aside stmt := ∃ userId, stmt = .deleteRefreshTokensOf userId

def userAccess (Id : Type) (id : Uuid) (session : Session) :
    Access (userRow Id id) (engine Id session) where
  shows tenantId := session.admits tenantId = true
  seen_view := by
    intro db user
    have seen := @findOne_key _ _ _ _ (shown session db).users id user
    have found := @findOne_key _ _ _ _ db.users id user
    refine seen.trans ((and_congr_left fun _ => mem_select).trans ?_)
    rw [and_right_comm]
    exact and_congr_left fun _ => found.symm
  updated := by
    intro change db db' user accepted found admitted
    obtain ⟨member, same⟩ := findOne_key.mp found
    have changed := updateUser_some (send_ok accepted)
    refine ⟨(userChange change).apply user, ?_, rfl, userColumns_apply change user⟩
    refine findOne_key.mpr ⟨?_, same⟩
    rw [changed, mem_modify]
    refine .inr ⟨user, member, ?_, rfl⟩
    rw [Bool.and_eq_true, beq_iff_eq]
    exact ⟨same, admitted⟩
  aside_find := by
    intro stmt db db' aside accepted
    obtain ⟨userId, rfl⟩ := aside
    have sent : send .bypassRls (.deleteRefreshTokensOf userId) db = .ok db' := accepted
    cases send_ok sent
    rfl

/-- A save of the user, and then whatever leaves the row alone. -/
theorem rereads_saveUser {id : Uuid} {user : UserEntity} {rest : Handler Id Unit} (same : user.id = id)
    (tail : Tail (userRow Id id) rest) :
    Rereads (userRow Id id) (userColumns user) (saveUser user >>= fun _ => rest) := by
  refine ⟨_, rfl, fun {view stored} seen => ?_⟩
  have found : view.users.findOne (fun row => row.id == user.id) = some stored := by
    rw [same]
    exact seen
  dsimp only [Transaction.Program.bind]
  rw [found, same]
  exact writes_persist tail

section Users
variable [Identifier Id]

def userIntent (call : Call Id) : Change UserColumn.Value :=
  match call.operation with
  | .updateUser _ dto => fun
      | .email => mention dto.email
      | .firstName => mention dto.firstName
      | .lastName => mention dto.lastName
      | .managerId => mentionNullable dto.managerId value
      | .isActive => mention dto.isActive
  | .setActivation _ isActive => fun
      | .isActive => some isActive
      | _ => none
  | _ => fun _ => none

def UpdatesUser (id : Id) : Operation Id → Prop
  | .updateUser other _ => value other = value id
  | .setActivation other _ => value other = value id
  | _ => False

theorem userColumns_assignUser (dto : UpdateUserDto Id) (id tenantId actorId : Id)
    (session : Session) (user : UserEntity) :
    userColumns (assignUser user dto) = (userIntent ⟨session, tenantId, actorId, .updateUser id dto⟩).on
      (userColumns user) := by
  funext column
  cases column with
  | email => exact (mention_getD _ _).symm
  | firstName => exact (mention_getD _ _).symm
  | lastName => exact (mention_getD _ _).symm
  | managerId => exact (mentionNullable_getD _ _ _).symm
  | isActive => exact (mention_getD _ _).symm

theorem userColumns_activation (isActive : Bool) (id tenantId actorId : Id) (session : Session)
    (user : UserEntity) :
    userColumns { user with isActive } =
      (userIntent ⟨session, tenantId, actorId, .setActivation id isActive⟩).on (userColumns user) := by
  funext column
  cases column <;> rfl

theorem loads_updateUser [DecidableEq Id] (id : Id) (dto : UpdateUserDto Id) (tenantId actorId : Id)
    (session : Session) :
    Loads (userRow Id (value id)) (userIntent ⟨session, tenantId, actorId, .updateUser id dto⟩)
      (AccountServices.updateUser id dto tenantId actorId >>= fun _ => pure ()) := by
  refine (congrArg (Loads _ _) (Program.bind_bind (findUser id) _ _)).mpr
    (loads_lookup (fun _ => rfl) fun {view user} found => ?_)
  change (∃ error,
    ((refuseIf (canonical user.tenantId != tenantId) (.badRequest "Invalid tenant")).bind _).bind _ = _) ∨
    Rereads _ _
      (((refuseIf (canonical user.tenantId != tenantId) (.badRequest "Invalid tenant")).bind _).bind _)
  rw [Program.bind_bind, bind_refuseIf]
  split
  · exact .inl ⟨_, rfl⟩
  · change (∃ error, ((refuseIf dto.nullsColumn .queryFailed).bind _).bind _ = _) ∨
      Rereads _ _ (((refuseIf dto.nullsColumn .queryFailed).bind _).bind _)
    rw [Program.bind_bind, bind_refuseIf]
    split
    · exact .inl ⟨_, rfl⟩
    · right
      change Rereads _
        ((userIntent ⟨session, tenantId, actorId, .updateUser id dto⟩).on (userColumns user)) _
      rw [← userColumns_assignUser]
      have same : (assignUser user dto).id = value id := (findOne_key.mp found).2
      exact (congrArg (Rereads _ _) (Program.bind_bind (saveUser (assignUser user dto)) _ _)).mpr
        (rereads_saveUser same trivial)

theorem loads_setActivation [DecidableEq Id] (id : Id) (isActive : Bool) (tenantId actorId : Id)
    (session : Session) :
    Loads (userRow Id (value id)) (userIntent ⟨session, tenantId, actorId, .setActivation id isActive⟩)
      (AccountServices.setActivation id tenantId isActive actorId) := by
  refine loads_lookup (fun _ => rfl) fun {view user} found => ?_
  change (∃ error,
    (refuseIf (canonical user.tenantId != tenantId) (.badRequest "Invalid tenant")).bind _ = _) ∨
    Rereads _ _ ((refuseIf (canonical user.tenantId != tenantId) (.badRequest "Invalid tenant")).bind _)
  rw [bind_refuseIf]
  split
  · exact .inl ⟨_, rfl⟩
  · right
    change Rereads _
      ((userIntent ⟨session, tenantId, actorId, .setActivation id isActive⟩).on (userColumns user)) _
    rw [← userColumns_activation]
    refine rereads_saveUser (findOne_key.mp found).2 ?_
    cases isActive with
    | true => trivial
    | false =>
      refine ⟨⟨value id, rfl⟩, fun answer => ?_⟩
      cases answer <;> trivial

theorem loads_userOperation [DecidableEq Id] {env : Environment} {id : Id} {call : Call Id}
    (updates : UpdatesUser id call.operation) :
    Loads (userRow Id (value id)) (userIntent call) (call.handler env) := by
  obtain ⟨session, tenantId, actorId, operation⟩ := call
  cases operation with
  | updateUser other dto =>
    have same : value other = value id := updates
    rw [← same]
    exact loads_updateUser other dto tenantId actorId session
  | setActivation other isActive =>
    have same : value other = value id := updates
    rw [← same]
    exact loads_setActivation other isActive tenantId actorId session
  | _ => exact updates.elim

end Users

/-! Tenants. -/

inductive TenantColumn where
  | name
  | slug
  | settings
  | isActive

abbrev TenantColumn.Value : TenantColumn → Type
  | .name | .slug => String
  | .settings => Option String
  | .isActive => Bool

instance : ∀ column, DecidableEq (TenantColumn.Value column)
  | .name | .slug => inferInstanceAs (DecidableEq String)
  | .settings => inferInstanceAs (DecidableEq (Option String))
  | .isActive => inferInstanceAs (DecidableEq Bool)

def tenantColumns (tenant : TenantEntity) : (column : TenantColumn) → column.Value
  | .name => tenant.name
  | .slug => tenant.slug
  | .settings => tenant.settings
  | .isActive => tenant.isActive

def tenantChange (change : Change TenantColumn.Value) : TenantChange where
  name := change .name
  slug := change .slug
  settings := change .settings
  isActive := change .isActive

theorem tenantColumns_apply (change : Change TenantColumn.Value) (tenant : TenantEntity) :
    tenantColumns ((tenantChange change).apply tenant) = change.on (tenantColumns tenant) := by
  funext column
  cases column <;> rfl

theorem tenantChange_difference (stored tenant : TenantEntity) :
    tenantChange (difference (tenantColumns stored) (tenantColumns tenant)) =
      changedTenantColumns stored tenant := rfl

abbrev tenantRow (Id : Type) (id : Uuid) : Entity (effects Id) Db TenantColumn.Value where
  Row := TenantEntity
  Fixed := Unit
  find db := db.tenants.findOne fun tenant => tenant.id == id
  seen view := view.tenants.findOne fun tenant => tenant.id == id
  fixed _ := ()
  columns := tenantColumns
  update change := .updateTenant id (tenantChange change)
  aside _ := False

def tenantAccess (Id : Type) (id : Uuid) (session : Session) :
    Access (tenantRow Id id) (engine Id session) where
  shows _ := True
  seen_view := by
    intro db tenant
    exact ⟨fun seen => ⟨seen, trivial⟩, fun present => present.1⟩
  updated := by
    intro change db db' tenant accepted found _
    obtain ⟨member, same⟩ := findOne_key.mp found
    have changed := updateTenant_some (send_ok accepted)
    refine ⟨(tenantChange change).apply tenant, ?_, rfl, tenantColumns_apply change tenant⟩
    refine findOne_key.mpr ⟨?_, same⟩
    rw [changed, mem_modify]
    exact .inr ⟨tenant, member, beq_iff_eq.mpr same, rfl⟩
  aside_find := fun aside => aside.elim

theorem rereads_saveTenant {id : Uuid} {tenant : TenantEntity} {rest : Handler Id Unit}
    (same : tenant.id = id) (tail : Tail (tenantRow Id id) rest) :
    Rereads (tenantRow Id id) (tenantColumns tenant) (saveTenant tenant >>= fun _ => rest) := by
  refine ⟨_, rfl, fun {view stored} seen => ?_⟩
  have found : view.tenants.findOne (fun row => row.id == tenant.id) = some stored := by
    rw [same]
    exact seen
  dsimp only [Transaction.Program.bind]
  rw [found, same]
  exact writes_persist tail

inductive TenantOperation (Id : Type) where
  | updateTenant (id : Id) (dto : UpdateTenantDto)
  | deactivateTenant (id : Id)

structure TenantCall (Id : Type) where
  session : Session
  actorId : Id
  operation : TenantOperation Id

def tenantIntent (call : TenantCall Id) : Change TenantColumn.Value :=
  match call.operation with
  | .updateTenant _ dto => fun
      | .name => mention dto.name
      | .slug => mention dto.slug
      | .settings => mentionNullable dto.settings fun settings => settings
      | .isActive => none
  | .deactivateTenant _ => fun
      | .isActive => some false
      | _ => none

theorem tenantColumns_merge (dto : UpdateTenantDto) (id actorId : Id) (session : Session)
    (tenant : TenantEntity) :
    tenantColumns (mergeTenant tenant dto) = (tenantIntent ⟨session, actorId, .updateTenant id dto⟩).on
      (tenantColumns tenant) := by
  funext column
  cases column with
  | name => exact (mention_getD _ _).symm
  | slug => exact (mention_getD _ _).symm
  | settings => exact (mentionNullable_getD _ _ _).symm
  | isActive => rfl

theorem tenantColumns_deactivation (id actorId : Id) (session : Session) (tenant : TenantEntity) :
    tenantColumns { tenant with isActive := false } =
      (tenantIntent ⟨session, actorId, .deactivateTenant id⟩).on (tenantColumns tenant) := by
  funext column
  cases column <;> rfl

section Tenants
variable [Identifier Id]

def TenantCall.handler (call : TenantCall Id) : Handler Id Unit :=
  match call.operation with
  | .updateTenant id dto => do let _ ← AccountServices.updateTenant id dto call.actorId
  | .deactivateTenant id => AccountServices.deactivateTenant id call.actorId

structure AskedOfTenant (request : Request (effects Id) Db (TenantCall Id)) : Prop where
  fresh : Fresh request
  engine : request.engine = engine Id request.kind.session
  program : request.program = request.kind.handler

def UpdatesTenant (id : Id) : TenantOperation Id → Prop
  | .updateTenant other _ => value other = value id
  | .deactivateTenant other => value other = value id

theorem loads_updateTenant (id : Id) (dto : UpdateTenantDto) (actorId : Id) (session : Session) :
    Loads (tenantRow Id (value id)) (tenantIntent ⟨session, actorId, .updateTenant id dto⟩)
      (AccountServices.updateTenant id dto actorId >>= fun _ => pure ()) := by
  refine (congrArg (Loads _ _) (Program.bind_bind (findTenant id) _ _)).mpr
    (loads_lookup (fun _ => rfl) fun {view tenant} found => ?_)
  change (∃ error, ((refuseIf dto.nullsColumn .queryFailed).bind _).bind _ = _) ∨
    Rereads _ _ (((refuseIf dto.nullsColumn .queryFailed).bind _).bind _)
  rw [Program.bind_bind, bind_refuseIf]
  split
  · exact .inl ⟨_, rfl⟩
  · right
    change Rereads _
      ((tenantIntent ⟨session, actorId, .updateTenant id dto⟩).on (tenantColumns tenant)) _
    rw [← tenantColumns_merge]
    have same : (mergeTenant tenant dto).id = value id := (findOne_key.mp found).2
    exact (congrArg (Rereads _ _) (Program.bind_bind (saveTenant (mergeTenant tenant dto)) _ _)).mpr
      (rereads_saveTenant same trivial)

theorem loads_deactivateTenant (id actorId : Id) (session : Session) :
    Loads (tenantRow Id (value id)) (tenantIntent ⟨session, actorId, .deactivateTenant id⟩)
      (AccountServices.deactivateTenant id actorId) := by
  refine loads_lookup (fun _ => rfl) fun {view tenant} found => .inr ?_
  change Rereads _ ((tenantIntent ⟨session, actorId, .deactivateTenant id⟩).on (tenantColumns tenant)) _
  rw [← tenantColumns_deactivation]
  exact rereads_saveTenant (findOne_key.mp found).2 trivial

theorem loads_tenantOperation {id : Id} {call : TenantCall Id}
    (updates : UpdatesTenant id call.operation) :
    Loads (tenantRow Id (value id)) (tenantIntent call) call.handler := by
  obtain ⟨session, actorId, operation⟩ := call
  cases operation with
  | updateTenant other dto =>
    have same : value other = value id := updates
    rw [← same]
    exact loads_updateTenant other dto actorId session
  | deactivateTenant other =>
    have same : value other = value id := updates
    rw [← same]
    exact loads_deactivateTenant other actorId session

end Tenants

/-! All of them. -/

section Updates
variable [Identifier Id]

def userClear (id : Id) : Condition (effects Id) Db (Call Id) :=
  clear (userRow Id (value id)) userIntent

def tenantClear (id : Id) : Condition (effects Id) Db (TenantCall Id) :=
  clear (tenantRow Id (value id)) tenantIntent

/-- As long as no request commits a new value of a column that another one does not mention
and has loaded, or that another one mentions and has found there already, every column has
the value that the last request gave it which has committed and mentioned it. -/
theorem updates_kept [DecidableEq Id] (env : Environment) (waits : Write → Write → Prop) :
    (∀ {id : Id} {first last : State (effects Id) Db (Call Id)} {completed : List (Call Id)}
      {user : UserEntity},
      (∀ request ∈ first.requests, Asked env request ∧ UpdatesUser id request.kind.operation) →
        first.db.users.findOne (fun user => user.id == value id) = some user →
          History waits (userClear id) first completed last →
          ∃ user', last.db.users.findOne (fun user => user.id == value id) = some user' ∧ ∀ column,
            userColumns user' column =
              ((completed.filterMap fun call => userIntent call column).getLast?).getD
              (userColumns user column)) ∧
      ∀ {id : Id} {first last : State (effects Id) Db (TenantCall Id)}
        {completed : List (TenantCall Id)} {tenant : TenantEntity},
        (∀ request ∈ first.requests, AskedOfTenant request ∧ UpdatesTenant id request.kind.operation) →
          first.db.tenants.findOne (fun tenant => tenant.id == value id) = some tenant →
            History waits (tenantClear id) first completed last →
              ∃ tenant', last.db.tenants.findOne (fun tenant => tenant.id == value id) = some tenant' ∧
                ∀ column,
                tenantColumns tenant' column =
                  ((completed.filterMap fun call => tenantIntent call column).getLast?).getD
                    (tenantColumns tenant column) := by
  constructor
  · intro id first last completed user asked found run
    have each : ∀ request ∈ first.requests, Fresh request ∧
      request.engine = engine Id request.kind.session ∧
        Loads (userRow Id (value id)) (userIntent request.kind) request.program := by
      intro request member
      obtain ⟨asked, updates⟩ := asked request member
      refine ⟨asked.fresh, asked.engine, ?_⟩
      rw [asked.program]
      exact loads_userOperation updates
    obtain ⟨user', found', columns⟩ :=
      saved_changes (fun call => userAccess Id (value id) call.session) userIntent each found run
    refine ⟨user', found', fun column => ?_⟩
    have here := congrFun columns column
    rw [applyAll_last, List.filterMap_map] at here
    exact here
  · intro id first last completed tenant asked found run
    have each : ∀ request ∈ first.requests, Fresh request ∧
      request.engine = engine Id request.kind.session ∧
        Loads (tenantRow Id (value id)) (tenantIntent request.kind) request.program := by
      intro request member
      obtain ⟨asked, updates⟩ := asked request member
      refine ⟨asked.fresh, asked.engine, ?_⟩
      rw [asked.program]
      exact loads_tenantOperation updates
    obtain ⟨tenant', found', columns⟩ :=
      saved_changes (fun call => tenantAccess Id (value id) call.session) tenantIntent each found run
    refine ⟨tenant', found', fun column => ?_⟩
    have here := congrFun columns column
    rw [applyAll_last, List.filterMap_map] at here
    exact here

end Updates

/-! Bob gets a new first name while he is deactivated. -/

section Example
open Reactivation
open Coherence (plainEnvironment)

def newName : Call Uuid := ⟨.tenantUser 21, 21, 22, .updateUser 31 { firstName := .value "Rob" }⟩

def deactivating : Call Uuid := ⟨.tenantUser 21, 21, 22, .setActivation 31 false⟩

def both : State (effects Uuid) Db (Call Uuid) :=
  ⟨office, [ask plainEnvironment (countedFrom 41) newName,
    ask plainEnvironment (countedFrom 51) deactivating]⟩

def crossed : List Nat := [0, 1, 1, 1, 1, 1, 1, 1, 0, 0, 0, 0]

def LeavesStatus : Operation Uuid → Prop
  | .updateUser _ dto => dto.isActive = .absent
  | _ => True

/-- The new name is committed last, and Bob is active again. -/
theorem deactivation_lost :
    ¬∀ {id : Uuid} {first last : State (effects Uuid) Db (Call Uuid)} {completed : List (Call Uuid)}
      {user : UserEntity},
    (∀ request ∈ first.requests, Asked plainEnvironment request ∧
      UpdatesUser id request.kind.operation ∧ LeavesStatus request.kind.operation) →
      first.db.users.findOne (fun user => user.id == value id) = some user →
        History (fun stmt held => waitsFor stmt held = true) always first completed last →
          ∃ user', last.db.users.findOne (fun user => user.id == value id) = some user' ∧ ∀ column,
            userColumns user' column =
              ((completed.filterMap fun call => userIntent call column).getLast?).getD
              (userColumns user column) := by
  intro kept
  have asked : ∀ request ∈ both.requests,
      Asked plainEnvironment request ∧ UpdatesUser 31 request.kind.operation ∧
          LeavesStatus request.kind.operation := by
    intro request member
    simp only [both, List.mem_cons, List.not_mem_nil, or_false] at member
    rcases member with rfl | rfl
    · exact ⟨asked_ask _ _ _, rfl, rfl⟩
    · exact ⟨asked_ask _ _ _, rfl, trivial⟩
  obtain ⟨user', found, columns⟩ := kept asked rfl (history_schedule waitsFor both crossed)
  have active : (schedule waitsFor both crossed).db.users.findOne (fun user =>
    user.id == value (31 : Uuid)) =
      some {
        id := 31, tenantId := 21, email := "bob@acme.io", passwordHash := "$2b$10$hidden"
        firstName := "Rob", lastName := "Bell" } := by
    decide
  have order : completions waitsFor both crossed = [deactivating, newName] := rfl
  rw [active] at found
  cases found
  have status := columns .isActive
  rw [order] at status
  exact absurd status (by decide)

def deactivated : State (effects Uuid) Db (Call Uuid) := schedule waitsFor both [0, 0, 1, 1, 1, 1, 1, 1]

def named : State (effects Uuid) Db (Call Uuid) :=
  schedule waitsFor (deactivated.turn waitsFor 1) [0, 0]

theorem asked_both :
    ∀ request ∈ both.requests, Asked plainEnvironment request ∧
      UpdatesUser 31 request.kind.operation := by
  intro request member
  simp only [both, List.mem_cons, List.not_mem_nil, or_false] at member
  rcases member with rfl | rfl
  · exact ⟨asked_ask _ _ _, rfl⟩
  · exact ⟨asked_ask _ _ _, rfl⟩

/-- The new name was not there yet. -/
theorem meets_deactivation : deactivated.Meets waitsFor (userClear (31 : Uuid)) 1 := by
  have whole : deactivated.requests = [deactivated.requests[0]] ++ deactivated.requests[1] :: [] := rfl
  refine meets_turn waitsFor whole rfl ?_
  intro request' _ other among _ column relies
  rw [List.append_nil, List.mem_singleton] at among
  subst among
  refine absurd relies (relies_nothing rfl rfl ?_ column)
  intro column value given
  cases column with
  | firstName =>
    cases given
    decide
  | email | lastName | managerId | isActive => cases given

/-- The deactivation has been committed by then. -/
theorem meets_named : named.Meets waitsFor (userClear (31 : Uuid)) 0 := by
  have whole : named.requests = [] ++ named.requests[0] :: [named.requests[1]] := rfl
  refine meets_turn waitsFor whole rfl ?_
  intro request' _ other among running
  rw [List.nil_append, List.mem_singleton] at among
  subst among
  exact absurd running (by decide)

def askTenant (call : TenantCall Uuid) : Request (effects Uuid) Db (TenantCall Uuid) where
  kind := call
  engine := engine Uuid call.session
  keys := countedFrom 41
  program := call.handler

def rebranding : TenantCall Uuid := ⟨.bypassRls, 9, .updateTenant 21 { name := .value "Acme Group" }⟩

def closing : TenantCall Uuid := ⟨.bypassRls, 9, .deactivateTenant 21⟩

def asked : State (effects Uuid) Db (TenantCall Uuid) :=
  ⟨office, [askTenant rebranding, askTenant closing]⟩

def closed : State (effects Uuid) Db (TenantCall Uuid) := schedule waitsFor asked [0, 0, 1, 1, 1, 1]

def rebranded : State (effects Uuid) Db (TenantCall Uuid) :=
  schedule waitsFor (closed.turn waitsFor 1) [0, 0]

theorem asked_asked :
    ∀ request ∈ asked.requests, AskedOfTenant request ∧ UpdatesTenant 21 request.kind.operation := by
  intro request member
  simp only [asked, List.mem_cons, List.not_mem_nil, or_false] at member
  rcases member with rfl | rfl
  · exact ⟨⟨⟨rfl, rfl, rfl, rfl⟩, rfl, rfl⟩, rfl⟩
  · exact ⟨⟨⟨rfl, rfl, rfl, rfl⟩, rfl, rfl⟩, rfl⟩

theorem meets_closing : closed.Meets waitsFor (tenantClear (21 : Uuid)) 1 := by
  have whole : closed.requests = [closed.requests[0]] ++ closed.requests[1] :: [] := rfl
  refine meets_turn waitsFor whole rfl ?_
  intro request' _ other among _ column relies
  rw [List.append_nil, List.mem_singleton] at among
  subst among
  refine absurd relies (relies_nothing rfl rfl ?_ column)
  intro column value given
  cases column with
  | name =>
    cases given
    decide
  | slug | settings | isActive => cases given

theorem meets_rebranded : rebranded.Meets waitsFor (tenantClear (21 : Uuid)) 0 := by
  have whole : rebranded.requests = [] ++ rebranded.requests[0] :: [rebranded.requests[1]] := rfl
  refine meets_turn waitsFor whole rfl ?_
  intro request' _ other among running
  rw [List.nil_append, List.mem_singleton] at among
  subst among
  exact absurd running (by decide)

/-- Both requests are applied, to the user as to the tenant. -/
theorem updates_kept_overlapping :
    (∃ user, (named.turn waitsFor 0).db.users.findOne (fun user => user.id == value (31 : Uuid)) =
      some user ∧
        userColumns user .firstName = "Rob" ∧ userColumns user .isActive = false) ∧
      ∃ tenant, (rebranded.turn waitsFor 0).db.tenants.findOne (fun tenant =>
        tenant.id == value (21 : Uuid)) = some tenant ∧
        tenantColumns tenant .name = "Acme Group" ∧ tenantColumns tenant .isActive = false := by
  have userRun : History (fun stmt held => waitsFor stmt held = true) (userClear (31 : Uuid)) both
      [deactivating, newName] (named.turn waitsFor 0) := by
    have idle : OnCommits (userClear (31 : Uuid)) := onCommits_clear _
    have first : History (fun stmt held => waitsFor stmt held = true) (userClear (31 : Uuid)) both
        (deactivated.completes waitsFor 1) (deactivated.turn waitsFor 1) :=
      history_until waitsFor idle meets_deactivation rfl rfl
    have last : History (fun stmt held => waitsFor stmt held = true) (userClear (31 : Uuid))
        (deactivated.turn waitsFor 1) (named.completes waitsFor 0) (named.turn waitsFor 0) :=
      history_until waitsFor idle meets_named rfl rfl
    exact first.trans last
  have tenantRun : History (fun stmt held => waitsFor stmt held = true) (tenantClear (21 : Uuid)) asked
      [closing, rebranding] (rebranded.turn waitsFor 0) := by
    have idle : OnCommits (tenantClear (21 : Uuid)) := onCommits_clear _
    have first : History (fun stmt held => waitsFor stmt held = true) (tenantClear (21 : Uuid)) asked
        (closed.completes waitsFor 1) (closed.turn waitsFor 1) :=
      history_until waitsFor idle meets_closing rfl rfl
    have last : History (fun stmt held => waitsFor stmt held = true) (tenantClear (21 : Uuid))
        (closed.turn waitsFor 1) (rebranded.completes waitsFor 0) (rebranded.turn waitsFor 0) :=
      history_until waitsFor idle meets_rebranded rfl rfl
    exact first.trans last
  have kept := @updates_kept Uuid _ _ plainEnvironment (fun stmt held => waitsFor stmt held = true)
  obtain ⟨user, foundUser, ofUser⟩ := kept.1 asked_both rfl userRun
  obtain ⟨tenant, foundTenant, ofTenant⟩ := kept.2 asked_asked rfl tenantRun
  exact ⟨⟨user, foundUser, ofUser .firstName, ofUser .isActive⟩, tenant, foundTenant, ofTenant .name,
    ofTenant .isActive⟩

end Example
end GenericIam.ConcurrentUpdates
