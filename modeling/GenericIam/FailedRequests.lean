import GenericIam.FirstEvents
import GenericIam.Reactivation

/-! What a request leaves behind when it fails. Everything a handler sends over the
connection of the request is rolled back. Events are emitted while the handler runs and the
tokens of a deactivated user are deleted over another connection, so a request that fails
after either of them leaves a trace. -/

namespace GenericIam.FailedRequests
open Database Identifiers CacheKeys Transaction Outset Handlers
open RbacServices AccountServices Operations Controllers Guards FirstEvents

variable {Id : Type}

/-! No service goes on after a statement that was refused. -/

section Brittleness
variable {α : Type} {session : Session}

theorem brittle_persist (write : Write) : Brittle (engine Id session) (persist write) :=
  ⟨fun _ => ⟨.queryFailed, rfl⟩, trivial⟩

theorem brittle_refuseIf (condition : Bool) (error : HttpException) :
    Brittle (engine Id session) (refuseIf condition error) := by
  cases condition <;> trivial

theorem brittle_orThrow (found : Option α) (error : HttpException) :
    Brittle (engine Id session) (orThrow found error) := by
  cases found <;> trivial

theorem brittle_visible : Brittle (engine Id session) (visible : Handler Id Db) := fun _ => trivial

theorem brittle_newId : Brittle (engine Id session) (newId : Handler Id Uuid) := fun _ => trivial

variable [Identifier Id]

theorem brittle_findOneForTenant (id tenantId : Id) :
    Brittle (engine Id session) (findOneForTenant id tenantId) :=
  fun _ => brittle_orThrow _ _

theorem brittle_createCustomRole (now : Time) (tenantId : Id) (dto : CreateRoleDto) (actorId : Id) :
    Brittle (engine Id session) (createCustomRole now tenantId dto actorId) := by
  refine brittle_bind brittle_newId fun id => ?_
  exact brittle_bind (brittle_persist _) fun _ => trivial

omit [Identifier Id] in
theorem brittle_saveRole (driver : Driver) (now : Time) (draft : RoleDraft) :
    Brittle (engine Id session) (saveRole driver now draft : Handler Id RoleEntity) := by
  refine brittle_bind (brittle_orThrow _ _) fun _ => ?_
  refine brittle_bind brittle_visible fun db => ?_
  split
  · split
    · trivial
    · refine brittle_bind (brittle_orThrow _ _) fun updated => ?_
      exact brittle_bind (brittle_persist _) fun _ => trivial
  · refine brittle_bind (brittle_orThrow _ _) fun inserted => ?_
    exact brittle_bind (brittle_persist _) fun _ => trivial

theorem brittle_updateCustomRole (driver : Driver) (now : Time) (id tenantId : Id) (body : Json)
    (actorId : Id) :
    Brittle (engine Id session) (updateCustomRole driver now id tenantId body actorId) := by
  refine brittle_bind (brittle_findOneForTenant _ _) fun role => ?_
  refine brittle_bind (brittle_refuseIf _ _) fun _ => ?_
  exact brittle_bind (brittle_saveRole driver now _) fun _ => trivial

theorem brittle_deleteCustomRole (id tenantId actorId : Id) :
    Brittle (engine Id session) (deleteCustomRole id tenantId actorId) := by
  refine brittle_bind (brittle_findOneForTenant _ _) fun role => ?_
  refine brittle_bind (brittle_refuseIf _ _) fun _ => ?_
  refine brittle_bind brittle_visible fun db => ?_
  refine brittle_bind (brittle_refuseIf _ _) fun _ => ?_
  exact brittle_bind (brittle_persist _) fun _ => trivial

theorem brittle_findMapping (roleId : Id) (permissionId : Uuid) :
    Brittle (engine Id session) (findMapping roleId permissionId) :=
  fun _ => trivial

theorem brittle_findAssignment (userId roleId tenantId : Id) :
    Brittle (engine Id session) (findAssignment userId roleId tenantId) :=
  fun _ => trivial

theorem brittle_addMapping (roleId tenantId actorId : Id) (permission : PermissionEntity) :
    Brittle (engine Id session) (addMapping roleId tenantId actorId permission) := by
  refine brittle_bind (brittle_findMapping _ _) fun found => ?_
  split
  · trivial
  · refine brittle_bind brittle_newId fun id => ?_
    exact brittle_bind (brittle_persist _) fun _ => trivial

theorem brittle_removeMapping (roleId tenantId actorId : Id) (permission : PermissionEntity) :
    Brittle (engine Id session) (removeMapping roleId tenantId actorId permission) := by
  refine brittle_bind (brittle_findMapping _ _) fun found => ?_
  split
  · trivial
  · exact brittle_bind (brittle_persist _) fun _ => trivial

theorem brittle_updateRolePermissions (roleId tenantId : Id) (dto : UpdateRolePermissionsDto Id)
    (actorId : Id) :
    Brittle (engine Id session) (updateRolePermissions roleId tenantId dto actorId) := by
  refine brittle_bind (brittle_findOneForTenant _ _) fun role => ?_
  refine brittle_bind (brittle_refuseIf _ _) fun _ => ?_
  refine brittle_bind (fun _ => trivial) fun added => ?_
  refine brittle_bind (brittle_forEach fun permission => brittle_addMapping _ _ _ permission) fun _ => ?_
  refine brittle_bind (fun _ => trivial) fun removed => ?_
  exact brittle_bind (brittle_forEach fun permission => brittle_removeMapping _ _ _ permission) fun _ =>
    trivial

theorem brittle_requireUser (userId tenantId : Id) :
    Brittle (engine Id session) (requireUser userId tenantId) :=
  fun _ => brittle_orThrow _ _

theorem brittle_saveAssignment (userId tenantId : Id) (dto : AssignRoleDto Id) :
    Brittle (engine Id session) (saveAssignment userId tenantId dto) := by
  refine brittle_bind (brittle_findAssignment _ _ _) fun found => ?_
  split
  · refine brittle_bind (fun _ => trivial) fun db => ?_
    split
    · exact brittle_bind (brittle_persist _) fun _ => trivial
    · exact brittle_bind (brittle_persist _) fun _ => trivial
  · refine brittle_bind brittle_newId fun id => ?_
    exact brittle_bind (brittle_persist _) fun _ => trivial

theorem brittle_assignToUser (userId tenantId : Id) (dto : AssignRoleDto Id) (actorId : Id) :
    Brittle (engine Id session) (assignToUser userId tenantId dto actorId) := by
  refine brittle_bind (brittle_requireUser _ _) fun _ => ?_
  refine brittle_bind (brittle_findOneForTenant _ _) fun _ => ?_
  exact brittle_bind (brittle_saveAssignment _ _ _) fun _ => trivial

theorem brittle_updateUserRoles (userId tenantId : Id) (dto : UpdateUserRolesDto Id) (actorId : Id) :
    Brittle (engine Id session) (updateUserRoles userId tenantId dto actorId) := by
  refine brittle_bind (brittle_requireUser _ _) fun _ => ?_
  refine brittle_bind (brittle_forEach fun item => ?_) fun _ => ?_
  · refine brittle_bind (brittle_findOneForTenant _ _) fun _ => ?_
    exact brittle_bind (brittle_saveAssignment _ _ _) fun _ => trivial
  · refine brittle_bind (brittle_forEach fun roleId => ?_) fun _ => trivial
    refine brittle_bind (brittle_findAssignment _ _ _) fun found => ?_
    split
    · trivial
    · exact brittle_bind (brittle_persist _) fun _ => trivial

theorem brittle_addOverride (userId tenantId : Id) (dto : CreateOverrideDto Id) (actorId : Id) :
    Brittle (engine Id session) (addOverride userId tenantId dto actorId) := by
  refine brittle_bind brittle_visible fun db => ?_
  refine brittle_bind (brittle_orThrow _ _) fun _ => ?_
  refine brittle_bind brittle_visible fun db => ?_
  dsimp only
  split
  · split
    · trivial
    · exact brittle_bind (brittle_persist _) fun _ => trivial
  · refine brittle_bind brittle_newId fun id => ?_
    exact brittle_bind (brittle_persist _) fun _ => trivial

theorem brittle_removeOverride (overrideId userId tenantId actorId : Id) :
    Brittle (engine Id session) (removeOverride overrideId userId tenantId actorId) := by
  refine brittle_bind brittle_visible fun db => ?_
  dsimp only
  split
  · trivial
  · exact brittle_bind (brittle_persist _) fun _ => trivial

theorem brittle_createAcl (tenantId : Id) (dto : CreateAclDto Id) (actorId : Id) :
    Brittle (engine Id session) (createAcl tenantId dto actorId) := by
  refine brittle_bind brittle_visible fun db => ?_
  dsimp only
  split
  · trivial
  · refine brittle_bind brittle_newId fun id => ⟨fun why => ?_, trivial⟩
    dsimp only [Program.bind]
    split
    · exact ⟨_, rfl⟩
    · exact ⟨_, rfl⟩
    · exact ⟨_, rfl⟩
    · next impossible => cases impossible

theorem brittle_deleteAcl (id tenantId actorId : Id) :
    Brittle (engine Id session) (deleteAcl id tenantId actorId) := by
  refine brittle_bind brittle_visible fun db => ?_
  refine brittle_bind (brittle_orThrow _ _) fun _ => ?_
  exact brittle_bind (brittle_persist _) fun _ => trivial

theorem brittle_createUser (hashPassword : String → String) (tenantId : Id) (dto : CreateUserDto Id)
    (actorId : Id) :
    Brittle (engine Id session) (createUser hashPassword tenantId dto actorId) := by
  refine brittle_bind brittle_visible fun db => ?_
  refine brittle_bind (brittle_refuseIf _ _) fun _ => ?_
  refine brittle_bind brittle_newId fun id => ?_
  refine brittle_bind (brittle_persist _) fun _ => ?_
  refine brittle_bind (fun _ => trivial) fun defaultRole => ?_
  split
  · trivial
  · exact brittle_bind (brittle_assignToUser _ _ _ _) fun _ => trivial

omit [Identifier Id] in
theorem brittle_saveUser (user : UserEntity) :
    Brittle (engine Id session) (saveUser user : Handler Id Unit) := by
  refine brittle_bind brittle_visible fun db => ?_
  split
  · exact brittle_persist _
  · exact brittle_persist _

theorem brittle_updateUser [DecidableEq Id] (id : Id) (dto : UpdateUserDto Id) (tenantId actorId : Id) :
    Brittle (engine Id session) (updateUser id dto tenantId actorId) := by
  refine brittle_bind (fun _ => brittle_orThrow _ _) fun user => ?_
  refine brittle_bind (brittle_refuseIf _ _) fun _ => ?_
  refine brittle_bind (brittle_refuseIf _ _) fun _ => ?_
  exact brittle_bind (brittle_saveUser _) fun _ => trivial

theorem brittle_setActivation [DecidableEq Id] (id tenantId : Id) (isActive : Bool) (actorId : Id) :
    Brittle (engine Id session) (setActivation id tenantId isActive actorId) := by
  refine brittle_bind (fun _ => brittle_orThrow _ _) fun user => ?_
  refine brittle_bind (brittle_refuseIf _ _) fun _ => ?_
  refine brittle_bind (brittle_saveUser _) fun _ => ?_
  cases isActive with
  | true => trivial
  | false => exact ⟨fun db => ⟨_, rfl⟩, fun why => ⟨.queryFailed, rfl⟩, ⟨_, _, rfl⟩, trivial⟩

omit [Identifier Id] in
theorem brittle_saveTenant (tenant : TenantEntity) :
    Brittle (engine Id session) (saveTenant tenant : Handler Id Unit) := by
  refine brittle_bind brittle_visible fun db => ?_
  split
  · exact brittle_persist _
  · exact brittle_persist _

theorem brittle_updateTenant (id : Id) (dto : UpdateTenantDto) (actorId : Id) :
    Brittle (engine Id session) (updateTenant id dto actorId) := by
  refine brittle_bind (fun _ => brittle_orThrow _ _) fun tenant => ?_
  refine brittle_bind (brittle_refuseIf _ _) fun _ => ?_
  exact brittle_bind (brittle_saveTenant _) fun _ => trivial

theorem brittle_deactivateTenant (id actorId : Id) :
    Brittle (engine Id session) (deactivateTenant id actorId) := by
  refine brittle_bind (fun _ => brittle_orThrow _ _) fun tenant => ?_
  exact brittle_bind (brittle_saveTenant _) fun _ => trivial

theorem brittle_createTenantWithAdmin (hashPassword : String → String) (dto : CreateTenantDto)
    (actorId : Id) :
    Brittle (engine Id session) (createTenantWithAdmin hashPassword dto actorId) := by
  refine brittle_bind brittle_visible fun db => ?_
  refine brittle_bind (brittle_refuseIf _ _) fun _ => ?_
  refine brittle_bind brittle_newId fun tenantId => ?_
  refine brittle_bind (brittle_persist _) fun _ => ?_
  refine brittle_bind brittle_newId fun userId => ?_
  refine brittle_bind (brittle_persist _) fun _ => ?_
  refine brittle_bind brittle_visible fun db => ?_
  split
  · trivial
  · exact brittle_bind brittle_newId fun _ => brittle_bind (brittle_persist _) fun _ => trivial

theorem brittle_logout (userId tenantId : Id) :
    Brittle (engine Id session) (Controllers.logout userId tenantId) :=
  ⟨fun _ => ⟨_, rfl⟩, fun _ => ⟨.queryFailed, rfl⟩, ⟨_, _, rfl⟩, trivial⟩

end Brittleness

/-! The endpoints. -/

/-- A request that its guards let through: of a tenant principal, or of a super admin to
the tenant endpoints. -/
inductive Mutation (Id : Type) where
  | tenant (user : TenantPrincipal Id) (route : Route Id)
  | createTenant (actorId : Id) (dto : CreateTenantDto)
  | updateTenant (actorId id : Id) (dto : UpdateTenantDto)
  | deactivateTenant (actorId id : Id)

namespace Mutation
variable [Identifier Id]

def session : Mutation Id → Session
  | .tenant user _ => sessionOf user.payload
  | _ => .bypassRls

def handler [DecidableEq Id] (env : Environment) : Mutation Id → Handler Id Unit
  | .tenant user route => route.handler env user
  | .createTenant actorId dto => do let _ ← createTenantWithAdmin env.hashPassword dto actorId
  | .updateTenant actorId id dto => do let _ ← AccountServices.updateTenant id dto actorId
  | .deactivateTenant actorId id => AccountServices.deactivateTenant id actorId

def serveWithin [DecidableEq Id] (env : Environment) (mutation : Mutation Id) (ids : Nat → Uuid)
    (budget : Nat) (db : Db) :
    Served (effects Id) Db Unit :=
  Transaction.serveWithin (engine Id mutation.session) ids .other .queryFailed
    (mutation.handler env) budget db

/-- The number of statements that have to succeed for the first event of the request. -/
def firstEvent [DecidableEq Id] (env : Environment) (mutation : Mutation Id) (ids : Nat → Uuid)
    (db : Db) : Option Nat :=
  match mutation with
  | .createTenant _ dto => createTenantEvent .bypassRls db env.hashPassword ids dto
  | .updateTenant _ id dto => updateTenantEvent .bypassRls db id dto
  | .deactivateTenant _ id => deactivateTenantEvent .bypassRls db id
  | .tenant user route =>
      let session := sessionOf user.payload
      match route with
      | .createRole now dto => createRoleEvent session user.tenantId db (ids 0) now dto
      | .updateRole now id body => updateRoleEvent session user.tenantId db env.driver now id body
      | .deleteRole id => deleteRoleEvent session user.tenantId db id
      | .assignPermissions roleId dto =>
          assignPermissionsEvent session user.tenantId db (ids 0) roleId dto
      | .updateUserRoles userId dto => updateUserRolesEvent session user.tenantId db (ids 0) userId dto
      | .addOverride userId dto => addOverrideEvent session user.tenantId db (ids 0) userId dto
      | .removeOverride userId overrideId =>
          removeOverrideEvent session user.tenantId db overrideId userId
      | .createAcl dto => createAclEvent session user.tenantId db (ids 0) dto
      | .deleteAcl id => deleteAclEvent session user.tenantId db id
      | .createUser dto => createUserEvent session user.tenantId db env.hashPassword ids dto
      | .updateUser id dto => updateUserEvent session user.tenantId db id dto
      | .updateStatus id isActive => setActivationEvent session user.tenantId db id isActive
      | .updateTenant id dto => updateTenantEvent session db id dto
      | .logout => some 1

section Handlers
variable {α : Type} {session : Session} {ids : Nat → Uuid} {db : Db}

omit [Identifier Id] in
/-- What a service returns is dropped by its endpoint. -/
theorem firstEvent_dropped (service : Handler Id α) :
    (outset (engine Id session) ids (service >>= fun _ => pure ()) { db }).firstEvent =
      (outset (engine Id session) ids service { db }).firstEvent := by
  rw [outset_bind]
  exact firstEvent_silent _ fun _ => ()

omit [Identifier Id] in
theorem brittle_dropped {service : Handler Id α} (brittle : Brittle (engine Id session) service) :
    Brittle (engine Id session) (service >>= fun _ => (pure () : Handler Id Unit)) :=
  brittle_bind brittle fun _ => trivial

end Handlers

variable [DecidableEq Id] {env : Environment} {ids : Nat → Uuid} {db : Db}

theorem firstEvent_handler (mutation : Mutation Id) :
    (outset (engine Id mutation.session) ids (mutation.handler env) { db }).firstEvent =
      mutation.firstEvent env ids db := by
  cases mutation with
  | createTenant actorId dto => exact (firstEvent_dropped _).trans (createTenantWithAdmin_event _ dto)
  | updateTenant actorId id dto => exact (firstEvent_dropped _).trans (updateTenant_event id dto)
  | deactivateTenant actorId id => exact deactivateTenant_event id
  | tenant user route =>
    cases route with
    | createRole now dto => exact (firstEvent_dropped _).trans (createCustomRole_event now dto)
    | updateRole now id body =>
      exact (firstEvent_dropped _).trans (updateCustomRole_event env.driver now id body)
    | deleteRole id => exact deleteCustomRole_event id
    | assignPermissions roleId dto => exact updateRolePermissions_event roleId dto
    | updateUserRoles userId dto => exact updateUserRoles_event userId dto
    | addOverride userId dto => exact (firstEvent_dropped _).trans (addOverride_event userId dto)
    | removeOverride userId overrideId => exact removeOverride_event overrideId userId
    | createAcl dto => exact (firstEvent_dropped _).trans (createAcl_event dto)
    | deleteAcl id => exact deleteAcl_event id
    | createUser dto => exact (firstEvent_dropped _).trans (createUser_event env.hashPassword dto)
    | updateUser id dto => exact (firstEvent_dropped _).trans (updateUser_event id dto)
    | updateStatus id isActive => exact setActivation_event id isActive
    | updateTenant id dto => exact (firstEvent_dropped _).trans (updateTenant_event id dto)
    | logout => exact logout_event user.sub

theorem brittle_handler (mutation : Mutation Id) :
    Brittle (engine Id mutation.session) (mutation.handler env) := by
  cases mutation with
  | createTenant actorId dto => exact brittle_dropped (brittle_createTenantWithAdmin _ dto actorId)
  | updateTenant actorId id dto => exact brittle_dropped (brittle_updateTenant id dto actorId)
  | deactivateTenant actorId id => exact brittle_deactivateTenant id actorId
  | tenant user route =>
    cases route with
    | createRole now dto => exact brittle_dropped (brittle_createCustomRole _ _ dto _)
    | updateRole now id body => exact brittle_dropped (brittle_updateCustomRole _ _ id _ body _)
    | deleteRole id => exact brittle_deleteCustomRole id _ _
    | assignPermissions roleId dto => exact brittle_updateRolePermissions roleId _ dto _
    | updateUserRoles userId dto => exact brittle_updateUserRoles userId _ dto _
    | addOverride userId dto => exact brittle_dropped (brittle_addOverride userId _ dto _)
    | removeOverride userId overrideId => exact brittle_removeOverride overrideId userId _ _
    | createAcl dto => exact brittle_dropped (brittle_createAcl _ dto _)
    | deleteAcl id => exact brittle_deleteAcl id _ _
    | createUser dto => exact brittle_dropped (brittle_createUser _ _ dto _)
    | updateUser id dto => exact brittle_dropped (brittle_updateUser id dto _ _)
    | updateStatus id isActive => exact brittle_setActivation id _ isActive _
    | updateTenant id dto => exact brittle_dropped (brittle_updateTenant id dto _)
    | logout => exact brittle_logout _ _

end Mutation

section Traces
variable [Identifier Id] [DecidableEq Id] {env : Environment} {ids : Nat → Uuid} {db : Db}

/-- A request that ends in an error leaves the tables as they were and no event exactly if
it fails before its first event. -/
theorem failed_untraced_iff (mutation : Mutation Id) (budget : Nat) {error : HttpException}
    (failed : (mutation.serveWithin env ids budget db).result = .error error) :
    ((mutation.serveWithin env ids budget db).db = db ∧
      (mutation.serveWithin env ids budget db).tx.events = []) ↔
      ∀ sent, mutation.firstEvent env ids db = some sent → budget < sent := by
  rw [← Mutation.firstEvent_handler]
  exact untraced_iff mutation.brittle_handler budget db failed

end Traces

/-! Two requests of Ada's in the office. -/

section Example
open Reactivation
open Coherence (plainEnvironment)

def ada : TenantPrincipal Uuid := (request 22 office .logout).user

def overreach : Mutation Uuid := .tenant ada (.updateUserRoles 31 { add := [⟨11, none⟩, ⟨99, none⟩] })

theorem overreach_fails : (overreach.serveWithin plainEnvironment (countedFrom 41) 100 office).result =
    .error (.notFound "Role not found") := by decide

theorem overreach_emits :
    (overreach.serveWithin plainEnvironment (countedFrom 41) 100 office).tx.events ≠ [] := by decide

/-- The second role is not found when the first one has been announced. -/
theorem overreach_traced :
    ¬∀ (mutation : Mutation Uuid) (ids : Nat → Uuid) (budget : Nat) (db : Db) (error : HttpException),
    (mutation.serveWithin plainEnvironment ids budget db).result = .error error →
      (mutation.serveWithin plainEnvironment ids budget db).db = db ∧
        (mutation.serveWithin plainEnvironment ids budget db).tx.events = [] := by
  intro claimed
  exact overreach_emits (claimed overreach (countedFrom 41) 100 office _ overreach_fails).2

theorem overreach_late :
    ((overreach.serveWithin plainEnvironment (countedFrom 41) 100 office).db = office ∧
    (overreach.serveWithin plainEnvironment (countedFrom 41) 100 office).tx.events = []) ↔
      ∀ sent, overreach.firstEvent plainEnvironment (countedFrom 41) office = some sent → 100 < sent :=
  failed_untraced_iff overreach 100 overreach_fails

def signedIn : Db := { office with refreshTokens := ⟨[⟨51, 31, "hash", 100⟩], by decide⟩ }

def unfinished : Served (effects Uuid) Db Unit :=
  (Mutation.tenant ada (.updateStatus 31 false)).serveWithin plainEnvironment
    (countedFrom 41) 4 signedIn

/-- The commit of a deactivation fails: Bob is active still and signed out. -/
example : unfinished.db.users.rows = signedIn.users.rows ∧ unfinished.db.refreshTokens.rows = [] := by
  decide

end Example

end GenericIam.FailedRequests
