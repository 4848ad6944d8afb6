import GenericIam.Handlers
import GenericIam.Json

/-! The services that change roles, their permissions, their assignments and the
permission overrides of users, and the hourly purge of expired assignments. -/

namespace GenericIam.RbacServices
open Database Identifiers Events Transaction Handlers

variable {Id : Type} [Identifier Id]

section RoleService

structure CreateRoleDto where
  name : String
  description : Option String := none
  deriving DecidableEq

def roleAudit (eventType : AuditEventType) (tenantId actorId roleId : Id) : Event Id :=
  .audit { eventType, tenantId, actorId, resource := .own "role" roleId }

def createCustomRole (now : Time) (tenantId : Id) (dto : CreateRoleDto) (actorId : Id) :
    Handler Id RoleEntity := do
  let id ← newId
  let savedRole : RoleEntity := {
    id, tenantId := some (value tenantId), name := dto.name, description := dto.description,
    createdAt := now, updatedAt := now }
  persist (.insertRole savedRole)
  emit (roleAudit .ROLE_CREATED tenantId actorId (canonical savedRole.id))
  pure savedRole

def findOneForTenant (id tenantId : Id) : Handler Id RoleEntity := do
  let db ← visible
  let role := db.roles.findOne fun role =>
    role.id == value id && (role.tenantId == some (value tenantId) || role.isSystem)
  orThrow role (.notFound "Role not found")

def findOneByName (name : String) (tenantId : Option Id) : Handler Id (Option RoleEntity) := do
  let db ← visible
  pure (db.roles.findOne fun role => role.name == name && role.tenantId == tenantId.map value)

/-- How the database reads a JSON value into a column; `none` is a refusal. -/
structure Driver where
  uuid : Json → Option Uuid
  varchar : Json → Option String
  boolean : Json → Option Bool
  timestamp : Json → Option Time

/-- What `save` goes by for a column: how the database reads a member of the entity, and
whether the member is what the stored row has already. -/
structure ColumnType (α : Type) where
  reads : Json → Option α
  stands : α → Json → Bool

def ColumnType.nullable {α : Type} (column : ColumnType α) : ColumnType (Option α) where
  reads given := if given.isNull then some none else (column.reads given).map some
  stands
    | none, given => given.isNull
    | some stored, given => column.stands stored given

def ColumnType.required {α : Type} (column : ColumnType α) : ColumnType α where
  reads given := if given.isNull then none else column.reads given
  stands := column.stands

-- ids are compared by their letters, dates by their instant
def Driver.uuids (driver : Driver) : ColumnType Uuid :=
  ⟨driver.uuid, fun stored given => given.isString (printUuid stored)⟩
def Driver.varchars (driver : Driver) : ColumnType String :=
  ⟨driver.varchar, fun stored given => given.isString stored⟩
def Driver.booleans (driver : Driver) : ColumnType Bool :=
  ⟨driver.boolean, fun stored given => given.isBool stored⟩
def Driver.timestamps (driver : Driver) : ColumnType Time :=
  ⟨driver.timestamp, fun stored given => driver.timestamp given == some stored⟩

inductive Member (α : Type) where
  | loaded (value : α)
  | given (json : Json)

section Member
variable {α : Type}

def Member.assign (value : α) : Option Json → Member α
  | none => .loaded value
  | some json => .given json

def Member.reads (column : ColumnType α) : Member α → Option α
  | .loaded value => some value
  | .given json => column.reads json

def Member.stands [DecidableEq α] (column : ColumnType α) (stored : α) : Member α → Bool
  | .loaded value => value == stored
  | .given json => column.stands stored json

/-- The column after an update, which leaves it out where nothing has changed. -/
def Member.over [DecidableEq α] (column : ColumnType α) (stored : α) (member : Member α) : Option α :=
  if member.stands column stored then some stored else member.reads column

end Member

structure RoleDraft where
  id : Member Uuid
  tenantId : Member (Option Uuid)
  name : Member String
  description : Member (Option String)
  isSystem : Member Bool
  createdAt : Member Time
  updatedAt : Member Time

def assignBody (role : RoleEntity) (body : Json) : RoleDraft where
  id := .assign role.id (body.property "id")
  tenantId := .assign role.tenantId (body.property "tenant_id")
  name := .assign role.name (body.property "name")
  description := .assign role.description (body.property "description")
  isSystem := .assign role.isSystem (body.property "is_system")
  createdAt := .assign role.createdAt (body.property "created_at")
  updatedAt := .assign role.updatedAt (body.property "updated_at")

def RoleDraft.names (driver : Driver) (draft : RoleDraft) (stored : RoleEntity) : Bool :=
  draft.id.reads driver.uuids.required == some stored.id && draft.id.stands driver.uuids stored.id

def RoleDraft.stands (driver : Driver) (draft : RoleDraft) (stored : RoleEntity) : Bool :=
  draft.tenantId.stands driver.uuids.nullable stored.tenantId &&
    draft.name.stands driver.varchars stored.name &&
    draft.description.stands driver.varchars.nullable stored.description &&
    draft.isSystem.stands driver.booleans stored.isSystem &&
    draft.createdAt.stands driver.timestamps stored.createdAt &&
      draft.updatedAt.stands driver.timestamps stored.updatedAt

/-- The date of an update is the database's unless the entity brings another one along. -/
def RoleDraft.touched (driver : Driver) (now : Time) (draft : RoleDraft)
    (stored : RoleEntity) : Option Time :=
  if draft.updatedAt.stands driver.timestamps stored.updatedAt then some now
  else draft.updatedAt.reads driver.timestamps.required

def RoleDraft.over (driver : Driver) (now : Time) (draft : RoleDraft) (stored : RoleEntity) :
    Option RoleEntity := do
  let tenantId ← draft.tenantId.over driver.uuids.nullable stored.tenantId
  let name ← draft.name.over driver.varchars.required stored.name
  let description ← draft.description.over driver.varchars.nullable stored.description
  let isSystem ← draft.isSystem.over driver.booleans.required stored.isSystem
  let createdAt ← draft.createdAt.over driver.timestamps.required stored.createdAt
  let updatedAt ← draft.touched driver now stored
  pure { id := stored.id, tenantId, name, description, isSystem, createdAt, updatedAt }

def RoleDraft.inserted (driver : Driver) (draft : RoleDraft) : Option RoleEntity := do
  let id ← draft.id.reads driver.uuids.required
  let tenantId ← draft.tenantId.reads driver.uuids.nullable
  let name ← draft.name.reads driver.varchars.required
  let description ← draft.description.reads driver.varchars.nullable
  let isSystem ← draft.isSystem.reads driver.booleans.required
  let createdAt ← draft.createdAt.reads driver.timestamps.required
  let updatedAt ← draft.updatedAt.reads driver.timestamps.required
  pure { id, tenantId, name, description, isSystem, createdAt, updatedAt }

/-- `repository.save`: the row that the entity names is updated where it differs, and a
new one inserted if there is none to be seen. An id that is no `uuid` fails the request. -/
def saveRole (driver : Driver) (now : Time) (draft : RoleDraft) : Handler Id RoleEntity := do
  let _ ← orThrow (draft.id.reads driver.uuids.required) .queryFailed
  let db ← visible
  match db.roles.findOne (draft.names driver) with
  | some stored =>
      if draft.stands driver stored then pure stored
      else
        let updated ← orThrow (draft.over driver now stored) .queryFailed
        persist (.updateRole updated)
        pure updated
  | none =>
      let inserted ← orThrow (draft.inserted driver) .queryFailed
      persist (.insertRole inserted)
      pure inserted

def updateCustomRole (driver : Driver) (now : Time) (id tenantId : Id) (dto : Json) (actorId : Id) :
    Handler Id RoleEntity := do
  let role ← findOneForTenant id tenantId
  refuseIf role.isSystem (.badRequest "Cannot modify system roles")
  let updatedRole ← saveRole driver now (assignBody role dto)
  emit (roleAudit .ROLE_UPDATED tenantId actorId (canonical updatedRole.id))
  pure updatedRole

def deleteCustomRole (id tenantId actorId : Id) : Handler Id Unit := do
  let role ← findOneForTenant id tenantId
  refuseIf role.isSystem (.badRequest "Cannot delete system roles")
  let db ← visible
  let assignedUsersCount := db.userRoles.count fun ur => ur.roleId == role.id
  refuseIf (decide (assignedUsersCount > 0)) (.conflict "Cannot delete role as it is assigned to users")
  persist (.deleteRole role)
  emit (roleAudit .ROLE_DELETED tenantId actorId id)

end RoleService

section PermissionService

inductive PermissionRef (Id : Type) where
  | byId (id : Id)
  | byCode (code : String)
  deriving DecidableEq

def PermissionRef.names (ref : PermissionRef Id) (permission : PermissionEntity) : Bool :=
  match ref with
  | .byId id => permission.id == value id
  | .byCode code => permission.code == code

structure UpdateRolePermissionsDto (Id : Type) where
  add : List (PermissionRef Id) := []
  remove : List (PermissionRef Id) := []
  deriving DecidableEq

def findPermissions (refs : List (PermissionRef Id)) : Handler Id (List PermissionEntity) := do
  let db ← visible
  pure (db.permissions.find fun permission => refs.any fun ref => ref.names permission)

def findMapping (roleId : Id) (permissionId : Uuid) : Handler Id (Option RolePermissionEntity) := do
  let db ← visible
  pure (db.rolePermissions.findOne fun rp => rp.roleId == value roleId &&
    rp.permissionId == permissionId)

def mappingAudit (eventType : AuditEventType) (tenantId actorId roleId : Id)
    (permissionId : Uuid) : Event Id :=
  .audit {
    eventType, tenantId, actorId, resource := .own "role" roleId, payloadPermissionId :=
      some (canonical permissionId) }

def addMapping (roleId tenantId actorId : Id) (permission : PermissionEntity) : Handler Id Unit := do
  match ← findMapping roleId permission.id with
  | some _ => pure ()
  | none =>
      let id ← newId
      persist (.insertRolePermission ⟨id, value roleId, permission.id⟩)
      emit (mappingAudit .PERMISSION_ADDED_TO_ROLE tenantId actorId roleId permission.id)

def removeMapping (roleId tenantId actorId : Id) (permission : PermissionEntity) : Handler Id Unit := do
  match ← findMapping roleId permission.id with
  | none => pure ()
  | some mapping =>
      persist (.deleteRolePermission mapping)
      emit (mappingAudit .PERMISSION_REMOVED_FROM_ROLE tenantId actorId roleId permission.id)

def rolePermissionsChanged (tenantId roleId : Id) : Event Id :=
  .permissionChanged { tenantId := some tenantId, payloadRoleId := some roleId }

def updateRolePermissions (roleId tenantId : Id) (dto : UpdateRolePermissionsDto Id) (actorId : Id) :
    Handler Id Unit := do
  let role ← findOneForTenant roleId tenantId
  refuseIf role.isSystem (.badRequest "Cannot modify permissions of system roles")
  let added ← findPermissions dto.add
  forEach added (addMapping roleId tenantId actorId)
  let removed ← findPermissions dto.remove
  forEach removed (removeMapping roleId tenantId actorId)
  emit (rolePermissionsChanged tenantId roleId)

end PermissionService

section AssignmentService

structure AssignRoleDto (Id : Type) where
  roleId : Id
  expiresAt : Option Time := none
  deriving DecidableEq

structure UpdateUserRolesDto (Id : Type) where
  add : List (AssignRoleDto Id) := []
  remove : List Id := []
  deriving DecidableEq

def userAudit (eventType : AuditEventType) (tenantId actorId userId : Id) : Event Id :=
  .audit { eventType, tenantId, actorId, resource := .own "user" userId }

def assignmentAudit (eventType : AuditEventType) (tenantId actorId userId roleId : Id) : Event Id :=
  .audit { eventType, tenantId, actorId, resource := .own "user" userId, payloadRoleId := some roleId }

def permissionChanged (tenantId userId : Id) : Event Id :=
  .permissionChanged { tenantId := some tenantId, userId := some userId }

def requireUser (userId tenantId : Id) : Handler Id UserEntity := do
  let db ← visible
  let user := db.users.findOne fun user => user.id == value userId && user.tenantId == value tenantId
  orThrow user (.notFound "User not found in tenant")

def findAssignment (userId roleId tenantId : Id) : Handler Id (Option UserRoleEntity) := do
  let db ← visible
  pure (db.userRoles.findOne fun ur =>
    ur.userId == value userId && ur.roleId == value roleId && ur.tenantId == value tenantId)

/-- `repository.save` of a loaded assignment: the stored row is read again, and inserted
if it has gone. -/
def renewAssignment (assignment : UserRoleEntity) : Handler Id UserRoleEntity := do
  let db ← visible
  if db.userRoles.any fun ur => ur.id == assignment.id then
    persist (.updateUserRole assignment)
    pure assignment
  else
    persist (.insertUserRole assignment)
    pure assignment

/-- The assignment of a role, renewed if there is one and created otherwise. -/
def saveAssignment (userId tenantId : Id) (dto : AssignRoleDto Id) : Handler Id UserRoleEntity := do
  match ← findAssignment userId dto.roleId tenantId with
  | some existing => renewAssignment { existing with expiresAt := dto.expiresAt }
  | none =>
      let id ← newId
      let assignment : UserRoleEntity :=
        ⟨id, value tenantId, value userId, value dto.roleId, dto.expiresAt⟩
      persist (.insertUserRole assignment)
      pure assignment

def assignToUser (userId tenantId : Id) (dto : AssignRoleDto Id) (actorId : Id) :
    Handler Id UserRoleEntity := do
  let _ ← requireUser userId tenantId
  let _ ← findOneForTenant dto.roleId tenantId
  let assignment ← saveAssignment userId tenantId dto
  emit (assignmentAudit .ROLE_ASSIGNED tenantId actorId userId dto.roleId)
  emit (permissionChanged tenantId userId)
  pure assignment

def addRole (userId tenantId actorId : Id) (item : AssignRoleDto Id) : Handler Id Unit := do
  let _ ← findOneForTenant item.roleId tenantId
  let _ ← saveAssignment userId tenantId item
  emit (assignmentAudit .ROLE_ASSIGNED tenantId actorId userId item.roleId)

def removeRole (userId tenantId actorId roleId : Id) : Handler Id Unit := do
  match ← findAssignment userId roleId tenantId with
  | none => pure ()
  | some assignment =>
      persist (.deleteUserRole assignment)
      emit (assignmentAudit .ROLE_REVOKED tenantId actorId userId roleId)

def updateUserRoles (userId tenantId : Id) (dto : UpdateUserRolesDto Id) (actorId : Id) :
    Handler Id Unit := do
  let _ ← requireUser userId tenantId
  forEach dto.add (addRole userId tenantId actorId)
  forEach dto.remove (removeRole userId tenantId actorId)
  emit (permissionChanged tenantId userId)

end AssignmentService

section OverrideService

structure CreateOverrideDto (Id : Type) where
  permissionId : Id
  overrideType : OverrideType
  reason : Option String := none
  deriving DecidableEq

def overrideAudit (eventType : AuditEventType) (tenantId actorId userId permissionId : Id) : Event Id :=
  .audit
    { eventType, tenantId, actorId, resource := .own "user" userId, payloadPermissionId := some permissionId }

def emitOverrideEvent (userId tenantId actorId : Id) (dto : CreateOverrideDto Id) :
    Handler Id Unit := do
  emit (overrideAudit .PERMISSION_OVERRIDE_ADDED tenantId actorId userId dto.permissionId)
  emit (permissionChanged tenantId userId)

def addOverride (userId tenantId : Id) (dto : CreateOverrideDto Id) (actorId : Id) :
    Handler Id UserPermissionOverrideEntity := do
  let db ← visible
  let permission := db.permissions.findOne fun permission => permission.id == value dto.permissionId
  let _ ← orThrow permission (.notFound "Permission not found")
  let db ← visible
  let existing := db.userPermissionOverrides.findOne fun o =>
    o.userId == value userId && o.permissionId == value dto.permissionId && o.tenantId == value tenantId
  match existing with
  | some existing =>
      if existing.overrideType = dto.overrideType then
        pure existing
      else
        let updated := { existing with overrideType := dto.overrideType, reason := dto.reason.getD "" }
        persist (.updateOverride updated)
        emitOverrideEvent userId tenantId actorId dto
        pure updated
  | none =>
      let id ← newId
      let override : UserPermissionOverrideEntity :=
        ⟨id, value tenantId, value userId, value dto.permissionId, dto.overrideType, dto.reason.getD ""⟩
      persist (.insertOverride override)
      emitOverrideEvent userId tenantId actorId dto
      pure override

def removeOverride (overrideId userId tenantId actorId : Id) : Handler Id Unit := do
  let db ← visible
  let override := db.userPermissionOverrides.findOne fun o =>
    o.id == value overrideId && o.userId == value userId && o.tenantId == value tenantId
  match override with
  | none => pure ()
  | some override =>
      persist (.deleteOverride override)
      emit (overrideAudit .PERMISSION_OVERRIDE_REMOVED tenantId actorId userId
        (canonical override.permissionId))
      emit (permissionChanged tenantId userId)

end OverrideService

def purgeExpiredRoles (now : Time) : Handler Id Unit := persist (.deleteExpiredUserRoles now)

end GenericIam.RbacServices
