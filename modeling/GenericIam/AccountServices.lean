import GenericIam.RbacServices

/-! The services that change ACL entries, users and tenants, and the seeding of the
system permissions and roles. -/

namespace GenericIam.AccountServices
open Database Identifiers CacheKeys Events Transaction Handlers RbacServices

variable {Id : Type} [Identifier Id]

section AclService

abbrev CreateAclDto (Id : Type) := CheckAclDto Id

def aclChanged (eventType : AuditEventType) (tenantId userId : Id)
    (resourceType resourceId permission : String) :
    Event Id :=
  .aclChanged {
    eventType, tenantId := some tenantId, userId := some userId, resourceType := some resourceType,
    resourceId := some resourceId, permission := some permission }

def aclAudit (eventType : AuditEventType) (tenantId actorId : Id)
    (resourceType resourceId : String) : Event Id :=
  .audit { eventType, tenantId, actorId, resource := .client resourceType resourceId }

def createAcl (tenantId : Id) (dto : CreateAclDto Id) (actorId : Id) :
    Handler Id ResourceAclEntity := do
  let db ← visible
  let existing := db.resourceAcls.findOne fun acl =>
    acl.tenantId == value tenantId && acl.userId == value dto.userId &&
      acl.resourceType == dto.resourceType &&
      acl.resourceId == dto.resourceId && acl.permission == dto.permission
  match existing with
  | some existing => pure existing
  | none =>
      let id ← newId
      let saved : ResourceAclEntity :=
        ⟨id, value tenantId, value dto.userId, dto.resourceType, dto.resourceId, dto.permission⟩
      match ← attempt (.insertAcl saved) with
      | some (.foreignKey "tenant_id") =>
          .throw (.notFound ("Tenant with ID " ++ text tenantId ++ " not found"))
      | some (.foreignKey "user_id") =>
          .throw (.notFound ("User with ID " ++ text dto.userId ++ " not found"))
      | some _ => .throw .queryFailed
      | none =>
          emit (aclChanged .ACL_CREATED tenantId dto.userId dto.resourceType
            dto.resourceId dto.permission)
          emit (aclAudit .ACL_CREATED tenantId actorId dto.resourceType dto.resourceId)
          pure saved

def deleteAcl (id tenantId actorId : Id) : Handler Id Unit := do
  let db ← visible
  let acl := db.resourceAcls.findOne fun acl => acl.id == value id && acl.tenantId == value tenantId
  let acl ← orThrow acl (.notFound "ACL not found")
  persist (.deleteAcl acl)
  emit (aclChanged .ACL_DELETED tenantId
    (canonical acl.userId) acl.resourceType acl.resourceId acl.permission)
  emit (aclAudit .ACL_DELETED tenantId actorId acl.resourceType acl.resourceId)

end AclService

section UserService

def memberRole : String := "Employee"

structure CreateUserDto (Id : Type) where
  email : String
  password : String
  firstName : String
  lastName : String
  managerId : Option Id := none
  roleId : Option Id := none
  deriving DecidableEq

structure UpdateUserDto (Id : Type) where
  email : Given String := .absent
  firstName : Given String := .absent
  lastName : Given String := .absent
  managerId : Given Id := .absent
  roleId : Given Id := .absent
  isActive : Given Bool := .absent
  deriving DecidableEq

def createUser (hashPassword : String → String) (tenantId : Id) (dto : CreateUserDto Id)
    (actorId : Id) :
    Handler Id UserEntity := do
  let db ← visible
  let existing := db.users.any fun user => user.tenantId == value tenantId && user.email == dto.email
  refuseIf existing (.badRequest "User with email already exists in tenant")
  let id ← newId
  let saved : UserEntity := {
    id, tenantId := value tenantId, email := dto.email, passwordHash := hashPassword dto.password,
    firstName := dto.firstName, lastName := dto.lastName, managerId := dto.managerId.map value }
  persist (.insertUser saved)
  let defaultRole ← findOneByName memberRole (none : Option Id)
  match dto.roleId.or (defaultRole.map fun role => canonical role.id) with
  | none => pure ()
  | some roleId =>
      let _ ← assignToUser (canonical saved.id) tenantId ⟨roleId, none⟩ actorId
  emit (userAudit .USER_CREATED tenantId actorId (canonical saved.id))
  pure saved

def findUser (id : Id) : Handler Id UserEntity := do
  let db ← visible
  orThrow (db.users.findOne fun user => user.id == value id) (.notFound "Entity not found")

def assignUser (user : UserEntity) (dto : UpdateUserDto Id) : UserEntity :=
  { user with
    email := dto.email.over user.email
    firstName := dto.firstName.over user.firstName
    lastName := dto.lastName.over user.lastName
    managerId := dto.managerId.overNullable value user.managerId
    isActive := dto.isActive.over user.isActive }

/-- The columns in which the entity differs from the stored row. -/
def changedColumns (stored user : UserEntity) : UserChange where
  email := if stored.email = user.email then none else some user.email
  firstName := if stored.firstName = user.firstName then none else some user.firstName
  lastName := if stored.lastName = user.lastName then none else some user.lastName
  managerId := if stored.managerId = user.managerId then none else some user.managerId
  isActive := if stored.isActive = user.isActive then none else some user.isActive

/-- `repository.save` of a loaded user: the stored row is read again and updated where
it differs. -/
def saveUser (user : UserEntity) : Handler Id Unit := do
  let db ← visible
  match db.users.findOne fun row => row.id == user.id with
  | some stored => persist (.updateUser user.id (changedColumns stored user))
  | none => persist (.insertUser user)

def UpdateUserDto.nullsColumn (dto : UpdateUserDto Id) : Bool :=
  dto.email.isNull || dto.firstName.isNull || dto.lastName.isNull || dto.isActive.isNull

def updateUser [DecidableEq Id] (id : Id) (dto : UpdateUserDto Id) (tenantId actorId : Id) :
    Handler Id UserEntity := do
  let user ← findUser id
  refuseIf (canonical user.tenantId != tenantId) (.badRequest "Invalid tenant")
  refuseIf dto.nullsColumn .queryFailed
  let updated := assignUser user dto
  saveUser updated
  emit (userAudit .USER_UPDATED tenantId actorId id)
  pure updated

def setActivation [DecidableEq Id] (id tenantId : Id) (isActive : Bool) (actorId : Id) :
    Handler Id Unit := do
  let user ← findUser id
  refuseIf (canonical user.tenantId != tenantId) (.badRequest "Invalid tenant")
  saveUser { user with isActive }
  if !isActive then
    -- the token repository is not the one of the transaction
    match ← attemptDetached (.deleteRefreshTokensOf (value id)) with
    | none => pure ()
    | some _ => .throw .queryFailed
  let eventType := if isActive then AuditEventType.USER_ACTIVATED else .USER_DEACTIVATED
  emit (.userChanged { tenantId := some tenantId, userId := some id, eventType })
  emit (userAudit eventType tenantId actorId id)

end UserService

section TenantService

def tenantAdminRole : String := "Tenant Admin"

structure CreateTenantDto where
  name : String
  slug : String
  settings : Option String := none
  adminEmail : String
  adminPassword : String
  adminFirstName : String
  adminLastName : String
  deriving DecidableEq

def tenantAudit (eventType : AuditEventType) (actorId tenantId : Id) : Event Id :=
  .audit { eventType, tenantId, actorId, resource := .own "tenant" tenantId }

def foundingAudit (actorId tenantId : Id) (adminEmail : String) : Event Id :=
  .audit {
    eventType := .TENANT_CREATED, tenantId, actorId, resource := .own "tenant" tenantId,
    payloadAdminEmail := some adminEmail }

def createTenantWithAdmin (hashPassword : String → String) (dto : CreateTenantDto) (actorId : Id) :
    Handler Id TenantEntity := do
  let db ← visible
  let existingTenant := db.tenants.any fun tenant => tenant.name == dto.name || tenant.slug == dto.slug
  refuseIf existingTenant (.badRequest "Tenant with same name or slug already exists")
  let tenantId ← newId
  let savedTenant : TenantEntity :=
    { id := tenantId, name := dto.name, slug := dto.slug, settings := some (dto.settings.getD "{}") }
  persist (.insertTenant savedTenant)
  let userId ← newId
  let savedUser : UserEntity := {
    id := userId, tenantId, email := dto.adminEmail, passwordHash := hashPassword dto.adminPassword,
    firstName := dto.adminFirstName, lastName := dto.adminLastName }
  persist (.insertUser savedUser)
  let db ← visible
  match db.roles.findOne fun role => role.name == tenantAdminRole && role.isSystem with
  | none => pure ()
  | some adminRole =>
      let assignmentId ← newId
      persist (.insertUserRole ⟨assignmentId, tenantId, userId, adminRole.id, none⟩)
  emit (foundingAudit actorId (canonical tenantId) savedUser.email)
  pure savedTenant

structure UpdateTenantDto where
  name : Given String := .absent
  slug : Given String := .absent
  settings : Given String := .absent
  deriving DecidableEq

def findTenant (id : Id) : Handler Id TenantEntity := do
  let db ← visible
  orThrow (db.tenants.findOne fun tenant => tenant.id == value id) (.notFound "Entity not found")

def mergeTenant (tenant : TenantEntity) (dto : UpdateTenantDto) : TenantEntity :=
  { tenant with
    name := dto.name.over tenant.name
    slug := dto.slug.over tenant.slug
    settings := dto.settings.overNullable (fun settings => settings) tenant.settings }

def changedTenantColumns (stored tenant : TenantEntity) : TenantChange where
  name := if stored.name = tenant.name then none else some tenant.name
  slug := if stored.slug = tenant.slug then none else some tenant.slug
  settings := if stored.settings = tenant.settings then none else some tenant.settings
  isActive := if stored.isActive = tenant.isActive then none else some tenant.isActive

def saveTenant (tenant : TenantEntity) : Handler Id Unit := do
  let db ← visible
  match db.tenants.findOne fun row => row.id == tenant.id with
  | some stored => persist (.updateTenant tenant.id (changedTenantColumns stored tenant))
  | none => persist (.insertTenant tenant)

def UpdateTenantDto.nullsColumn (dto : UpdateTenantDto) : Bool := dto.name.isNull || dto.slug.isNull

def updateTenant (id : Id) (dto : UpdateTenantDto) (actorId : Id) : Handler Id TenantEntity := do
  let tenant ← findTenant id
  refuseIf dto.nullsColumn .queryFailed
  let merged := mergeTenant tenant dto
  saveTenant merged
  emit (tenantAudit .TENANT_UPDATED actorId (canonical merged.id))
  pure merged

def deactivateTenant (id actorId : Id) : Handler Id Unit := do
  let tenant ← findTenant id
  saveTenant { tenant with isActive := false }
  emit (tenantAudit .TENANT_DEACTIVATED actorId id)

end TenantService

section Seeds

/-- `p.replace('.*', '')`: the first occurrence goes. -/
def dropStar : List Char → List Char
  | '.' :: '*' :: rest => rest
  | letter :: rest => letter :: dropStar rest
  | [] => []

def seedPermission (code : String) : Handler Id Unit := do
  let db ← visible
  match db.permissions.findOne fun permission => permission.code == code with
  | some _ => pure ()
  | none =>
      let id ← newId
      let service := if code = "*.*" then "*" else (PermissionMatcher.splitDots code).headD ""
      persist (.insertPermission ⟨id, code, service, none, some ("Allow access for " ++ code)⟩)

def seedPermissions (permissionsToSeed : List String) : Handler Id Unit :=
  forEach permissionsToSeed seedPermission

structure RoleDefinition where
  name : String
  description : String
  permissions : List String
  deriving DecidableEq

def permissionsToAssign (allPerms : List PermissionEntity) (p : String) : List PermissionEntity :=
  if ".*".toList.isSuffixOf p.toList then
    allPerms.filter fun ap => (dropStar p.toList).isPrefixOf ap.code.toList
  else (allPerms.find? fun ap => ap.code == p).toList

def seedMapping (roleId : Uuid) (permission : PermissionEntity) : Handler Id Unit := do
  let db ← visible
  match db.rolePermissions.findOne fun rp =>
      rp.roleId == roleId && rp.permissionId == permission.id with
  | some _ => pure ()
  | none =>
      let id ← newId
      persist (.insertRolePermission ⟨id, roleId, permission.id⟩)

def findOrSeedRole (clock : Uuid → Time) (roleDef : RoleDefinition) : Handler Id RoleEntity := do
  let db ← visible
  match db.roles.findOne fun role =>
      role.name == roleDef.name && role.isSystem && role.tenantId == none with
  | some existingRole => pure existingRole
  | none =>
      let id ← newId
      let role : RoleEntity := {
        id, tenantId := none, name := roleDef.name, description :=
          some roleDef.description, isSystem := true,
        createdAt := clock id, updatedAt := clock id }
      persist (.insertRole role)
      pure role

def seedRole (clock : Uuid → Time) (allPerms : List PermissionEntity) (roleDef : RoleDefinition) :
    Handler Id Unit := do
  let existingRole ← findOrSeedRole clock roleDef
  forEach (roleDef.permissions.flatMap (permissionsToAssign allPerms)) (seedMapping existingRole.id)

def seedRoles (clock : Uuid → Time) (rolesData : List RoleDefinition) : Handler Id Unit := do
  let db ← visible
  forEach rolesData (seedRole clock (db.permissions.find fun _ => true))

end Seeds
end GenericIam.AccountServices
