import GenericIam.Table

/-! The tables of the service with their declared constraints, and the statements
that change them. -/

namespace GenericIam.Database
open Table

/-- A `uuid` column compares as 128 bits, whatever the letter case it was written in. -/
abbrev Uuid := BitVec 128

abbrev Time := Nat

structure TenantEntity where
  id : Uuid
  name : String
  slug : String
  isActive : Bool := true
  settings : Option String := none
  deriving DecidableEq

structure UserEntity where
  id : Uuid
  tenantId : Uuid
  email : String
  passwordHash : String
  firstName : String
  lastName : String
  isActive : Bool := true
  managerId : Option Uuid := none
  deriving DecidableEq

structure SuperAdminEntity where
  id : Uuid
  email : String
  passwordHash : String
  isActive : Bool := true
  deriving DecidableEq

structure PermissionEntity where
  id : Uuid
  code : String
  service : String
  parentId : Option Uuid := none
  description : Option String := none
  deriving DecidableEq

structure RoleEntity where
  id : Uuid
  tenantId : Option Uuid
  name : String
  description : Option String := none
  isSystem : Bool := false
  createdAt : Time := 0
  updatedAt : Time := 0
  deriving DecidableEq

structure RolePermissionEntity where
  id : Uuid
  roleId : Uuid
  permissionId : Uuid
  deriving DecidableEq

structure UserRoleEntity where
  id : Uuid
  tenantId : Uuid
  userId : Uuid
  roleId : Uuid
  expiresAt : Option Time := none
  deriving DecidableEq

inductive OverrideType where
  | grant
  | deny
  deriving DecidableEq

structure UserPermissionOverrideEntity where
  id : Uuid
  tenantId : Uuid
  userId : Uuid
  permissionId : Uuid
  overrideType : OverrideType
  reason : String := ""
  deriving DecidableEq

structure ResourceAclEntity where
  id : Uuid
  tenantId : Uuid
  userId : Uuid
  resourceType : String
  resourceId : String
  permission : String
  deriving DecidableEq

structure RefreshTokenEntity where
  id : Uuid
  userId : Uuid
  tokenHash : String
  expiresAt : Time
  deriving DecidableEq

structure AuditLogEntity where
  id : Uuid
  createdAt : Time
  eventType : String
  tenantId : Option Uuid
  actorId : Option Uuid
  resourceType : Option String
  resourceId : Option String
  correlationId : Option String
  deriving DecidableEq

instance : Keyed TenantEntity Uuid := ⟨TenantEntity.id⟩
instance : Keyed UserEntity Uuid := ⟨UserEntity.id⟩
instance : Keyed SuperAdminEntity Uuid := ⟨SuperAdminEntity.id⟩
instance : Keyed PermissionEntity Uuid := ⟨PermissionEntity.id⟩
instance : Keyed RoleEntity Uuid := ⟨RoleEntity.id⟩
instance : Keyed RolePermissionEntity Uuid := ⟨RolePermissionEntity.id⟩
instance : Keyed UserRoleEntity Uuid := ⟨UserRoleEntity.id⟩
instance : Keyed UserPermissionOverrideEntity Uuid := ⟨UserPermissionOverrideEntity.id⟩
instance : Keyed ResourceAclEntity Uuid := ⟨ResourceAclEntity.id⟩
instance : Keyed RefreshTokenEntity Uuid := ⟨RefreshTokenEntity.id⟩
instance : Keyed AuditLogEntity Uuid := ⟨AuditLogEntity.id⟩

@[ext] structure Db where
  tenants : Table TenantEntity := .empty
  users : Table UserEntity := .empty
  superAdmins : Table SuperAdminEntity := .empty
  permissions : Table PermissionEntity := .empty
  roles : Table RoleEntity := .empty
  rolePermissions : Table RolePermissionEntity := .empty
  userRoles : Table UserRoleEntity := .empty
  userPermissionOverrides : Table UserPermissionOverrideEntity := .empty
  resourceAcls : Table ResourceAclEntity := .empty
  refreshTokens : Table RefreshTokenEntity := .empty
  auditLogs : Table AuditLogEntity := .empty

/-- The database role a statement runs under: `iam_app` and `iam_superadmin` are
not subject to row level security, `iam_tenant_user` sees one tenant. -/
inductive Session where
  | bypassRls
  | tenantUser (tenantId : Uuid)
  deriving DecidableEq

def Session.admits : Session → Uuid → Bool
  | .bypassRls, _ => true
  | .tenantUser current, tenantId => tenantId == current

def Session.admitsRole : Session → RoleEntity → Bool
  | .bypassRls, _ => true
  | .tenantUser current, role => role.isSystem || role.tenantId == some current

def Session.admitsRolePermission (session : Session) (db : Db)
    (mapping : RolePermissionEntity) : Bool :=
  match session with
  | .bypassRls => true
  | .tenantUser _ => db.roles.any fun role => role.id == mapping.roleId && session.admitsRole role

def Session.admitsAuditLog : Session → AuditLogEntity → Bool
  | .bypassRls, _ => true
  | .tenantUser current, row => row.tenantId == some current || row.tenantId == none

/-- The rows that the policies show to a session. `tenants`, `permissions`,
`super_admins` and `refresh_tokens` carry no policy. -/
def Db.seenBy (db : Db) (session : Session) : Db :=
  { db with
    users := db.users.select fun row => session.admits row.tenantId
    roles := db.roles.select session.admitsRole
    rolePermissions := db.rolePermissions.select (session.admitsRolePermission db)
    userRoles := db.userRoles.select fun row => session.admits row.tenantId
    userPermissionOverrides := db.userPermissionOverrides.select fun row => session.admits row.tenantId
    resourceAcls := db.resourceAcls.select fun row => session.admits row.tenantId
    auditLogs := db.auditLogs.select session.admitsAuditLog }

section Seen
variable {db : Db} {tenantId : Uuid}

@[simp] theorem mem_seen_users {row : UserEntity} :
    row ∈ (db.seenBy (.tenantUser tenantId)).users ↔ row ∈ db.users ∧ row.tenantId = tenantId := by
  simp [Db.seenBy, Session.admits]

@[simp] theorem mem_seen_roles {row : RoleEntity} :
    row ∈ (db.seenBy (.tenantUser tenantId)).roles ↔
      row ∈ db.roles ∧ (row.isSystem = true ∨ row.tenantId = some tenantId) := by
  simp [Db.seenBy, Session.admitsRole]

@[simp] theorem mem_seen_rolePermissions {row : RolePermissionEntity} :
    row ∈ (db.seenBy (.tenantUser tenantId)).rolePermissions ↔ row ∈ db.rolePermissions ∧
      ∃ role ∈ db.roles, role.id = row.roleId ∧
        (role.isSystem = true ∨ role.tenantId = some tenantId) := by
  simp [Db.seenBy, Session.admitsRolePermission, Session.admitsRole, any_iff]

@[simp] theorem mem_seen_userRoles {row : UserRoleEntity} :
    row ∈ (db.seenBy (.tenantUser tenantId)).userRoles ↔ row ∈ db.userRoles ∧
      row.tenantId = tenantId := by
  simp [Db.seenBy, Session.admits]

@[simp] theorem mem_seen_overrides {row : UserPermissionOverrideEntity} :
    row ∈ (db.seenBy (.tenantUser tenantId)).userPermissionOverrides ↔
      row ∈ db.userPermissionOverrides ∧ row.tenantId = tenantId := by
  simp [Db.seenBy, Session.admits]

@[simp] theorem mem_seen_resourceAcls {row : ResourceAclEntity} :
    row ∈ (db.seenBy (.tenantUser tenantId)).resourceAcls ↔
      row ∈ db.resourceAcls ∧ row.tenantId = tenantId := by
  simp [Db.seenBy, Session.admits]

end Seen

structure UserChange where
  email : Option String := none
  firstName : Option String := none
  lastName : Option String := none
  managerId : Option (Option Uuid) := none
  isActive : Option Bool := none
  deriving DecidableEq

def UserChange.apply (change : UserChange) (user : UserEntity) : UserEntity :=
  { user with
    email := change.email.getD user.email
    firstName := change.firstName.getD user.firstName
    lastName := change.lastName.getD user.lastName
    managerId := change.managerId.getD user.managerId
    isActive := change.isActive.getD user.isActive }

theorem UserChange.key_apply (change : UserChange) (user : UserEntity) :
    key (change.apply user) = key user := rfl

structure TenantChange where
  name : Option String := none
  slug : Option String := none
  settings : Option (Option String) := none
  isActive : Option Bool := none
  deriving DecidableEq

def TenantChange.apply (change : TenantChange) (tenant : TenantEntity) : TenantEntity :=
  { tenant with
    name := change.name.getD tenant.name
    slug := change.slug.getD tenant.slug
    settings := change.settings.getD tenant.settings
    isActive := change.isActive.getD tenant.isActive }

theorem TenantChange.key_apply (change : TenantChange) (tenant : TenantEntity) :
    key (change.apply tenant) = key tenant := rfl

/-- One statement sent to the database. An update or a removal of an entity finds the
row by its key. -/
inductive Write where
  | insertTenant (row : TenantEntity)
  | updateTenant (id : Uuid) (change : TenantChange)
  | insertUser (row : UserEntity)
  | updateUser (id : Uuid) (change : UserChange)
  | insertPermission (row : PermissionEntity)
  | insertRole (row : RoleEntity)
  | updateRole (row : RoleEntity)
  | deleteRole (row : RoleEntity)
  | insertRolePermission (row : RolePermissionEntity)
  | deleteRolePermission (row : RolePermissionEntity)
  | insertUserRole (row : UserRoleEntity)
  | updateUserRole (row : UserRoleEntity)
  | deleteUserRole (row : UserRoleEntity)
  | deleteExpiredUserRoles (now : Time)
  | insertOverride (row : UserPermissionOverrideEntity)
  | updateOverride (row : UserPermissionOverrideEntity)
  | deleteOverride (row : UserPermissionOverrideEntity)
  | insertAcl (row : ResourceAclEntity)
  | deleteAcl (row : ResourceAclEntity)
  | insertRefreshToken (row : RefreshTokenEntity)
  | deleteRefreshToken (id : Uuid)
  | deleteRefreshTokensOf (userId : Uuid)
  deriving DecidableEq

def Write.insertedId : Write → Option Uuid
  | .insertTenant row => some row.id
  | .insertUser row => some row.id
  | .insertPermission row => some row.id
  | .insertRole row => some row.id
  | .insertRolePermission row => some row.id
  | .insertUserRole row => some row.id
  | .insertOverride row => some row.id
  | .insertAcl row => some row.id
  | .insertRefreshToken row => some row.id
  | _ => none

def Db.hasTenant (db : Db) (id : Uuid) : Bool := db.tenants.any fun row => row.id == id
def Db.hasUser (db : Db) (id : Uuid) : Bool := db.users.any fun row => row.id == id
def Db.hasRole (db : Db) (id : Uuid) : Bool := db.roles.any fun row => row.id == id
def Db.hasPermissionRow (db : Db) (id : Uuid) : Bool := db.permissions.any fun row => row.id == id

def Db.insertTenant (db : Db) (row : TenantEntity) : Option Db :=
  if db.tenants.any fun other => other.name == row.name || other.slug == row.slug then none
  else (db.tenants.insert row).map fun tenants => { db with tenants }

def Db.takenTenant (db : Db) (id : Uuid) (change : TenantChange) : Bool :=
  db.tenants.any fun other =>
    other.id != id && (some other.name == change.name || some other.slug == change.slug)

def Db.updateTenant (db : Db) (id : Uuid) (change : TenantChange) : Option Db :=
  if db.takenTenant id change && db.hasTenant id then none
  else
    some { db with tenants := db.tenants.modify (fun row => row.id == id) change.apply change.key_apply }

def Db.insertUser (db : Db) (row : UserEntity) : Option Db :=
  let referenced := db.hasTenant row.tenantId && row.managerId.all db.hasUser
  let clash := db.users.any fun other => other.tenantId == row.tenantId && other.email == row.email
  if !referenced || clash then none
  else (db.users.insert row).map fun users => { db with users }

def Db.updateUser (session : Session) (db : Db) (id : Uuid) (change : UserChange) : Option Db :=
  let target := fun row : UserEntity => row.id == id && session.admits row.tenantId
  let referenced := (change.managerId.getD none).all db.hasUser
  let clash := db.users.any fun row => target row && db.users.any fun other =>
    other.id != id && other.tenantId == row.tenantId && some other.email == change.email
  if !referenced || clash then none
  else some { db with users := db.users.modify target change.apply change.key_apply }

def Db.insertPermission (db : Db) (row : PermissionEntity) : Option Db :=
  let clash := db.permissions.any fun other => other.code == row.code
  if clash || !row.parentId.all db.hasPermissionRow then none
  else (db.permissions.insert row).map fun permissions => { db with permissions }

def Db.insertRole (session : Session) (db : Db) (row : RoleEntity) : Option Db :=
  if session.admitsRole row then (db.roles.insert row).map fun roles => { db with roles } else none

/-- All columns are written to the row with the given key; the policy is checked
against the old row, which must be visible, and against the new one. -/
def Db.updateRole (session : Session) (db : Db) (row : RoleEntity) : Option Db :=
  if session.admitsRole row then
    some { db with
      roles := db.roles.modify (fun other => other.id == row.id && session.admitsRole other)
        (fun other => { row with id := other.id }) fun _ => rfl }
  else none

/-- Deleting a role takes its mappings and its assignments with it; the cascade
is not subject to row level security. -/
def Db.deleteRole (session : Session) (db : Db) (id : Uuid) : Db :=
  if db.roles.any fun row => row.id == id && session.admitsRole row then
    { db with
      roles := db.roles.select fun row => row.id != id
      rolePermissions := db.rolePermissions.select fun row => row.roleId != id
      userRoles := db.userRoles.select fun row => row.roleId != id }
  else db

def Db.insertRolePermission (session : Session) (db : Db) (row : RolePermissionEntity) : Option Db :=
  if db.hasRole row.roleId && db.hasPermissionRow row.permissionId &&
    session.admitsRolePermission db row then
    (db.rolePermissions.insert row).map fun rolePermissions => { db with rolePermissions }
  else none

def Db.deleteRolePermission (session : Session) (db : Db) (id : Uuid) : Db :=
  { db with rolePermissions := db.rolePermissions.select fun row =>
      !(row.id == id && session.admitsRolePermission db row) }

def Db.insertUserRole (session : Session) (db : Db) (row : UserRoleEntity) : Option Db :=
  if db.hasTenant row.tenantId && db.hasUser row.userId && db.hasRole row.roleId &&
      session.admits row.tenantId then
    (db.userRoles.insert row).map fun userRoles => { db with userRoles }
  else none

def Db.updateUserRole (session : Session) (db : Db) (id : Uuid) (expiresAt : Option Time) : Db :=
  { db with
    userRoles := db.userRoles.modify (fun row => row.id == id && session.admits row.tenantId)
      (fun row => { row with expiresAt }) fun _ => rfl }

def Db.deleteUserRole (session : Session) (db : Db) (id : Uuid) : Db :=
  { db with userRoles := db.userRoles.select fun row => !(row.id == id && session.admits row.tenantId) }

def UserRoleEntity.expiredBefore (row : UserRoleEntity) (now : Time) : Bool :=
  row.expiresAt.any fun expiresAt => decide (expiresAt < now)

def Db.deleteExpiredUserRoles (session : Session) (db : Db) (now : Time) : Db :=
  { db with userRoles := db.userRoles.select fun row =>
      !(row.expiredBefore now && session.admits row.tenantId) }

def Db.insertOverride (session : Session) (db : Db) (row : UserPermissionOverrideEntity) : Option Db :=
  let clash := db.userPermissionOverrides.any fun other =>
    other.tenantId == row.tenantId && other.userId == row.userId &&
      other.permissionId == row.permissionId
  if db.hasTenant row.tenantId && db.hasUser row.userId && db.hasPermissionRow row.permissionId &&
      session.admits row.tenantId && !clash then
    (db.userPermissionOverrides.insert row).map fun userPermissionOverrides =>
      { db with userPermissionOverrides }
  else none

def Db.updateOverride (session : Session) (db : Db) (id : Uuid) (overrideType : OverrideType)
    (reason : String) : Db :=
  { db with
    userPermissionOverrides := db.userPermissionOverrides.modify
      (fun row => row.id == id && session.admits row.tenantId)
      (fun row => { row with overrideType, reason }) fun _ => rfl }

def Db.deleteOverride (session : Session) (db : Db) (id : Uuid) : Db :=
  { db with userPermissionOverrides := db.userPermissionOverrides.select fun row =>
      !(row.id == id && session.admits row.tenantId) }

def Db.insertAcl (session : Session) (db : Db) (row : ResourceAclEntity) : Option Db :=
  if db.hasTenant row.tenantId && db.hasUser row.userId && session.admits row.tenantId then
    (db.resourceAcls.insert row).map fun resourceAcls => { db with resourceAcls }
  else none

def Db.deleteAcl (session : Session) (db : Db) (id : Uuid) : Db :=
  { db with resourceAcls := db.resourceAcls.select fun row =>
    !(row.id == id && session.admits row.tenantId) }

def Db.insertRefreshToken (db : Db) (row : RefreshTokenEntity) : Option Db :=
  if db.hasUser row.userId then
    (db.refreshTokens.insert row).map fun refreshTokens => { db with refreshTokens }
  else none

def Db.deleteRefreshToken (db : Db) (id : Uuid) : Db :=
  { db with refreshTokens := db.refreshTokens.select fun row => row.id != id }

def Db.deleteRefreshTokensOf (db : Db) (userId : Uuid) : Db :=
  { db with refreshTokens := db.refreshTokens.select fun row => row.userId != userId }

/-- Runs one statement; `none` is a violated constraint or policy. -/
def Write.apply (session : Session) (db : Db) : Write → Option Db
  | .insertTenant row => db.insertTenant row
  | .updateTenant id change => db.updateTenant id change
  | .insertUser row => if session.admits row.tenantId then db.insertUser row else none
  | .updateUser id change => db.updateUser session id change
  | .insertPermission row => db.insertPermission row
  | .insertRole row => db.insertRole session row
  | .updateRole row => db.updateRole session row
  | .deleteRole row => some (db.deleteRole session row.id)
  | .insertRolePermission row => db.insertRolePermission session row
  | .deleteRolePermission row => some (db.deleteRolePermission session row.id)
  | .insertUserRole row => db.insertUserRole session row
  | .updateUserRole row => some (db.updateUserRole session row.id row.expiresAt)
  | .deleteUserRole row => some (db.deleteUserRole session row.id)
  | .deleteExpiredUserRoles now => some (db.deleteExpiredUserRoles session now)
  | .insertOverride row => db.insertOverride session row
  | .updateOverride row => some (db.updateOverride session row.id row.overrideType row.reason)
  | .deleteOverride row => some (db.deleteOverride session row.id)
  | .insertAcl row => db.insertAcl session row
  | .deleteAcl row => some (db.deleteAcl session row.id)
  | .insertRefreshToken row => db.insertRefreshToken row
  | .deleteRefreshToken id => some (db.deleteRefreshToken id)
  | .deleteRefreshTokensOf userId => some (db.deleteRefreshTokensOf userId)

def Write.missingReference (db : Db) : Write → Option String
  | .insertUser row =>
      if !db.hasTenant row.tenantId then some "tenant_id"
      else if !row.managerId.all db.hasUser then some "manager_id" else none
  | .insertRolePermission row =>
      if !db.hasRole row.roleId then some "role_id"
      else if !db.hasPermissionRow row.permissionId then some "permission_id" else none
  | .insertUserRole row =>
      if !db.hasTenant row.tenantId then some "tenant_id"
      else if !db.hasUser row.userId then some "user_id"
      else if !db.hasRole row.roleId then some "role_id" else none
  | .insertOverride row =>
      if !db.hasTenant row.tenantId then some "tenant_id"
      else if !db.hasUser row.userId then some "user_id"
      else if !db.hasPermissionRow row.permissionId then some "permission_id" else none
  | .insertAcl row =>
      if !db.hasTenant row.tenantId then some "tenant_id"
      else if !db.hasUser row.userId then some "user_id" else none
  | .insertRefreshToken row => if !db.hasUser row.userId then some "user_id" else none
  | _ => none

/-! What a statement that went through has done. -/

section Applied
variable {session : Session} {db db' : Db}

theorem insertTenant_some {row : TenantEntity} (applied : db.insertTenant row = some db') :
    ∃ tenants, db.tenants.insert row = some tenants ∧ db' = { db with tenants } := by
  unfold Db.insertTenant at applied
  split at applied
  · cases applied
  · obtain ⟨tenants, inserted, rfl⟩ := Option.map_eq_some_iff.mp applied
    exact ⟨tenants, inserted, rfl⟩

theorem updateTenant_some {id : Uuid} {change : TenantChange}
    (applied : db.updateTenant id change = some db') :
    db' = { db with tenants :=
      db.tenants.modify (fun row => row.id == id) change.apply change.key_apply } := by
  simp only [Db.updateTenant] at applied
  split at applied
  · cases applied
  · exact (Option.some.inj applied).symm

theorem insertUser_some {row : UserEntity} (applied : db.insertUser row = some db') :
    ∃ users, db.users.insert row = some users ∧ db' = { db with users } := by
  simp only [Db.insertUser] at applied
  split at applied
  · cases applied
  · obtain ⟨users, inserted, rfl⟩ := Option.map_eq_some_iff.mp applied
    exact ⟨users, inserted, rfl⟩

theorem updateUser_some {id : Uuid} {change : UserChange}
    (applied : db.updateUser session id change = some db') :
    db' = { db with
      users := db.users.modify (fun row => row.id == id &&
        session.admits row.tenantId) change.apply change.key_apply } := by
  simp only [Db.updateUser] at applied
  split at applied
  · cases applied
  · exact (Option.some.inj applied).symm

theorem insertPermission_some {row : PermissionEntity} (applied : db.insertPermission row = some db') :
    ∃ permissions, db.permissions.insert row = some permissions ∧ db' = { db with permissions } := by
  simp only [Db.insertPermission] at applied
  split at applied
  · cases applied
  · obtain ⟨permissions, inserted, rfl⟩ := Option.map_eq_some_iff.mp applied
    exact ⟨permissions, inserted, rfl⟩

theorem insertRole_some {row : RoleEntity} (applied : db.insertRole session row = some db') :
    ∃ roles, db.roles.insert row = some roles ∧ db' = { db with roles } := by
  simp only [Db.insertRole] at applied
  split at applied
  · obtain ⟨roles, inserted, rfl⟩ := Option.map_eq_some_iff.mp applied
    exact ⟨roles, inserted, rfl⟩
  · cases applied

theorem updateRole_some {row : RoleEntity} (applied : db.updateRole session row = some db') :
    db' = { db with
      roles := db.roles.modify (fun other => other.id == row.id && session.admitsRole other)
        (fun other => { row with id := other.id }) fun _ => rfl } := by
  simp only [Db.updateRole] at applied
  split at applied
  · exact (Option.some.inj applied).symm
  · cases applied

theorem insertRolePermission_some {row : RolePermissionEntity}
    (applied : db.insertRolePermission session row = some db') :
    ∃ rolePermissions, db.rolePermissions.insert row = some rolePermissions ∧
      db' = { db with rolePermissions } := by
  simp only [Db.insertRolePermission] at applied
  split at applied
  · obtain ⟨rolePermissions, inserted, rfl⟩ := Option.map_eq_some_iff.mp applied
    exact ⟨rolePermissions, inserted, rfl⟩
  · cases applied

theorem insertUserRole_some {row : UserRoleEntity}
    (applied : db.insertUserRole session row = some db') :
    ∃ userRoles, db.userRoles.insert row = some userRoles ∧ db' = { db with userRoles } := by
  simp only [Db.insertUserRole] at applied
  split at applied
  · obtain ⟨userRoles, inserted, rfl⟩ := Option.map_eq_some_iff.mp applied
    exact ⟨userRoles, inserted, rfl⟩
  · cases applied

theorem insertOverride_some {row : UserPermissionOverrideEntity}
    (applied : db.insertOverride session row = some db') :
    ∃ userPermissionOverrides, db.userPermissionOverrides.insert row = some userPermissionOverrides ∧
      db' = { db with userPermissionOverrides } := by
  simp only [Db.insertOverride] at applied
  split at applied
  · obtain ⟨overrides, inserted, rfl⟩ := Option.map_eq_some_iff.mp applied
    exact ⟨overrides, inserted, rfl⟩
  · cases applied

theorem insertAcl_some {row : ResourceAclEntity} (applied : db.insertAcl session row = some db') :
    ∃ resourceAcls, db.resourceAcls.insert row = some resourceAcls ∧
      db' = { db with resourceAcls } := by
  simp only [Db.insertAcl] at applied
  split at applied
  · obtain ⟨resourceAcls, inserted, rfl⟩ := Option.map_eq_some_iff.mp applied
    exact ⟨resourceAcls, inserted, rfl⟩
  · cases applied

theorem insertRefreshToken_some {row : RefreshTokenEntity}
    (applied : db.insertRefreshToken row = some db') :
    ∃ refreshTokens, db.refreshTokens.insert row = some refreshTokens ∧
      db' = { db with refreshTokens } := by
  simp only [Db.insertRefreshToken] at applied
  split at applied
  · obtain ⟨refreshTokens, inserted, rfl⟩ := Option.map_eq_some_iff.mp applied
    exact ⟨refreshTokens, inserted, rfl⟩
  · cases applied

theorem deleteRole_eq (session : Session) (db : Db) (id : Uuid) :
    db.deleteRole session id = db ∨ db.deleteRole session id = { db with
      roles := db.roles.select fun row => row.id != id
      rolePermissions := db.rolePermissions.select fun row => row.roleId != id
      userRoles := db.userRoles.select fun row => row.roleId != id } := by
  unfold Db.deleteRole
  split
  · exact .inr rfl
  · exact .inl rfl

end Applied

/-- The statements of a transaction in their order; one failure undoes them all. -/
def applyAll (session : Session) (db : Db) : List Write → Option Db
  | [] => some db
  | write :: writes => (write.apply session db).bind fun next => applyAll session next writes

end GenericIam.Database
