import GenericIam.Database

/-! What a statement leaves alone, and where the rows come from that are in a table
after it. -/

namespace GenericIam.Database
open Table

inductive Relation where
  | tenants | users | permissions | roles | rolePermissions | userRoles | userPermissionOverrides
  | resourceAcls | refreshTokens
  deriving DecidableEq

def Write.changes : Write → List Relation
  | .insertTenant _ | .updateTenant _ _ => [.tenants]
  | .insertUser _ | .updateUser _ _ => [.users]
  | .insertPermission _ => [.permissions]
  | .insertRole _ | .updateRole _ => [.roles]
  | .deleteRole _ => [.roles, .rolePermissions, .userRoles]
  | .insertRolePermission _ | .deleteRolePermission _ => [.rolePermissions]
  | .insertUserRole _ | .updateUserRole _ | .deleteUserRole _
  | .deleteExpiredUserRoles _ => [.userRoles]
  | .insertOverride _ | .updateOverride _ | .deleteOverride _ => [.userPermissionOverrides]
  | .insertAcl _ | .deleteAcl _ => [.resourceAcls]
  | .insertRefreshToken _ | .deleteRefreshToken _ | .deleteRefreshTokensOf _ => [.refreshTokens]

structure SameBut (changed : List Relation) (db db' : Db) : Prop where
  tenants : .tenants ∉ changed → db'.tenants = db.tenants
  users : .users ∉ changed → db'.users = db.users
  permissions : .permissions ∉ changed → db'.permissions = db.permissions
  roles : .roles ∉ changed → db'.roles = db.roles
  rolePermissions : .rolePermissions ∉ changed → db'.rolePermissions = db.rolePermissions
  userRoles : .userRoles ∉ changed → db'.userRoles = db.userRoles
  userPermissionOverrides : .userPermissionOverrides ∉ changed →
    db'.userPermissionOverrides = db.userPermissionOverrides
  resourceAcls : .resourceAcls ∉ changed → db'.resourceAcls = db.resourceAcls
  refreshTokens : .refreshTokens ∉ changed → db'.refreshTokens = db.refreshTokens
  superAdmins : db'.superAdmins = db.superAdmins
  auditLogs : db'.auditLogs = db.auditLogs

theorem sameBut_apply {session : Session} {db db' : Db} {write : Write}
    (applied : write.apply session db = some db') :
    SameBut write.changes db db' := by
  cases write with
  | insertTenant row =>
    obtain ⟨_, _, rfl⟩ := insertTenant_some applied
    constructor <;> simp [Write.changes]
  | updateTenant id change =>
    cases updateTenant_some applied
    constructor <;> simp [Write.changes]
  | insertUser row =>
    simp only [Write.apply] at applied
    split at applied
    · obtain ⟨_, _, rfl⟩ := insertUser_some applied
      constructor <;> simp [Write.changes]
    · cases applied
  | updateUser id change =>
    cases updateUser_some applied
    constructor <;> simp [Write.changes]
  | insertPermission row =>
    obtain ⟨_, _, rfl⟩ := insertPermission_some applied
    constructor <;> simp [Write.changes]
  | insertRole row =>
    obtain ⟨_, _, rfl⟩ := insertRole_some applied
    constructor <;> simp [Write.changes]
  | updateRole row =>
    cases updateRole_some applied
    constructor <;> simp [Write.changes]
  | deleteRole row =>
    cases applied
    rcases deleteRole_eq session db row.id with same | changed
    · rw [same]
      constructor <;> simp
    · rw [changed]
      constructor <;> simp [Write.changes]
  | insertRolePermission row =>
    obtain ⟨_, _, rfl⟩ := insertRolePermission_some applied
    constructor <;> simp [Write.changes]
  | insertUserRole row =>
    obtain ⟨_, _, rfl⟩ := insertUserRole_some applied
    constructor <;> simp [Write.changes]
  | insertOverride row =>
    obtain ⟨_, _, rfl⟩ := insertOverride_some applied
    constructor <;> simp [Write.changes]
  | insertAcl row =>
    obtain ⟨_, _, rfl⟩ := insertAcl_some applied
    constructor <;> simp [Write.changes]
  | insertRefreshToken row =>
    obtain ⟨_, _, rfl⟩ := insertRefreshToken_some applied
    constructor <;> simp [Write.changes]
  | _ =>
    cases applied
    constructor <;> simp [Write.changes, Db.deleteRolePermission, Db.updateUserRole, Db.deleteUserRole,
      Db.deleteExpiredUserRoles, Db.updateOverride, Db.deleteOverride, Db.deleteAcl,
        Db.deleteRefreshToken,
      Db.deleteRefreshTokensOf]

def Within (changed : List Relation) (write : Write) : Prop :=
  ∀ relation ∈ write.changes, relation ∈ changed

theorem within_self {changed : List Relation} {write : Write} (same : write.changes = changed) :
    Within changed write := by
  intro relation member
  rw [← same]
  exact member

theorem sameBut_refl {changed : List Relation} {db : Db} : SameBut changed db db := by
  constructor <;> intros <;> rfl

theorem sameBut_step {changed : List Relation} {session : Session} {db before after : Db}
    {write : Write} (within : Within changed write) (same : SameBut changed db before)
    (applied : write.apply session before = some after) :
    SameBut changed db after := by
  have frame := sameBut_apply applied
  have away : ∀ {relation}, relation ∉ changed → relation ∉ write.changes := fun absent member =>
    absent (within _ member)
  constructor
  · exact fun absent => (frame.tenants (away absent)).trans (same.tenants absent)
  · exact fun absent => (frame.users (away absent)).trans (same.users absent)
  · exact fun absent => (frame.permissions (away absent)).trans (same.permissions absent)
  · exact fun absent => (frame.roles (away absent)).trans (same.roles absent)
  · exact fun absent => (frame.rolePermissions (away absent)).trans (same.rolePermissions absent)
  · exact fun absent => (frame.userRoles (away absent)).trans (same.userRoles absent)
  · exact fun absent =>
      (frame.userPermissionOverrides (away absent)).trans (same.userPermissionOverrides absent)
  · exact fun absent => (frame.resourceAcls (away absent)).trans (same.resourceAcls absent)
  · exact fun absent => (frame.refreshTokens (away absent)).trans (same.refreshTokens absent)
  · exact frame.superAdmins.trans same.superAdmins
  · exact frame.auditLogs.trans same.auditLogs

/-! The rows of each table. -/

section Rows
variable {session : Session} {db db' : Db} {write : Write}

theorem mem_tenants_apply (applied : write.apply session db = some db') {tenant : TenantEntity}
    (present : tenant ∈ db'.tenants) :
    (∃ old ∈ db.tenants, old.id = tenant.id) ∨ write = .insertTenant tenant := by
  have frame := sameBut_apply applied
  cases write with
  | insertTenant row =>
    obtain ⟨tenants, inserted, rfl⟩ := insertTenant_some applied
    rcases (mem_insert inserted).mp present with before | new
    · exact .inl ⟨tenant, before, rfl⟩
    · exact .inr (by rw [new])
  | updateTenant id change =>
    cases updateTenant_some applied
    rw [mem_modify] at present
    rcases present with ⟨before, _⟩ | ⟨old, before, _, changed⟩
    · exact .inl ⟨tenant, before, rfl⟩
    · subst changed
      exact .inl ⟨old, before, rfl⟩
  | _ =>
    rw [frame.tenants (by simp [Write.changes])] at present
    exact .inl ⟨tenant, present, rfl⟩

theorem mem_users_apply (applied : write.apply session db = some db') {user : UserEntity}
    (present : user ∈ db'.users) :
    (∃ old ∈ db.users, old.id = user.id ∧ old.tenantId = user.tenantId) ∨ write = .insertUser user := by
  have frame := sameBut_apply applied
  cases write with
  | insertUser row =>
    simp only [Write.apply] at applied
    split at applied
    · obtain ⟨users, inserted, rfl⟩ := insertUser_some applied
      rcases (mem_insert inserted).mp present with before | new
      · exact .inl ⟨user, before, rfl, rfl⟩
      · exact .inr (by rw [new])
    · cases applied
  | updateUser id change =>
    cases updateUser_some applied
    rw [mem_modify] at present
    rcases present with ⟨before, _⟩ | ⟨old, before, _, changed⟩
    · exact .inl ⟨user, before, rfl, rfl⟩
    · subst changed
      exact .inl ⟨old, before, rfl, rfl⟩
  | _ =>
    rw [frame.users (by simp [Write.changes])] at present
    exact .inl ⟨user, present, rfl, rfl⟩

/-- No statement takes a user away, gives it another key or moves it to another tenant. -/
theorem users_kept (applied : write.apply session db = some db') {old : UserEntity}
    (before : old ∈ db.users) :
    ∃ user ∈ db'.users, user.id = old.id ∧ user.tenantId = old.tenantId := by
  have frame := sameBut_apply applied
  cases write with
  | insertUser row =>
    simp only [Write.apply] at applied
    split at applied
    · obtain ⟨users, inserted, rfl⟩ := insertUser_some applied
      exact ⟨old, (mem_insert inserted).mpr (.inl before), rfl, rfl⟩
    · cases applied
  | updateUser id change =>
    cases updateUser_some applied
    cases hit : old.id == id && session.admits old.tenantId with
    | false =>
      refine ⟨old, ?_, rfl, rfl⟩
      rw [mem_modify]
      exact .inl ⟨before, hit⟩
    | true =>
      refine ⟨change.apply old, ?_, rfl, rfl⟩
      rw [mem_modify]
      exact .inr ⟨old, before, hit, rfl⟩
  | _ =>
    rw [frame.users (by simp [Write.changes])]
    exact ⟨old, before, rfl, rfl⟩

/-- No statement takes a tenant away. -/
theorem tenants_kept (applied : write.apply session db = some db') {old : TenantEntity}
    (before : old ∈ db.tenants) :
    ∃ tenant ∈ db'.tenants, tenant.id = old.id := by
  have frame := sameBut_apply applied
  cases write with
  | insertTenant row =>
    obtain ⟨tenants, inserted, rfl⟩ := insertTenant_some applied
    exact ⟨old, (mem_insert inserted).mpr (.inl before), rfl⟩
  | updateTenant id change =>
    cases updateTenant_some applied
    cases hit : old.id == id with
    | false =>
      refine ⟨old, ?_, rfl⟩
      rw [mem_modify]
      exact .inl ⟨before, hit⟩
    | true =>
      refine ⟨change.apply old, ?_, rfl⟩
      rw [mem_modify]
      exact .inr ⟨old, before, hit, rfl⟩
  | _ =>
    rw [frame.tenants (by simp [Write.changes])]
    exact ⟨old, before, rfl⟩

theorem mem_roles_apply (applied : write.apply session db = some db') {role : RoleEntity}
    (present : role ∈ db'.roles) :
    role ∈ db.roles ∨ write = .insertRole role ∨
      ∃ row, write = .updateRole row ∧ ∃ old ∈ db.roles, old.id = row.id ∧
        role = { row with id := old.id } := by
  have frame := sameBut_apply applied
  cases write with
  | insertRole row =>
    obtain ⟨roles, inserted, rfl⟩ := insertRole_some applied
    rcases (mem_insert inserted).mp present with before | new
    · exact .inl before
    · exact .inr (.inl (by rw [new]))
  | updateRole row =>
    cases updateRole_some applied
    rw [mem_modify] at present
    rcases present with ⟨before, _⟩ | ⟨old, before, hit, changed⟩
    · exact .inl before
    · simp only [Bool.and_eq_true, beq_iff_eq] at hit
      exact .inr (.inr ⟨row, rfl, old, before, hit.1, changed.symm⟩)
  | deleteRole row =>
    cases applied
    rcases deleteRole_eq session db row.id with same | changed
    · rw [same] at present
      exact .inl present
    · rw [changed] at present
      exact .inl (mem_select.mp present).1
  | _ =>
    rw [frame.roles (by simp [Write.changes])] at present
    exact .inl present

theorem mem_rolePermissions_apply (applied : write.apply session db = some db')
    {rp : RolePermissionEntity} (present : rp ∈ db'.rolePermissions) :
    rp ∈ db.rolePermissions ∨ write = .insertRolePermission rp := by
  have frame := sameBut_apply applied
  cases write with
  | insertRolePermission row =>
    obtain ⟨_, inserted, rfl⟩ := insertRolePermission_some applied
    rcases (mem_insert inserted).mp present with before | new
    · exact .inl before
    · exact .inr (by rw [new])
  | deleteRolePermission row =>
    cases applied
    exact .inl (mem_select.mp present).1
  | deleteRole row =>
    cases applied
    rcases deleteRole_eq session db row.id with same | changed
    · rw [same] at present
      exact .inl present
    · rw [changed] at present
      exact .inl (mem_select.mp present).1
  | _ =>
    rw [frame.rolePermissions (by simp [Write.changes])] at present
    exact .inl present

theorem mem_userRoles_apply (applied : write.apply session db = some db') {ur : UserRoleEntity}
    (present : ur ∈ db'.userRoles) :
    (∃ old ∈ db.userRoles, ur = { old with expiresAt := ur.expiresAt }) ∨
      write = .insertUserRole ur := by
  have frame := sameBut_apply applied
  cases write with
  | insertUserRole row =>
    obtain ⟨_, inserted, rfl⟩ := insertUserRole_some applied
    rcases (mem_insert inserted).mp present with before | new
    · exact .inl ⟨ur, before, rfl⟩
    · exact .inr (by rw [new])
  | updateUserRole row =>
    cases applied
    simp only [Db.updateUserRole, mem_modify] at present
    rcases present with ⟨before, _⟩ | ⟨old, before, _, changed⟩
    · exact .inl ⟨ur, before, rfl⟩
    · subst changed
      exact .inl ⟨old, before, rfl⟩
  | deleteUserRole row | deleteExpiredUserRoles now =>
    cases applied
    exact .inl ⟨ur, (mem_select.mp present).1, rfl⟩
  | deleteRole row =>
    cases applied
    rcases deleteRole_eq session db row.id with same | changed
    · rw [same] at present
      exact .inl ⟨ur, present, rfl⟩
    · rw [changed] at present
      exact .inl ⟨ur, (mem_select.mp present).1, rfl⟩
  | _ =>
    rw [frame.userRoles (by simp [Write.changes])] at present
    exact .inl ⟨ur, present, rfl⟩

theorem mem_overrides_apply (applied : write.apply session db = some db')
    {row : UserPermissionOverrideEntity} (present : row ∈ db'.userPermissionOverrides) :
    (∃ old ∈ db.userPermissionOverrides,
      row = { old with overrideType := row.overrideType, reason := row.reason }) ∨
      write = .insertOverride row := by
  have frame := sameBut_apply applied
  cases write with
  | insertOverride other =>
    obtain ⟨_, inserted, rfl⟩ := insertOverride_some applied
    rcases (mem_insert inserted).mp present with before | new
    · exact .inl ⟨row, before, rfl⟩
    · exact .inr (by rw [new])
  | updateOverride other =>
    cases applied
    simp only [Db.updateOverride, mem_modify] at present
    rcases present with ⟨before, _⟩ | ⟨old, before, _, changed⟩
    · exact .inl ⟨row, before, rfl⟩
    · subst changed
      exact .inl ⟨old, before, rfl⟩
  | deleteOverride other =>
    cases applied
    exact .inl ⟨row, (mem_select.mp present).1, rfl⟩
  | _ =>
    rw [frame.userPermissionOverrides (by simp [Write.changes])] at present
    exact .inl ⟨row, present, rfl⟩

theorem mem_resourceAcls_apply (applied : write.apply session db = some db') {row : ResourceAclEntity}
    (present : row ∈ db'.resourceAcls) : row ∈ db.resourceAcls ∨ write = .insertAcl row := by
  have frame := sameBut_apply applied
  cases write with
  | insertAcl other =>
    obtain ⟨_, inserted, rfl⟩ := insertAcl_some applied
    rcases (mem_insert inserted).mp present with before | new
    · exact .inl before
    · exact .inr (by rw [new])
  | deleteAcl other =>
    cases applied
    exact .inl (mem_select.mp present).1
  | _ =>
    rw [frame.resourceAcls (by simp [Write.changes])] at present
    exact .inl present

end Rows
end GenericIam.Database
