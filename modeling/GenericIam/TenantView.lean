import GenericIam.Footprint

/-! What a tenant is shown of the tables. A statement of the tenant does to its view what
it does to the tables. -/

namespace GenericIam.TenantView
open Table Database Transaction Handlers TenantWrites Footprint

section Shown
variable {tenantId : Uuid} {ids : Nat → Uuid} {scope : Scope} {db : Db}

abbrev view (tenantId : Uuid) (db : Db) : Db := shown (.tenantUser tenantId) db

theorem userOf_view {userId : Uuid} :
    UserOf (view tenantId db) tenantId userId ↔ UserOf db tenantId userId := by
  constructor
  · intro found
    obtain ⟨user, member, same, own⟩ := found
    exact ⟨user, (mem_seen_users.mp member).1, same, own⟩
  · intro found
    obtain ⟨user, member, same, own⟩ := found
    exact ⟨user, mem_seen_users.mpr ⟨member, own⟩, same, own⟩

theorem usableRole_view {roleId : Uuid} :
    UsableRole (view tenantId db) tenantId roleId ↔ UsableRole db tenantId roleId := by
  constructor
  · intro found
    obtain ⟨role, member, same, usable⟩ := found
    exact ⟨role, (mem_seen_roles.mp member).1, same, usable⟩
  · intro found
    obtain ⟨role, member, same, usable⟩ := found
    exact ⟨role, mem_seen_roles.mpr ⟨member, usable⟩, same, usable⟩

theorem customRoleOf_view {roleId : Uuid} :
    CustomRoleOf (view tenantId db) tenantId roleId ↔ CustomRoleOf db tenantId roleId := by
  constructor
  · intro found
    obtain ⟨role, member, same, custom, own⟩ := found
    exact ⟨role, (mem_seen_roles.mp member).1, same, custom, own⟩
  · intro found
    obtain ⟨role, member, same, custom, own⟩ := found
    exact ⟨role, mem_seen_roles.mpr ⟨member, .inr own⟩, same, custom, own⟩

/-- Whether a statement is one of the tenant can be told from what the tenant is shown. -/
theorem tenantWrite_view {write : Write} :
    TenantWrite tenantId scope (view tenantId db) write ↔ TenantWrite tenantId scope db write := by
  cases write with
  | updateUser id change => simp only [TenantWrite, userOf_view]
  | updateRole row => simp only [TenantWrite, customRoleOf_view]
  | deleteRole row =>
    simp only [TenantWrite, mem_seen_roles, mem_seen_userRoles]
    constructor
    · intro allowed
      obtain ⟨deletes, ⟨member, _⟩, custom, own, nobody⟩ := allowed
      exact ⟨deletes, member, custom, own, fun ur assigned tenant =>
        nobody ur ⟨assigned, tenant⟩ tenant⟩
    · intro allowed
      obtain ⟨deletes, member, custom, own, nobody⟩ := allowed
      exact ⟨deletes, ⟨member, .inr own⟩, custom, own, fun ur assigned => nobody ur assigned.1⟩
  | insertRolePermission row => exact customRoleOf_view
  | deleteRolePermission row =>
    simp only [TenantWrite, mem_seen_rolePermissions, customRoleOf_view]
    constructor
    · intro allowed
      exact ⟨allowed.1.1, allowed.2⟩
    · intro allowed
      obtain ⟨role, present, same, _, own⟩ := allowed.2
      exact ⟨⟨allowed.1, role, present, same, .inr own⟩, allowed.2⟩
  | insertUserRole row => simp only [TenantWrite, userOf_view, usableRole_view]
  | updateUserRole row =>
    simp only [TenantWrite, mem_seen_userRoles]
    constructor
    · intro allowed
      obtain ⟨own, old, ⟨member, _⟩, rest⟩ := allowed
      exact ⟨own, old, member, rest⟩
    · intro allowed
      obtain ⟨own, old, member, key, tenant, user⟩ := allowed
      exact ⟨own, old, ⟨member, tenant.trans own⟩, key, tenant, user⟩
  | deleteUserRole row =>
    simp only [TenantWrite, mem_seen_userRoles]
    exact and_congr_right fun own => and_iff_left own
  | updateOverride row =>
    simp only [TenantWrite, mem_seen_overrides]
    constructor
    · intro allowed
      obtain ⟨own, old, ⟨member, _⟩, rest⟩ := allowed
      exact ⟨own, old, member, rest⟩
    · intro allowed
      obtain ⟨own, old, member, key, tenant, user⟩ := allowed
      exact ⟨own, old, ⟨member, tenant.trans own⟩, key, tenant, user⟩
  | deleteOverride row =>
    simp only [TenantWrite, mem_seen_overrides]
    exact and_congr_right fun own => and_iff_left own
  | deleteAcl row =>
    simp only [TenantWrite, mem_seen_resourceAcls]
    exact and_congr_right fun own => and_iff_left own
  | _ => exact Iff.rfl

/-! What the tables show of generated keys. -/

/-- A generated key that is in use belongs to a row that the tenant is shown. -/
structure Clear (tenantId : Uuid) (ids : Nat → Uuid) (db : Db) : Prop where
  users : ∀ row ∈ db.users, ∀ index, row.id = ids index → row.tenantId = tenantId
  roles : ∀ row ∈ db.roles, ∀ index, row.id = ids index → row.isSystem = true ∨
    row.tenantId = some tenantId
  rolePermissions : ∀ row ∈ db.rolePermissions, ∀ index, row.id = ids index ∨ row.roleId = ids index →
    UsableRole db tenantId row.roleId
  userRoles : ∀ row ∈ db.userRoles, ∀ index, row.id = ids index → row.tenantId = tenantId
  overrides : ∀ row ∈ db.userPermissionOverrides, ∀ index, row.id = ids index → row.tenantId = tenantId
  acls : ∀ row ∈ db.resourceAcls, ∀ index, row.id = ids index → row.tenantId = tenantId

theorem hasUser_of_userOf {userId : Uuid} (present : UserOf db tenantId userId) :
    db.hasUser userId = true := by
  obtain ⟨user, member, same, _⟩ := present
  exact any_iff.mpr ⟨user, member, by simp [same]⟩

theorem hasRole_of_usable {roleId : Uuid} (usable : UsableRole db tenantId roleId) :
    db.hasRole roleId = true := by
  obtain ⟨role, member, same, _⟩ := usable
  exact any_iff.mpr ⟨role, member, by simp [same]⟩

/-- The statement goes the same way on the tables and on the view, and comes to the same view. -/
def Commutes (tenantId : Uuid) (db : Db) (write : Write) : Prop :=
  (write.apply (.tenantUser tenantId) db).map (view tenantId) =
    write.apply (.tenantUser tenantId) (view tenantId db) ∧
    write.missingReference db = write.missingReference (view tenantId db)

def Alike (tenantId : Uuid) (db db' : Db) (write : Write) : Prop :=
  (write.apply (.tenantUser tenantId) db).map (view tenantId) =
    (write.apply (.tenantUser tenantId) db').map (view tenantId) ∧
    write.missingReference db = write.missingReference db'

theorem Commutes.alike {db' : Db} {write : Write} (first : Commutes tenantId db write)
    (second : Commutes tenantId db' write) (same : view tenantId db = view tenantId db') :
    Alike tenantId db db' write :=
  ⟨by rw [first.1, second.1, same], by rw [first.2, second.2, same]⟩

theorem admits_iff {other : Uuid} :
    Session.admits (.tenantUser tenantId) other = true ↔ other = tenantId := by
  simp [Session.admits]

/-- Whether a user is there whom the statement only names is all that the view does not tell. -/
theorem view_insertUser {row : UserEntity} (own : row.tenantId = tenantId)
    (clear : ∀ other ∈ db.users, other.id = row.id → other.tenantId = tenantId) :
    (Write.apply (.tenantUser tenantId) db (.insertUser row)).map (view tenantId) =
      if !((view tenantId db).hasTenant row.tenantId && row.managerId.all db.hasUser) ||
          (view tenantId db).users.any fun other =>
            other.tenantId == row.tenantId && other.email == row.email then none
      else ((view tenantId db).users.insert row).map fun users => { view tenantId db with users } := by
  have clash : ((view tenantId db).users.any fun other => other.tenantId == row.tenantId &&
    other.email == row.email) =
      db.users.any fun other => other.tenantId == row.tenantId && other.email == row.email := by
    apply any_select
    intro other _ matched
    simp only [Bool.and_eq_true, beq_iff_eq] at matched
    exact admits_iff.mpr (matched.1.trans own)
  have inserted : (db.users.insert row).map (fun users => users.select fun row =>
    Session.admits (.tenantUser tenantId) row.tenantId) =
      (view tenantId db).users.insert row :=
    insert_select (admits_iff.mpr own) fun other member same => admits_iff.mpr (clear other member same)
  simp only [Write.apply, if_pos (admits_iff.mpr own), Db.insertUser, clash, ← inserted]
  split
  · next refused =>
    rw [if_pos]
    · rfl
    · exact refused
  · next taken =>
    rw [if_neg]
    · rw [Option.map_map, Option.map_map]
      rfl
    · exact taken

theorem admitsRolePermission_iff {rp : RolePermissionEntity} :
    Session.admitsRolePermission (.tenantUser tenantId) db rp = true ↔
      UsableRole db tenantId rp.roleId := by
  simp [Session.admitsRolePermission, Session.admitsRole, any_iff, UsableRole]

/-- The mappings that are shown depend on the usable roles alone. -/
theorem select_rolePermissions {table : Table RolePermissionEntity} {db' : Db}
    (same : ∀ rp ∈ table, UsableRole db' tenantId rp.roleId ↔ UsableRole db tenantId rp.roleId) :
    table.select (Session.admitsRolePermission (.tenantUser tenantId) db') =
      table.select (Session.admitsRolePermission (.tenantUser tenantId) db) := by
  apply select_congr
  intro rp member
  rw [Bool.eq_iff_iff, admitsRolePermission_iff, admitsRolePermission_iff]
  exact same rp member

theorem admitsRole_iff {role : RoleEntity} :
    Session.admitsRole (.tenantUser tenantId) role = true ↔ role.isSystem = true ∨
      role.tenantId = some tenantId := by
  simp [Session.admitsRole]

def targets (tenantId id : Uuid) (row : UserEntity) : Bool :=
  row.id == id && Session.admits (.tenantUser tenantId) row.tenantId

def emailTaken (db : Db) (id : Uuid) (change : UserChange) (row : UserEntity) : Bool :=
  db.users.any fun other =>
    other.id != id && other.tenantId == row.tenantId && some other.email == change.email

theorem updateUser_eq (db : Db) (id : Uuid) (change : UserChange) :
    db.updateUser (.tenantUser tenantId) id change =
    if !(change.managerId.getD none).all db.hasUser ||
        db.users.any fun row => targets tenantId id row && emailTaken db id change row then none
    else some { db with users := db.users.modify (targets tenantId id) change.apply change.key_apply } := rfl

theorem targets_emailTaken (db : Db) (id : Uuid) (change : UserChange) (row : UserEntity) :
    (targets tenantId id row && emailTaken (view tenantId db) id change row) =
      (targets tenantId id row && emailTaken db id change row) := by
  cases hit : targets tenantId id row with
  | false => rfl
  | true =>
    rw [Bool.true_and, Bool.true_and]
    apply any_select
    intro other _ matched
    simp only [targets, Bool.and_eq_true, beq_iff_eq] at hit matched
    exact admits_iff.mpr (matched.1.2.trans (admits_iff.mp hit.2))

theorem view_updateUser {id : Uuid} {change : UserChange} :
    (Write.apply (.tenantUser tenantId) db (.updateUser id change)).map (view tenantId) =
      if !(change.managerId.getD none).all db.hasUser ||
          (view tenantId db).users.any fun row =>
            targets tenantId id row && emailTaken (view tenantId db) id change row then none
      else some { view tenantId db with
        users := (view tenantId db).users.modify
          (targets tenantId id) change.apply change.key_apply } := by
  have clash : ((view tenantId db).users.any fun row => targets tenantId id row &&
    emailTaken db id change row) =
      db.users.any fun row => targets tenantId id row && emailTaken db id change row := by
    apply any_select
    intro row _ matched
    simp only [targets, Bool.and_eq_true] at matched
    exact matched.1.2
  have modified : (db.users.modify (targets tenantId id) change.apply change.key_apply).select
        (fun row => Session.admits (.tenantUser tenantId) row.tenantId) =
      (view tenantId db).users.modify (targets tenantId id) change.apply change.key_apply := by
    apply modify_select
    intro row _ hit
    simp only [targets, Bool.and_eq_true] at hit
    exact ⟨hit.2, hit.2⟩
  simp only [Write.apply, updateUser_eq, targets_emailTaken, clash]
  split
  · rfl
  · rw [Option.map_some, ← modified]
    rfl

theorem commutes_insertRole {row : RoleEntity} (own : row.tenantId = some tenantId)
    (clear : ∀ other ∈ db.roles, other.id = row.id → other.isSystem = true ∨
      other.tenantId = some tenantId)
    (unmapped : ∀ rp ∈ db.rolePermissions, rp.roleId = row.id → UsableRole db tenantId rp.roleId) :
    Commutes tenantId db (.insertRole row) := by
  have admitted : Session.admitsRole (.tenantUser tenantId) row = true := admitsRole_iff.mpr (.inr own)
  have inserted : (db.roles.insert row).map (fun roles =>
    roles.select (Session.admitsRole (.tenantUser tenantId))) =
      (view tenantId db).roles.insert row :=
    insert_select admitted fun other member same => admitsRole_iff.mpr (clear other member same)
  refine ⟨?_, rfl⟩
  simp only [Write.apply, Db.insertRole, admitted, if_true, ← inserted]
  cases added : db.roles.insert row with
  | none => rfl
  | some roles =>
    simp only [Option.map_some, Option.some.injEq]
    refine Db.ext rfl rfl rfl rfl rfl ?_ rfl rfl rfl rfl rfl
    apply select_rolePermissions
    intro rp member
    constructor
    · intro usable
      obtain ⟨role, present, same, shows⟩ := usable
      rcases (mem_insert added).mp present with old | new
      · exact ⟨role, old, same, shows⟩
      · exact unmapped rp member (same.symm.trans (congrArg RoleEntity.id new))
    · intro usable
      exact usable_mono usable fun role present => (mem_insert added).mpr (.inl present)

/-- A role that the tenant overwrites stays where it is shown. -/
theorem commutes_updateRole {row : RoleEntity} (own : row.tenantId = some tenantId) :
    Commutes tenantId db (.updateRole row) := by
  have admitted : Session.admitsRole (.tenantUser tenantId) row = true := admitsRole_iff.mpr (.inr own)
  refine ⟨?_, rfl⟩
  simp only [Write.apply, Db.updateRole, admitted, if_true, Option.map_some, Option.some.injEq]
  refine Db.ext rfl rfl rfl rfl ?_ ?_ rfl rfl rfl rfl rfl
  · apply modify_select
    · intro _
      rfl
    · intro other _ hit
      simp only [Bool.and_eq_true] at hit
      exact ⟨hit.2, admitsRole_iff.mpr (.inr own)⟩
  · apply select_rolePermissions
    intro rp _
    constructor
    · intro usable
      obtain ⟨role, present, same, shows⟩ := usable
      rw [mem_modify] at present
      rcases present with ⟨old, _⟩ | ⟨old, before, hit, changed⟩
      · exact ⟨role, old, same, shows⟩
      · simp only [Bool.and_eq_true] at hit
        exact ⟨old, before, (congrArg RoleEntity.id changed).trans same, admitsRole_iff.mp hit.2⟩
    · intro usable
      obtain ⟨role, present, same, shows⟩ := usable
      cases hit : role.id == row.id && Session.admitsRole (.tenantUser tenantId) role with
      | false =>
        refine ⟨role, ?_, same, shows⟩
        rw [mem_modify]
        exact .inl ⟨present, hit⟩
      | true =>
        refine ⟨{ row with id := role.id }, ?_, same, .inr own⟩
        rw [mem_modify]
        exact .inr ⟨role, present, hit, rfl⟩

abbrev without (db : Db) (id : Uuid) : Db :=
  { db with
    roles := db.roles.select fun role => role.id != id
    rolePermissions := db.rolePermissions.select fun rp => rp.roleId != id
    userRoles := db.userRoles.select fun ur => ur.roleId != id }

/-- The mappings that are left are shown as before. -/
theorem select_deleted (id : Uuid) :
    (db.rolePermissions.select fun rp => rp.roleId != id).select
      (Session.admitsRolePermission (.tenantUser tenantId) (without db id)) =
      (db.rolePermissions.select fun rp => rp.roleId != id).select
        (Session.admitsRolePermission (.tenantUser tenantId) db) := by
  apply select_rolePermissions
  intro rp member
  have another : rp.roleId ≠ id := by simpa using (mem_select.mp member).2
  constructor
  · intro usable
    obtain ⟨role, present, same, shows⟩ := usable
    exact ⟨role, (mem_select.mp present).1, same, shows⟩
  · intro usable
    obtain ⟨role, present, same, shows⟩ := usable
    refine ⟨role, mem_select.mpr ⟨present, ?_⟩, same, shows⟩
    simpa [same] using another

theorem commutes_deleteRole {row : RoleEntity} : Commutes tenantId db (.deleteRole row) := by
  refine ⟨?_, rfl⟩
  have found : ((view tenantId db).roles.any fun other => other.id == row.id &&
    Session.admitsRole (.tenantUser tenantId) other) =
      db.roles.any fun other =>
          other.id == row.id && Session.admitsRole (.tenantUser tenantId) other := by
    apply any_select
    intro other _ matched
    simp only [Bool.and_eq_true] at matched
    exact matched.2
  simp only [Write.apply, Db.deleteRole, found, Option.map_some, Option.some.injEq]
  split
  · refine Db.ext rfl rfl rfl rfl (select_comm _ _ _) ?_ (select_comm _ _ _) rfl rfl rfl rfl
    exact (select_deleted row.id).trans (select_comm _ _ _)
  · rfl

theorem commutes_insertRolePermission {row : RolePermissionEntity}
    (custom : CustomRoleOf db tenantId row.roleId)
    (clear : ∀ other ∈ db.rolePermissions, other.id = row.id → UsableRole db tenantId other.roleId) :
    Commutes tenantId db (.insertRolePermission row) := by
  obtain ⟨role, member, same, isCustom, own⟩ := custom
  have usable : UsableRole db tenantId row.roleId := ⟨role, member, same, .inr own⟩
  have admitted := admitsRolePermission_iff.mpr usable
  have shows := admitsRolePermission_iff.mpr (usableRole_view.mpr usable)
  have known : (view tenantId db).hasRole row.roleId = db.hasRole row.roleId := by
    rw [hasRole_of_usable usable, hasRole_of_usable (usableRole_view.mpr usable)]
  have permission : (view tenantId db).hasPermissionRow row.permissionId =
    db.hasPermissionRow row.permissionId := rfl
  have inserted : (db.rolePermissions.insert row).map
        (fun table => table.select (Session.admitsRolePermission (.tenantUser tenantId) db)) =
      (view tenantId db).rolePermissions.insert row :=
    insert_select admitted fun other present same =>
      admitsRolePermission_iff.mpr (clear other present same)
  constructor
  · simp only [Write.apply, Db.insertRolePermission, known, permission, admitted, shows, ← inserted]
    split
    · rw [Option.map_map, Option.map_map]
      rfl
    · rfl
  · simp only [Write.missingReference, known, permission]

theorem commutes_deleteRolePermission {row : RolePermissionEntity} :
    Commutes tenantId db (.deleteRolePermission row) := by
  refine ⟨?_, rfl⟩
  have alike : ∀ rp, Session.admitsRolePermission (.tenantUser tenantId) (view tenantId db) rp =
      Session.admitsRolePermission (.tenantUser tenantId) db rp := by
    intro rp
    rw [Bool.eq_iff_iff, admitsRolePermission_iff, admitsRolePermission_iff]
    exact usableRole_view
  simp only [Write.apply, Db.deleteRolePermission, Option.map_some, Option.some.injEq, alike]
  exact Db.ext rfl rfl rfl rfl rfl (select_comm _ _ _) rfl rfl rfl rfl rfl

theorem commutes_insertUserRole {row : UserRoleEntity} (own : row.tenantId = tenantId)
    (user : UserOf db tenantId row.userId) (usable : UsableRole db tenantId row.roleId)
    (clear : ∀ other ∈ db.userRoles, other.id = row.id → other.tenantId = tenantId) :
    Commutes tenantId db (.insertUserRole row) := by
  have tenants : (view tenantId db).hasTenant row.tenantId = db.hasTenant row.tenantId := rfl
  have users : (view tenantId db).hasUser row.userId = db.hasUser row.userId := by
    rw [hasUser_of_userOf user, hasUser_of_userOf (userOf_view.mpr user)]
  have roles : (view tenantId db).hasRole row.roleId = db.hasRole row.roleId := by
    rw [hasRole_of_usable usable, hasRole_of_usable (usableRole_view.mpr usable)]
  have inserted : (db.userRoles.insert row).map
        (fun table => table.select fun row => Session.admits (.tenantUser tenantId) row.tenantId) =
      (view tenantId db).userRoles.insert row :=
    insert_select (admits_iff.mpr own) fun other member same => admits_iff.mpr (clear other member same)
  constructor
  · simp only [Write.apply, Db.insertUserRole, tenants, users, roles, ← inserted]
    split
    · rw [Option.map_map, Option.map_map]
      rfl
    · rfl
  · simp only [Write.missingReference, tenants, users, roles]

theorem view_insertOverride {row : UserPermissionOverrideEntity} (own : row.tenantId = tenantId)
    (clear : ∀ other ∈ db.userPermissionOverrides, other.id = row.id → other.tenantId = tenantId) :
    (Write.apply (.tenantUser tenantId) db (.insertOverride row)).map (view tenantId) =
      if (view tenantId db).hasTenant row.tenantId && db.hasUser row.userId &&
        (view tenantId db).hasPermissionRow row.permissionId &&
          Session.admits (.tenantUser tenantId) row.tenantId &&
            !(view tenantId db).userPermissionOverrides.any (fun other =>
            other.tenantId == row.tenantId && other.userId == row.userId &&
              other.permissionId == row.permissionId) then
        ((view tenantId db).userPermissionOverrides.insert row).map fun userPermissionOverrides =>
          { view tenantId db with userPermissionOverrides }
      else none := by
  have tenants : (view tenantId db).hasTenant row.tenantId = db.hasTenant row.tenantId := rfl
  have permissions : (view tenantId db).hasPermissionRow row.permissionId =
    db.hasPermissionRow row.permissionId := rfl
  have clash : ((view tenantId db).userPermissionOverrides.any fun other =>
    other.tenantId == row.tenantId &&
        other.userId == row.userId && other.permissionId == row.permissionId) =
      db.userPermissionOverrides.any fun other =>
        other.tenantId == row.tenantId && other.userId == row.userId &&
        other.permissionId == row.permissionId := by
    apply any_select
    intro other _ matched
    simp only [Bool.and_eq_true, beq_iff_eq] at matched
    exact admits_iff.mpr (matched.1.1.trans own)
  have inserted : (db.userPermissionOverrides.insert row).map
        (fun table => table.select fun row => Session.admits (.tenantUser tenantId) row.tenantId) =
      (view tenantId db).userPermissionOverrides.insert row :=
    insert_select (admits_iff.mpr own) fun other member same => admits_iff.mpr (clear other member same)
  simp only [Write.apply, Db.insertOverride, tenants, permissions, clash, ← inserted]
  split
  · rw [Option.map_map, Option.map_map]
    rfl
  · rfl

theorem view_insertAcl {row : ResourceAclEntity} (own : row.tenantId = tenantId)
    (clear : ∀ other ∈ db.resourceAcls, other.id = row.id → other.tenantId = tenantId) :
    (Write.apply (.tenantUser tenantId) db (.insertAcl row)).map (view tenantId) =
      if (view tenantId db).hasTenant row.tenantId && db.hasUser row.userId &&
        Session.admits (.tenantUser tenantId) row.tenantId then
        ((view tenantId db).resourceAcls.insert row).map fun resourceAcls =>
          { view tenantId db with resourceAcls }
      else none := by
  have tenants : (view tenantId db).hasTenant row.tenantId = db.hasTenant row.tenantId := rfl
  have inserted : (db.resourceAcls.insert row).map
        (fun table => table.select fun row => Session.admits (.tenantUser tenantId) row.tenantId) =
      (view tenantId db).resourceAcls.insert row :=
    insert_select (admits_iff.mpr own) fun other member same => admits_iff.mpr (clear other member same)
  simp only [Write.apply, Db.insertAcl, tenants, ← inserted]
  split
  · rw [Option.map_map, Option.map_map]
    rfl
  · rfl

/-- Rows with a key and a tenant are changed where they are shown. -/
theorem modify_admitted {Row : Type} [Keyed Row Uuid] {table : Table Row} {tenantOf : Row → Uuid}
    {picked : Row → Bool} {change : Row → Row} (keeps : ∀ row, key (change row) = key row)
    (stays : ∀ row, tenantOf (change row) = tenantOf row) :
    (table.modify (fun row => picked row && Session.admits (.tenantUser tenantId) (tenantOf row))
      change keeps).select
        (fun row => Session.admits (.tenantUser tenantId) (tenantOf row)) =
      (table.select fun row => Session.admits (.tenantUser tenantId) (tenantOf row)).modify
        (fun row => picked row &&
          Session.admits (.tenantUser tenantId) (tenantOf row)) change keeps := by
  apply modify_select
  intro row _ hit
  simp only [Bool.and_eq_true] at hit
  exact ⟨hit.2, by rw [stays]; exact hit.2⟩

theorem commutes_updateUserRole {row : UserRoleEntity} :
    Commutes tenantId db (.updateUserRole row) := by
  refine ⟨?_, rfl⟩
  simp only [Write.apply, Db.updateUserRole, Option.map_some, Option.some.injEq]
  refine Db.ext rfl rfl rfl rfl rfl rfl ?_ rfl rfl rfl rfl
  apply modify_admitted
  · intro _
    rfl
  · intro _
    rfl

theorem commutes_deleteUserRole {row : UserRoleEntity} :
    Commutes tenantId db (.deleteUserRole row) := by
  refine ⟨?_, rfl⟩
  simp only [Write.apply, Db.deleteUserRole, Option.map_some, Option.some.injEq]
  exact Db.ext rfl rfl rfl rfl rfl rfl (select_comm _ _ _) rfl rfl rfl rfl

theorem commutes_updateOverride {row : UserPermissionOverrideEntity} :
    Commutes tenantId db (.updateOverride row) := by
  refine ⟨?_, rfl⟩
  simp only [Write.apply, Db.updateOverride, Option.map_some, Option.some.injEq]
  refine Db.ext rfl rfl rfl rfl rfl rfl rfl ?_ rfl rfl rfl
  apply modify_admitted
  · intro _
    rfl
  · intro _
    rfl

theorem commutes_deleteOverride {row : UserPermissionOverrideEntity} :
    Commutes tenantId db (.deleteOverride row) := by
  refine ⟨?_, rfl⟩
  simp only [Write.apply, Db.deleteOverride, Option.map_some, Option.some.injEq]
  exact Db.ext rfl rfl rfl rfl rfl rfl rfl (select_comm _ _ _) rfl rfl rfl

theorem commutes_deleteAcl {row : ResourceAclEntity} : Commutes tenantId db (.deleteAcl row) := by
  refine ⟨?_, rfl⟩
  simp only [Write.apply, Db.deleteAcl, Option.map_some, Option.some.injEq]
  exact Db.ext rfl rfl rfl rfl rfl rfl rfl rfl (select_comm _ _ _) rfl rfl

end Shown
end GenericIam.TenantView
