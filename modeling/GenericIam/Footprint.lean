import GenericIam.Operations
import GenericIam.Statements

/-! Which permission sets and ACL answers one statement can change, and the invariant
of the tables on which that rests. -/

namespace GenericIam.Footprint
open Table Database EffectivePermissions Identifiers CacheKeys AuthorizationCheck TenantWrites

/-! What an answer depends on. -/

/-- The rows that decide on the permissions of a user in a tenant are the same in both
databases; expired assignments do not count. -/
structure SameRows (now : Time) (tenantId userId : Uuid) (db db' : Db) : Prop where
  permissions : db'.permissions = db.permissions
  assignments : ∀ ur : UserRoleEntity, ur.tenantId = tenantId → ur.userId = userId →
    activeAt now ur = true →
    (ur ∈ db'.userRoles ↔ ur ∈ db.userRoles)
  mappings : ∀ ur ∈ db.userRoles, ur.tenantId = tenantId → ur.userId = userId →
    ∀ rp : RolePermissionEntity, rp.roleId = ur.roleId →
      (rp ∈ db'.rolePermissions ↔ rp ∈ db.rolePermissions)
  overrides : ∀ o : UserPermissionOverrideEntity, o.tenantId = tenantId → o.userId = userId →
    (o ∈ db'.userPermissionOverrides ↔ o ∈ db.userPermissionOverrides)

section SameRows
variable {now : Time} {tenantId userId : Uuid} {db db' : Db}

theorem SameRows.of_tables (permissions : db'.permissions = db.permissions)
    (assignments : db'.userRoles = db.userRoles)
    (mappings : db'.rolePermissions = db.rolePermissions)
    (overrides : db'.userPermissionOverrides = db.userPermissionOverrides) :
    SameRows now tenantId userId db db' where
  permissions := permissions
  assignments _ _ _ _ := by rw [assignments]
  mappings _ _ _ _ _ _ := by rw [mappings]
  overrides _ _ _ := by rw [overrides]

theorem SameRows.roleGrants (same : SameRows now tenantId userId db db') (p : PermissionEntity) :
    RoleGrants db' now userId tenantId p ↔ RoleGrants db now userId tenantId p := by
  refine ⟨?_, ?_⟩
  · intro granted
    obtain ⟨ur, assigned, ⟨user, tenant, active⟩, rp, mapped, permission, role⟩ := granted
    have before := (same.assignments ur tenant user active).mp assigned
    exact ⟨ur, before, ⟨user, tenant, active⟩, rp,
      (same.mappings ur before tenant user rp role).mp mapped, permission, role⟩
  · intro granted
    obtain ⟨ur, assigned, ⟨user, tenant, active⟩, rp, mapped, permission, role⟩ := granted
    have after := (same.assignments ur tenant user active).mpr assigned
    exact ⟨ur, after, ⟨user, tenant, active⟩, rp,
      (same.mappings ur assigned tenant user rp role).mpr mapped, permission, role⟩

theorem SameRows.overridden (same : SameRows now tenantId userId db db') (type : OverrideType)
    (p : PermissionEntity) :
    Overrides db' type userId tenantId p ↔ Overrides db type userId tenantId p := by
  apply exists_congr
  intro o
  refine ⟨?_, ?_⟩
  · intro present
    obtain ⟨member, user, tenant, rest⟩ := present
    exact ⟨(same.overrides o tenant user).mp member, user, tenant, rest⟩
  · intro present
    obtain ⟨member, user, tenant, rest⟩ := present
    exact ⟨(same.overrides o tenant user).mpr member, user, tenant, rest⟩

theorem SameRows.codes (same : SameRows now tenantId userId db db') (code : String) :
    code ∈ effectiveCodes db' now userId tenantId ↔ code ∈ effectiveCodes db now userId tenantId := by
  simp only [mem_effectiveCodes, same.permissions, same.roleGrants, same.overridden]

end SameRows

/-! The invariant. -/

/-- Assigned roles are usable where they are assigned, so a custom role is only held in
its own tenant; and no ACL entry has an empty field. -/
structure Consistent (db : Db) : Prop where
  held : ∀ ur ∈ db.userRoles, UsableRole db ur.tenantId ur.roleId
  filled : ∀ acl ∈ db.resourceAcls, acl.resourceType ≠ "" ∧ acl.resourceId ≠ "" ∧ acl.permission ≠ ""

def Keeps (db : Db) : Write → Prop
  | .updateRole row => ∃ tenantId, CustomRoleOf db tenantId row.id ∧ row.tenantId = some tenantId
  | .insertUserRole row => UsableRole db row.tenantId row.roleId
  | .insertAcl row => row.resourceType ≠ "" ∧ row.resourceId ≠ "" ∧ row.permission ≠ ""
  | _ => True

theorem keeps_of_tenantWrite {tenantId : Uuid} {scope : Scope} {db : Db} {write : Write}
    (allowed : TenantWrite tenantId scope db write) : Keeps db write := by
  cases write with
  | updateRole row => exact ⟨tenantId, allowed.1, allowed.2.1⟩
  | insertUserRole row =>
    obtain ⟨tenant, _, usable⟩ := allowed
    rw [← tenant] at usable
    exact usable
  | insertAcl row => exact allowed.2.2
  | _ => trivial

/-- A usable role stays usable when rows are added to the table. -/
theorem usable_mono {db db' : Db} {tenantId roleId : Uuid} (usable : UsableRole db tenantId roleId)
    (more : ∀ role ∈ db.roles, role ∈ db'.roles) : UsableRole db' tenantId roleId := by
  obtain ⟨role, member, same, shown⟩ := usable
  exact ⟨role, more role member, same, shown⟩

theorem usable_updateRole {session : Session} {db : Db} {row : RoleEntity}
    {owner tenantId roleId : Uuid} (custom : CustomRoleOf db owner row.id)
    (own : row.tenantId = some owner) (usable : UsableRole db tenantId roleId) :
    UsableRole { db with
      roles := db.roles.modify (fun other => other.id == row.id && session.admitsRole other)
        (fun other => { row with id := other.id }) fun _ => rfl } tenantId roleId := by
  obtain ⟨role, member, same, shown⟩ := usable
  cases hit : role.id == row.id && session.admitsRole role with
  | false =>
    refine ⟨role, ?_, same, shown⟩
    rw [mem_modify]
    exact .inl ⟨member, hit⟩
  | true =>
    obtain ⟨before, present, key, system, tenant⟩ := custom
    simp only [Bool.and_eq_true, beq_iff_eq] at hit
    have whole : role = before := eq_of_key_eq member present (hit.1.trans key.symm)
    subst whole
    have right : owner = tenantId := by
      rcases shown with isSystem | isOwn
      · rw [system] at isSystem
        cases isSystem
      · exact Option.some.inj (tenant.symm.trans isOwn)
    refine ⟨{ row with id := role.id }, ?_, same, .inr ?_⟩
    · rw [mem_modify]
      exact .inr ⟨role, member, by simp [hit.1, hit.2], rfl⟩
    · rw [← right]
      exact own

/-- A usable role stays usable, unless it is deleted with all that refers to it. -/
theorem usable_apply {session : Session} {db db' : Db} {write : Write} {tenantId roleId : Uuid}
    (keeps : Keeps db write) (applied : write.apply session db = some db')
    (usable : UsableRole db tenantId roleId) :
    UsableRole db' tenantId roleId ∨
      ((∀ ur ∈ db'.userRoles, ur.roleId ≠ roleId) ∧ ∀ rp ∈ db'.rolePermissions,
        rp.roleId ≠ roleId) := by
  have frame := sameBut_apply applied
  cases write with
  | insertRole row =>
    obtain ⟨roles, inserted, rfl⟩ := insertRole_some applied
    exact .inl (usable_mono usable fun role member => (mem_insert inserted).mpr (.inl member))
  | updateRole row =>
    obtain ⟨owner, custom, own⟩ := keeps
    cases updateRole_some applied
    exact .inl (usable_updateRole custom own usable)
  | deleteRole row =>
    cases applied
    rcases deleteRole_eq session db row.id with same | changed
    · rw [same]
      exact .inl usable
    · rw [changed]
      by_cases gone : roleId = row.id
      · subst gone
        exact .inr ⟨fun ur assigned => by simpa using (mem_select.mp assigned).2,
          fun rp mapped => by simpa using (mem_select.mp mapped).2⟩
      · obtain ⟨role, member, same, shown⟩ := usable
        refine .inl ⟨role, ?_, same, shown⟩
        rw [mem_select]
        exact ⟨member, by simpa [same] using gone⟩
  | _ =>
    rw [UsableRole, frame.roles (by simp [Write.changes])]
    exact .inl usable

theorem held_apply {session : Session} {db db' : Db} {write : Write}
    (held : ∀ ur ∈ db.userRoles, UsableRole db ur.tenantId ur.roleId) (keeps : Keeps db write)
    (applied : write.apply session db = some db') :
    ∀ ur ∈ db'.userRoles, UsableRole db' ur.tenantId ur.roleId := by
  intro ur assigned
  rcases mem_userRoles_apply applied assigned with ⟨old, before, same⟩ | inserts
  · rcases usable_apply keeps applied (held old before) with usable | gone
    · rw [same]
      exact usable
    · exact absurd (congrArg UserRoleEntity.roleId same) (gone.1 ur assigned)
  · subst inserts
    rw [UsableRole, (sameBut_apply applied).roles (by simp [Write.changes])]
    exact keeps

theorem consistent_apply {session : Session} {db db' : Db} {write : Write} (consistent : Consistent db)
    (keeps : Keeps db write) (applied : write.apply session db = some db') : Consistent db' := by
  refine ⟨held_apply consistent.held keeps applied, ?_⟩
  intro acl present
  rcases mem_resourceAcls_apply applied present with before | inserts
  · exact consistent.filled acl before
  · subst inserts
    exact keeps

/-- A custom role is only held in its own tenant. -/
theorem held_at_home {db : Db} {owner : Uuid} {ur : UserRoleEntity} (consistent : Consistent db)
    (custom : CustomRoleOf db owner ur.roleId) (assigned : ur ∈ db.userRoles) :
    ur.tenantId = owner := by
  obtain ⟨role, member, same, shown⟩ := consistent.held ur assigned
  obtain ⟨other, present, key, system, own⟩ := custom
  have whole : role = other := eq_of_key_eq member present (same.trans key.symm)
  subst whole
  rcases shown with isSystem | isOwn
  · rw [system] at isSystem
    cases isSystem
  · exact Option.some.inj (isOwn.symm.trans own)

/-! The footprint of a statement. -/

/-- The users whose permissions a statement of a tenant may change. -/
def Affects (owner tenantId userId : Uuid) : Write → Prop
  | .insertUserRole row | .updateUserRole row
  | .deleteUserRole row => row.tenantId = tenantId ∧ row.userId = userId
  | .insertOverride row | .updateOverride row
  | .deleteOverride row => row.tenantId = tenantId ∧ row.userId = userId
  | .insertRolePermission _ | .deleteRolePermission _ => owner = tenantId
  | _ => False

section Footprint
variable {now : Time} {owner tenantId userId : Uuid} {scope : Scope} {session : Session} {db db' : Db}

/-- Nobody has the role that is deleted. -/
theorem sameRows_deleteRole_unheld {roleId : Uuid} (unheld : ∀ ur ∈ db.userRoles, ur.roleId ≠ roleId) :
    SameRows now tenantId userId db (db.deleteRole session roleId) := by
  rcases deleteRole_eq session db roleId with same | changed
  · rw [same]
    exact .of_tables rfl rfl rfl rfl
  · rw [changed]
    refine ⟨rfl, ?_, ?_, fun _ _ _ => Iff.rfl⟩
    · intro ur _ _ _
      refine mem_select_away fun assigned hit => ?_
      exact unheld ur assigned (by simpa using hit)
    · intro ur assigned _ _ rp role
      refine mem_select_away fun _ hit => ?_
      rw [role] at hit
      exact unheld ur assigned (by simpa using hit)

theorem sameRows_deleteRole {row : RoleEntity} (consistent : Consistent db)
    (allowed : TenantWrite owner scope db (.deleteRole row)) :
    SameRows now tenantId userId db (db.deleteRole session row.id) := by
  obtain ⟨_, member, custom, own, nobody⟩ := allowed
  apply sameRows_deleteRole_unheld
  intro ur assigned holds
  have here := held_at_home consistent ⟨row, member, holds.symm, custom, own⟩ assigned
  exact nobody ur assigned here holds

/-- A statement of a tenant leaves the permissions of every user alone whom it does not
affect. -/
theorem sameRows_of_tenantWrite {write : Write} (consistent : Consistent db)
    (allowed : TenantWrite owner scope db write) (applied : write.apply session db = some db')
    (unaffected : ¬Affects owner tenantId userId write) : SameRows now tenantId userId db db' := by
  have frame := sameBut_apply applied
  cases write with
  | insertUser row | updateUser id change | insertRole row | updateRole row | insertAcl row
  | deleteAcl row =>
    exact .of_tables (frame.permissions (by simp [Write.changes]))
      (frame.userRoles (by simp [Write.changes]))
      (frame.rolePermissions (by simp [Write.changes]))
        (frame.userPermissionOverrides (by simp [Write.changes]))
  | deleteRole row =>
    cases applied
    exact sameRows_deleteRole consistent allowed
  | insertRolePermission row =>
    obtain ⟨rolePermissions, inserted, rfl⟩ := insertRolePermission_some applied
    refine ⟨rfl, fun _ _ _ _ => Iff.rfl, ?_, fun _ _ _ => Iff.rfl⟩
    intro ur assigned tenant _ rp role
    refine mem_insert_away inserted ?_
    intro same
    obtain rfl := same
    have custom : CustomRoleOf db owner ur.roleId := role ▸ allowed
    exact absurd ((held_at_home consistent custom assigned).symm.trans tenant) unaffected
  | deleteRolePermission row =>
    cases applied
    refine ⟨rfl, fun _ _ _ _ => Iff.rfl, ?_, fun _ _ _ => Iff.rfl⟩
    intro ur assigned tenant _ rp role
    simp only [Db.deleteRolePermission]
    refine mem_select_away fun present hit => ?_
    simp only [Bool.not_eq_false', Bool.and_eq_true, beq_iff_eq] at hit
    have whole : rp = row := eq_of_key_eq present allowed.1 hit.1
    subst whole
    have custom : CustomRoleOf db owner ur.roleId := role ▸ allowed.2
    exact unaffected ((held_at_home consistent custom assigned).symm.trans tenant)
  | insertUserRole row =>
    obtain ⟨userRoles, inserted, rfl⟩ := insertUserRole_some applied
    refine ⟨rfl, ?_, fun _ _ _ _ _ _ => Iff.rfl, fun _ _ _ => Iff.rfl⟩
    intro ur tenant user _
    refine mem_insert_away inserted ?_
    intro same
    obtain rfl := same
    exact absurd ⟨tenant, user⟩ unaffected
  | updateUserRole row =>
    cases applied
    obtain ⟨_, old, member, key, sameTenant, sameUser⟩ := allowed
    refine ⟨rfl, ?_, fun _ _ _ _ _ _ => Iff.rfl, fun _ _ _ => Iff.rfl⟩
    intro ur tenant user _
    simp only [Db.updateUserRole]
    refine mem_modify_away fun before present hit => ?_
    simp only [Bool.and_eq_true, beq_iff_eq] at hit
    have whole : before = old := eq_of_key_eq present member (hit.1.trans key.symm)
    subst whole
    refine ⟨?_, ?_⟩
    · intro same
      obtain rfl := same
      exact unaffected ⟨sameTenant.symm.trans tenant, sameUser.symm.trans user⟩
    · intro same
      obtain rfl := same
      exact unaffected ⟨sameTenant.symm.trans tenant, sameUser.symm.trans user⟩
  | deleteUserRole row =>
    cases applied
    refine ⟨rfl, ?_, fun _ _ _ _ _ _ => Iff.rfl, fun _ _ _ => Iff.rfl⟩
    intro ur tenant user _
    simp only [Db.deleteUserRole]
    refine mem_select_away fun present hit => ?_
    simp only [Bool.not_eq_false', Bool.and_eq_true, beq_iff_eq] at hit
    have whole : ur = row := eq_of_key_eq present allowed.2 hit.1
    subst whole
    exact unaffected ⟨tenant, user⟩
  | insertOverride row =>
    obtain ⟨overrides, inserted, rfl⟩ := insertOverride_some applied
    refine ⟨rfl, fun _ _ _ _ => Iff.rfl, fun _ _ _ _ _ _ => Iff.rfl, ?_⟩
    intro o tenant user
    refine mem_insert_away inserted ?_
    intro same
    obtain rfl := same
    exact absurd ⟨tenant, user⟩ unaffected
  | updateOverride row =>
    cases applied
    obtain ⟨_, old, member, key, sameTenant, sameUser⟩ := allowed
    refine ⟨rfl, fun _ _ _ _ => Iff.rfl, fun _ _ _ _ _ _ => Iff.rfl, ?_⟩
    intro o tenant user
    simp only [Db.updateOverride]
    refine mem_modify_away fun before present hit => ?_
    simp only [Bool.and_eq_true, beq_iff_eq] at hit
    have whole : before = old := eq_of_key_eq present member (hit.1.trans key.symm)
    subst whole
    refine ⟨?_, ?_⟩
    · intro same
      obtain rfl := same
      exact unaffected ⟨sameTenant.symm.trans tenant, sameUser.symm.trans user⟩
    · intro same
      obtain rfl := same
      exact unaffected ⟨sameTenant.symm.trans tenant, sameUser.symm.trans user⟩
  | deleteOverride row =>
    cases applied
    refine ⟨rfl, fun _ _ _ _ => Iff.rfl, fun _ _ _ _ _ _ => Iff.rfl, ?_⟩
    intro o tenant user
    simp only [Db.deleteOverride]
    refine mem_select_away fun present hit => ?_
    simp only [Bool.not_eq_false', Bool.and_eq_true, beq_iff_eq] at hit
    have whole : o = row := eq_of_key_eq present allowed.2 hit.1
    subst whole
    exact unaffected ⟨tenant, user⟩
  | _ => exact allowed.elim

/-- Purging what has expired changes no permission set. -/
theorem sameRows_deleteExpired :
    SameRows now tenantId userId db (db.deleteExpiredUserRoles session now) := by
  refine ⟨rfl, ?_, fun _ _ _ _ _ _ => Iff.rfl, fun _ _ _ => Iff.rfl⟩
  intro ur _ _ active
  simp only [Db.deleteExpiredUserRoles, mem_select]
  refine ⟨And.left, fun present => ⟨present, ?_⟩⟩
  cases expiry : ur.expiresAt with
  | none => simp [UserRoleEntity.expiredBefore, expiry]
  | some expiresAt =>
    simp only [activeAt, expiry, decide_eq_true_eq] at active
    have later : ¬expiresAt < now := Nat.lt_asymm active
    simp [UserRoleEntity.expiredBefore, expiry, later]

end Footprint

/-! ACL entries. -/

section Acl
variable {Id : Type} [Identifier Id] {tenantId : Id} {dto : CheckAclDto Id}
  {session : Session} {db db' : Db}

def Answers (tenantId : Id) (dto : CheckAclDto Id) (row : ResourceAclEntity) : Prop :=
  row.tenantId = value tenantId ∧ row.userId = value dto.userId ∧ row.resourceType = dto.resourceType ∧
    row.resourceId = dto.resourceId ∧ row.permission = dto.permission

theorem aclExists_congr
    (same : ∀ row, Answers tenantId dto row → (row ∈ db'.resourceAcls ↔ row ∈ db.resourceAcls)) :
    aclExists db' tenantId dto = aclExists db tenantId dto := by
  rw [Bool.eq_iff_iff, aclExists_iff, aclExists_iff]
  refine exists_congr fun row => and_congr_left fun answers => same row answers

def AffectsAcl (tenantId : Id) (dto : CheckAclDto Id) : Write → Prop
  | .insertAcl row | .deleteAcl row => Answers tenantId dto row
  | _ => False

theorem aclExists_of_tenantWrite {owner : Uuid} {scope : Scope} {write : Write}
    (allowed : TenantWrite owner scope db write) (applied : write.apply session db = some db')
    (unaffected : ¬AffectsAcl tenantId dto write) :
    aclExists db' tenantId dto = aclExists db tenantId dto := by
  apply aclExists_congr
  intro acl answers
  have frame := sameBut_apply applied
  cases write with
  | insertAcl row =>
    obtain ⟨resourceAcls, inserted, rfl⟩ := insertAcl_some applied
    refine mem_insert_away inserted ?_
    intro same
    obtain rfl := same
    exact absurd answers unaffected
  | deleteAcl row =>
    cases applied
    simp only [Db.deleteAcl]
    refine mem_select_away fun present hit => ?_
    simp only [Bool.not_eq_false', Bool.and_eq_true, beq_iff_eq] at hit
    have whole : acl = row := eq_of_key_eq present allowed.2 hit.1
    subst whole
    exact unaffected answers
  | _ => rw [frame.resourceAcls (by simp [Write.changes])]

end Acl
end GenericIam.Footprint
