import GenericIam.AuthorizationCheck

/-! Giving more never takes away: what is allowed stays allowed when assignments, mappings,
grants and ACL entries are added, and denials taken away. -/

namespace GenericIam.Monotonicity
open Table Database PermissionMatcher EffectivePermissions
open Identifiers CacheKeys AuthorizationCheck

def Outlasted (expiresAt expiresAt' : Option Time) : Prop :=
  expiresAt' = none ∨ ∃ earlier ∈ expiresAt, ∃ later ∈ expiresAt', earlier ≤ later

/-- The second database gives at least what the first gives, row by row: rows are compared
by what they say, not by their ids. -/
structure GivesMore (db db' : Db) : Prop where
  catalogue : ∀ p, p ∈ db'.permissions ↔ p ∈ db.permissions
  assignments : ∀ ur ∈ db.userRoles, ∃ ur' ∈ db'.userRoles,
    ur'.tenantId = ur.tenantId ∧ ur'.userId = ur.userId ∧ ur'.roleId = ur.roleId ∧
      Outlasted ur.expiresAt ur'.expiresAt
  mappings : ∀ rp ∈ db.rolePermissions, ∃ rp' ∈ db'.rolePermissions, rp'.roleId = rp.roleId ∧
    rp'.permissionId = rp.permissionId
  grants : ∀ o ∈ db.userPermissionOverrides, o.overrideType = .grant →
    ∃ o' ∈ db'.userPermissionOverrides,
    o'.tenantId = o.tenantId ∧ o'.userId = o.userId ∧ o'.permissionId = o.permissionId ∧
      o'.overrideType = .grant
  denials : ∀ o' ∈ db'.userPermissionOverrides, o'.overrideType = .deny →
    ∃ o ∈ db.userPermissionOverrides,
    o.tenantId = o'.tenantId ∧ o.userId = o'.userId ∧ o.permissionId = o'.permissionId ∧
      o.overrideType = .deny
  acls : ∀ acl ∈ db.resourceAcls, ∃ acl' ∈ db'.resourceAcls,
    acl'.tenantId = acl.tenantId ∧ acl'.userId = acl.userId ∧ acl'.resourceType = acl.resourceType ∧
      acl'.resourceId = acl.resourceId ∧ acl'.permission = acl.permission

section Rows
variable {db db' : Db} {now : Time} {userId tenantId : Uuid} {p : PermissionEntity}

/-- What is in force at an instant is still in force then if it lasts longer. -/
theorem active_of_outlasted {ur ur' : UserRoleEntity}
    (longer : Outlasted ur.expiresAt ur'.expiresAt) (active : activeAt now ur = true) :
    activeAt now ur' = true := by
  rcases longer with never | ⟨earlier, expires, later, expires', order⟩
  · simp [activeAt, never]
  · have before : now < earlier := by simpa [activeAt, Option.mem_def.mp expires] using active
    have after : now < later := Nat.lt_of_lt_of_le before order
    simpa [activeAt, Option.mem_def.mp expires'] using after

theorem GivesMore.roleGrants (more : GivesMore db db') (granted : RoleGrants db now userId tenantId p) :
    RoleGrants db' now userId tenantId p := by
  obtain ⟨ur, assigned, ⟨user, tenant, active⟩, rp, mapped, permission, role⟩ := granted
  obtain ⟨ur', assigned', tenant', user', role', longer⟩ := more.assignments ur assigned
  obtain ⟨rp', mapped', mappedRole, mappedPermission⟩ := more.mappings rp mapped
  refine ⟨ur', assigned', ⟨user'.trans user, tenant'.trans tenant, active_of_outlasted longer active⟩,
    rp', mapped', ?_, ?_⟩
  · exact mappedPermission.trans permission
  · exact mappedRole.trans (role.trans role'.symm)

theorem GivesMore.granted (more : GivesMore db db') (granted : Overrides db .grant userId tenantId p) :
    Overrides db' .grant userId tenantId p := by
  obtain ⟨o, present, user, tenant, type, permission⟩ := granted
  obtain ⟨o', present', tenant', user', permission', type'⟩ := more.grants o present type
  exact ⟨o', present', user'.trans user, tenant'.trans tenant, type', permission'.trans permission⟩

theorem GivesMore.denied (more : GivesMore db db') (denied : Overrides db' .deny userId tenantId p) :
    Overrides db .deny userId tenantId p := by
  obtain ⟨o', present', user, tenant, type, permission⟩ := denied
  obtain ⟨o, present, tenant', user', permission', type'⟩ := more.denials o' present' type
  exact ⟨o, present, user'.trans user, tenant'.trans tenant, type', permission'.trans permission⟩

theorem GivesMore.codes (more : GivesMore db db') (now : Time) (userId tenantId : Uuid) :
    ∀ code ∈ effectiveCodes db now userId tenantId, code ∈ effectiveCodes db' now userId tenantId := by
  intro code effective
  rw [mem_effectiveCodes] at effective ⊢
  obtain ⟨p, member, granted, free, same⟩ := effective
  exact ⟨p, (more.catalogue p).mpr member, granted.imp more.roleGrants more.granted, fun denied =>
    free (more.denied denied), same⟩

theorem GivesMore.aclExists {Id : Type} [Identifier Id] (more : GivesMore db db') {tenantId : Id}
    {dto : CheckAclDto Id} (listed : AuthorizationCheck.aclExists db tenantId dto = true) :
    AuthorizationCheck.aclExists db' tenantId dto = true := by
  rw [aclExists_iff] at listed ⊢
  obtain ⟨acl, present, tenant, user, type, id, permission⟩ := listed
  obtain ⟨acl', present', tenant', user', type', id', permission'⟩ := more.acls acl present
  exact ⟨acl', present', tenant'.trans tenant, user'.trans user, type'.trans type, id'.trans id,
    permission'.trans permission⟩

end Rows

section Check
variable {Id Key : Type} [Identifier Id] [DecidableEq Key] {db db' : Db}

theorem GivesMore.decision (more : GivesMore db db') {now : Time} {dto : CheckAuthzDto Id}
    (allowed : AuthorizationCheck.decision db now dto = true) :
    AuthorizationCheck.decision db' now dto = true := by
  unfold AuthorizationCheck.decision at allowed ⊢
  rw [Bool.or_eq_true] at allowed ⊢
  rcases allowed with role | listed
  · exact .inl (hasPermission_mono (more.codes now _ _) role)
  · right
    cases asked : dto.resource with
    | none =>
      rw [asked] at listed
      cases listed
    | some resource =>
      rw [asked] at listed
      exact more.aclExists listed

/-- A check that nothing is cached for. -/
theorem check_monotone (keys : KeyScheme Id Key) (more : GivesMore db db') (now : Time)
    (dto : CheckAuthzDto Id) (allowed : (check keys db now Store.empty dto).1.allowed = true) :
    (check keys db' now Store.empty dto).1.allowed = true := by
  rw [check_empty] at allowed ⊢
  exact more.decision allowed

end Check

/-! Two states of one tenant: the assignment is prolonged, the denial lifted, a second
mapping and an ACL entry are there. -/

section Example

def reading : PermissionEntity := ⟨1, "report.*", "report", none, none⟩

def before : Db where
  permissions := ⟨[reading, ⟨2, "report.write", "report", none, none⟩], by decide⟩
  rolePermissions := ⟨[⟨11, 21, 1⟩], by decide⟩
  userRoles := ⟨[⟨31, 41, 51, 21, some 9⟩], by decide⟩
  userPermissionOverrides := ⟨[⟨61, 41, 51, 2, .deny, ""⟩], by decide⟩

def after : Db where
  permissions := ⟨[reading, ⟨2, "report.write", "report", none, none⟩], by decide⟩
  rolePermissions := ⟨[⟨12, 21, 2⟩, ⟨11, 21, 1⟩], by decide⟩
  userRoles := ⟨[⟨31, 41, 51, 21, none⟩], by decide⟩
  resourceAcls := ⟨[⟨71, 41, 51, "doc", "7", "doc.read"⟩], by decide⟩

theorem more_after : GivesMore before after where
  catalogue _ := Iff.rfl
  assignments := by
    intro ur assigned
    rw [List.mem_singleton.mp assigned]
    exact ⟨_, List.mem_singleton_self _, rfl, rfl, rfl, .inl rfl⟩
  mappings := by decide
  grants := by decide
  denials := by decide
  acls := by decide

theorem check_monotone_after :
    (check tupleKeys after 5 Store.empty ⟨51, 41, "report.read", none, none⟩).1.allowed = true :=
  check_monotone tupleKeys more_after 5 ⟨51, 41, "report.read", none, none⟩ (by decide)

end Example
end GenericIam.Monotonicity
