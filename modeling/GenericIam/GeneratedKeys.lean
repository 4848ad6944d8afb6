import GenericIam.TenantTwins

/-! Generated keys that no row has yet, and what a request that draws other keys leaves of
them. -/

namespace GenericIam.GeneratedKeys
open Table Database Transaction Handlers TenantWrites Footprint TenantView TenantTwins

/-- No row has one of the keys; that no user and no mapping refers to one follows from
the foreign keys. -/
structure Unused (drawn : Uuid → Prop) (db : Db) : Prop where
  tenants : ∀ row ∈ db.tenants, ¬drawn row.id
  users : ∀ row ∈ db.users, ¬drawn row.id ∧ ¬drawn row.tenantId
  roles : ∀ row ∈ db.roles, ¬drawn row.id
  rolePermissions : ∀ row ∈ db.rolePermissions, ¬drawn row.id ∧ ¬drawn row.roleId
  userRoles : ∀ row ∈ db.userRoles, ¬drawn row.id
  overrides : ∀ row ∈ db.userPermissionOverrides, ¬drawn row.id
  acls : ∀ row ∈ db.resourceAcls, ¬drawn row.id

section Statement
variable {drawn : Uuid → Prop} {session : Session} {db db' : Db} {write : Write}

theorem Unused.clear {tenantId : Uuid} {ids : Nat → Uuid}
    (unused : Unused (fun id => ∃ index, id = ids index) db) :
    Clear tenantId ids db where
  users row member index same := absurd ⟨index, same⟩ (unused.users row member).1
  roles row member index same := absurd ⟨index, same⟩ (unused.roles row member)
  rolePermissions row member index same := by
    obtain ⟨own, role⟩ := unused.rolePermissions row member
    rcases same with key | mapped
    · exact absurd ⟨index, key⟩ own
    · exact absurd ⟨index, mapped⟩ role
  userRoles row member index same := absurd ⟨index, same⟩ (unused.userRoles row member)
  overrides row member index same := absurd ⟨index, same⟩ (unused.overrides row member)
  acls row member index same := absurd ⟨index, same⟩ (unused.acls row member)

theorem insertUser_tenant {row : UserEntity} (applied : db.insertUser row = some db') :
    ∃ tenant ∈ db.tenants, tenant.id = row.tenantId := by
  simp only [Db.insertUser] at applied
  split at applied
  · cases applied
  · next passed =>
    simp only [Bool.or_eq_true, Bool.not_eq_true', not_or, Bool.and_eq_false_iff, not_or,
      Bool.not_eq_false] at passed
    obtain ⟨tenant, member, matched⟩ := any_iff.mp passed.1.1
    exact ⟨tenant, member, beq_iff_eq.mp matched⟩

theorem insertRolePermission_role {row : RolePermissionEntity}
    (applied : db.insertRolePermission session row = some db') :
    ∃ role ∈ db.roles, role.id = row.roleId := by
  simp only [Db.insertRolePermission] at applied
  split at applied
  · next passed =>
    simp only [Bool.and_eq_true] at passed
    obtain ⟨role, member, matched⟩ := any_iff.mp passed.1.1
    exact ⟨role, member, beq_iff_eq.mp matched⟩
  · cases applied

/-- Only an insert takes a key into use. -/
theorem unused_apply (unused : Unused drawn db) (applied : write.apply session db = some db')
    (apart : ∀ id, write.insertedId = some id → ¬drawn id) : Unused drawn db' where
  tenants row present := by
    rcases mem_tenants_apply applied present with ⟨old, before, key⟩ | rfl
    · rw [← key]
      exact unused.tenants old before
    · exact apart _ rfl
  users row present := by
    rcases mem_users_apply applied present with ⟨old, before, key, tenant⟩ | rfl
    · rw [← key, ← tenant]
      exact unused.users old before
    · refine ⟨apart _ rfl, ?_⟩
      simp only [Write.apply] at applied
      split at applied
      · obtain ⟨tenant, member, same⟩ := insertUser_tenant applied
        rw [← same]
        exact unused.tenants tenant member
      · cases applied
  roles row present := by
    rcases mem_roles_apply applied present with before | rfl | ⟨other, _, old, before, _, whole⟩
    · exact unused.roles row before
    · exact apart _ rfl
    · rw [whole]
      exact unused.roles old before
  rolePermissions row present := by
    rcases mem_rolePermissions_apply applied present with before | rfl
    · exact unused.rolePermissions row before
    · obtain ⟨role, member, same⟩ := insertRolePermission_role applied
      rw [← same]
      exact ⟨apart _ rfl, unused.roles role member⟩
  userRoles row present := by
    rcases mem_userRoles_apply applied present with ⟨old, before, whole⟩ | rfl
    · rw [whole]
      exact unused.userRoles old before
    · exact apart _ rfl
  overrides row present := by
    rcases mem_overrides_apply applied present with ⟨old, before, whole⟩ | rfl
    · rw [whole]
      exact unused.overrides old before
    · exact apart _ rfl
  acls row present := by
    rcases mem_resourceAcls_apply applied present with before | rfl
    · exact unused.acls row before
    · exact apart _ rfl

end Statement

/-- What becomes of the keys and the users in a request that draws some keys: other keys
stay unused, no user goes away, and a new user has one of the keys drawn. -/
structure Draws (ids : Nat → Uuid) (db db' : Db) : Prop where
  unused : ∀ drawn : Uuid → Prop, (∀ index, ¬drawn (ids index)) → Unused drawn db → Unused drawn db'
  users : ∀ id, db.hasUser id = true → db'.hasUser id = true
  newUsers : ∀ id, db'.hasUser id = true → db.hasUser id = true ∨ ∃ index, id = ids index

section Requests
variable {Id α : Type} {ids : Nat → Uuid} {session : Session} {db : Db}

theorem draws_refl : Draws ids db db :=
  ⟨fun _ _ unused => unused, fun _ present => present, fun _ present => .inl present⟩

theorem draws_write {before after : Db} {write : Write} (draws : Draws ids db before)
    (generated : Generated ids write) (applied : write.apply session before = some after) :
    Draws ids db after where
  unused drawn apart unused := by
    apply unused_apply (draws.unused drawn apart unused) applied
    intro id inserted taken
    obtain ⟨index, same⟩ := generated id inserted
    rw [same] at taken
    exact apart index taken
  users id present := (hasUser_apply applied id).mpr (.inl (draws.users id present))
  newUsers id present := by
    rcases (hasUser_apply applied id).mp present with old | ⟨row, inserts, same⟩
    · exact draws.newUsers id old
    · subst inserts
      obtain ⟨index, key⟩ := generated _ rfl
      exact .inr ⟨index, same.symm.trans key⟩

/-- A request whose inserts take generated keys draws no others. -/
theorem draws_serve {monitor : Monitor (effects Id) Db} {handler : Handler Id α}
    {post : α → Tx (effects Id) Db → Prop} {fail : HttpException → Tx (effects Id) Db → Prop}
    (holds : wp (engine Id session) ids monitor handler post fail { db })
    (generated : ∀ {there write}, monitor.write there write → Generated ids write)
    (revokes : ∀ {there write}, monitor.detached there write →
      ∃ userId, write = .deleteRefreshTokensOf userId) :
    Draws ids db (serve (engine Id session) ids handler db).db := by
  apply serve_invariant holds draws_refl
  · intro _ _ _ _ stmt _ before allowed applied
    exact draws_write before (generated allowed) (send_ok applied)
  · intro _ during _ after allowed before applied
    obtain ⟨userId, rfl⟩ := revokes allowed
    have sent : send .bypassRls (.deleteRefreshTokensOf userId) during = .ok after := applied
    refine draws_write before ?_ (send_ok sent)
    intro id inserted
    cases inserted

end Requests
end GenericIam.GeneratedKeys
