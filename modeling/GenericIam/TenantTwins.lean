import GenericIam.TenantView

/-! Two databases that show a tenant the same: a statement of the tenant keeps them so,
and a statement of another tenant leaves what is shown alone. -/

namespace GenericIam.TenantTwins
open Table Database Transaction Handlers TenantWrites Footprint TenantView

section Twins
variable {tenantId : Uuid} {ids : Nat → Uuid} {scope : Scope} {db : Db}

/-- Both databases show the tenant the same, and of some ids it is sure that a user has
them in both or in neither. -/
structure Twins (tenantId : Uuid) (ids : Nat → Uuid) (settled : Uuid → Prop) (db db' : Db) : Prop where
  same : view tenantId db = view tenantId db'
  users : ∀ id, settled id → db.hasUser id = db'.hasUser id
  clear : Clear tenantId ids db
  clear' : Clear tenantId ids db'

theorem hasTenant_congr {db' : Db} (same : view tenantId db = view tenantId db') (id : Uuid) :
    db.hasTenant id = db'.hasTenant id := by
  have tenants : (view tenantId db).hasTenant id = (view tenantId db').hasTenant id := by rw [same]
  exact tenants

theorem hasPermissionRow_congr {db' : Db} (same : view tenantId db = view tenantId db') (id : Uuid) :
    db.hasPermissionRow id = db'.hasPermissionRow id := by
  have permissions : (view tenantId db).hasPermissionRow id =
    (view tenantId db').hasPermissionRow id := by rw [same]
  exact permissions

theorem named_all {db' : Db} {given : Option Uuid}
    (named : ∀ id, given = some id → db.hasUser id = db'.hasUser id) :
    given.all db.hasUser = given.all db'.hasUser := by
  cases given with
  | none => rfl
  | some id => exact named id rfl

/-- A statement of the tenant goes the same way on both, as long as generated keys are
clear. -/
theorem alike_of_tenantWrite {settled : Uuid → Prop} {db' : Db} {write : Write}
    (twins : Twins tenantId ids settled db db') (names : ∀ id, scope.names id → settled id)
    (allowed : TenantWrite tenantId scope db write) (generated : Generated ids write) :
    Alike tenantId db db' write := by
  obtain ⟨same, users, clear, clear'⟩ := twins
  have named : ∀ id, scope.names id → db.hasUser id = db'.hasUser id := fun id mentioned =>
    users id (names id mentioned)
  have allowed' : TenantWrite tenantId scope db' write := by
    rw [← tenantWrite_view, ← same, tenantWrite_view]
    exact allowed
  cases write with
  | insertUser row =>
    obtain ⟨index, id⟩ := generated _ rfl
    have managers := named_all fun managerId given => named managerId (allowed.2 managerId given)
    constructor
    · rw [view_insertUser allowed.1 fun other member key =>
        clear.users other member index (key.trans id),
        view_insertUser allowed.1 fun other member key =>
          clear'.users other member index (key.trans id), same, managers]
    · simp only [Write.missingReference, hasTenant_congr same, managers]
  | updateUser id change =>
    have managers : (change.managerId.getD none).all db.hasUser =
        (change.managerId.getD none).all db'.hasUser := by
      apply named_all
      intro managerId given
      apply named managerId (allowed.2 managerId _)
      cases written : change.managerId with
      | none =>
        rw [written] at given
        cases given
      | some manager =>
        rw [written] at given
        exact congrArg some given
    exact ⟨by rw [view_updateUser, view_updateUser, same, managers], rfl⟩
  | insertRole row =>
    obtain ⟨index, id⟩ := generated _ rfl
    have first : Commutes tenantId db (.insertRole row) :=
      commutes_insertRole allowed.1 (fun other member key =>
        clear.roles other member index (key.trans id))
        fun rp member key => clear.rolePermissions rp member index (.inr (key.trans id))
    have second : Commutes tenantId db' (.insertRole row) :=
      commutes_insertRole allowed.1 (fun other member key =>
        clear'.roles other member index (key.trans id))
        fun rp member key => clear'.rolePermissions rp member index (.inr (key.trans id))
    exact first.alike second same
  | updateRole row =>
    exact (commutes_updateRole allowed.2.1).alike (commutes_updateRole allowed.2.1) same
  | deleteRole row => exact commutes_deleteRole.alike commutes_deleteRole same
  | insertRolePermission row =>
    obtain ⟨index, id⟩ := generated _ rfl
    have first : Commutes tenantId db (.insertRolePermission row) :=
      commutes_insertRolePermission allowed fun other member key =>
        clear.rolePermissions other member index (.inl (key.trans id))
    have second : Commutes tenantId db' (.insertRolePermission row) :=
      commutes_insertRolePermission allowed' fun other member key =>
        clear'.rolePermissions other member index (.inl (key.trans id))
    exact first.alike second same
  | deleteRolePermission row =>
    exact commutes_deleteRolePermission.alike commutes_deleteRolePermission same
  | insertUserRole row =>
    obtain ⟨index, id⟩ := generated _ rfl
    have first : Commutes tenantId db (.insertUserRole row) :=
      commutes_insertUserRole allowed.1 allowed.2.1 allowed.2.2 fun other member key =>
        clear.userRoles other member index (key.trans id)
    have second : Commutes tenantId db' (.insertUserRole row) :=
      commutes_insertUserRole allowed'.1 allowed'.2.1 allowed'.2.2 fun other member key =>
        clear'.userRoles other member index (key.trans id)
    exact first.alike second same
  | updateUserRole row => exact commutes_updateUserRole.alike commutes_updateUserRole same
  | deleteUserRole row => exact commutes_deleteUserRole.alike commutes_deleteUserRole same
  | insertOverride row =>
    obtain ⟨index, id⟩ := generated _ rfl
    have users := named row.userId allowed.2
    constructor
    · rw [view_insertOverride allowed.1 fun other member key =>
        clear.overrides other member index (key.trans id),
        view_insertOverride allowed.1 fun other member key =>
          clear'.overrides other member index (key.trans id), same, users]
    · simp only [Write.missingReference, hasTenant_congr same, hasPermissionRow_congr same, users]
  | updateOverride row => exact commutes_updateOverride.alike commutes_updateOverride same
  | deleteOverride row => exact commutes_deleteOverride.alike commutes_deleteOverride same
  | insertAcl row =>
    obtain ⟨index, id⟩ := generated _ rfl
    have users := named row.userId allowed.2.1
    constructor
    · rw [view_insertAcl allowed.1 fun other member key => clear.acls other member index (key.trans id),
        view_insertAcl allowed.1 fun other member key =>
          clear'.acls other member index (key.trans id), same, users]
    · simp only [Write.missingReference, hasTenant_congr same, users]
  | deleteAcl row => exact commutes_deleteAcl.alike commutes_deleteAcl same
  | _ => exact allowed.elim

/-! What a statement of the tenant keeps. -/

theorem clear_apply {db' : Db} {write : Write} (clear : Clear tenantId ids db)
    (allowed : TenantWrite tenantId scope db write)
    (applied : write.apply (.tenantUser tenantId) db = some db') : Clear tenantId ids db' where
  users user present index same := by
    rcases mem_users_apply applied present with ⟨old, before, key, tenant⟩ | inserts
    · rw [← tenant]
      exact clear.users old before index (key.trans same)
    · subst inserts
      exact allowed.1
  roles role present index same := by
    rcases mem_roles_apply applied present with before | inserts | ⟨row, updates, old, before, _, whole⟩
    · exact clear.roles role before index same
    · subst inserts
      exact .inr allowed.1
    · subst updates
      rw [whole]
      exact .inr allowed.2.1
  rolePermissions rp present index same := by
    have usable : UsableRole db tenantId rp.roleId := by
      rcases mem_rolePermissions_apply applied present with before | inserts
      · exact clear.rolePermissions rp before index same
      · subst inserts
        obtain ⟨role, member, key, _, own⟩ := allowed
        exact ⟨role, member, key, .inr own⟩
    rcases usable_apply (keeps_of_tenantWrite allowed) applied usable with still | gone
    · exact still
    · exact absurd rfl (gone.2 rp present)
  userRoles ur present index same := by
    rcases mem_userRoles_apply applied present with ⟨old, before, whole⟩ | inserts
    · rw [whole] at same ⊢
      exact clear.userRoles old before index same
    · subst inserts
      exact allowed.1
  overrides row present index same := by
    rcases mem_overrides_apply applied present with ⟨old, before, whole⟩ | inserts
    · rw [whole] at same ⊢
      exact clear.overrides old before index same
    · subst inserts
      exact allowed.1
  acls row present index same := by
    rcases mem_resourceAcls_apply applied present with before | inserts
    · exact clear.acls row before index same
    · subst inserts
      exact allowed.1

theorem hasUser_iff {id : Uuid} : db.hasUser id = true ↔ ∃ user ∈ db.users, user.id = id := by
  simp [Db.hasUser, any_iff]

/-- Which users are there after a statement depends on which were there before it alone. -/
theorem hasUser_apply {session : Session} {db' : Db} {write : Write}
    (applied : write.apply session db = some db') (id : Uuid) :
    db'.hasUser id = true ↔ db.hasUser id = true ∨ ∃ row, write = .insertUser row ∧ row.id = id := by
  rw [hasUser_iff, hasUser_iff]
  constructor
  · intro found
    obtain ⟨user, present, same⟩ := found
    rcases mem_users_apply applied present with ⟨old, before, key, _⟩ | inserts
    · exact .inl ⟨old, before, key.trans same⟩
    · exact .inr ⟨user, inserts, same⟩
  · intro found
    rcases found with ⟨old, before, same⟩ | ⟨row, inserts, same⟩
    · obtain ⟨user, present, key, _⟩ := users_kept applied before
      exact ⟨user, present, key.trans same⟩
    · subst inserts
      simp only [Write.apply] at applied
      split at applied
      · obtain ⟨users, inserted, rfl⟩ := insertUser_some applied
        exact ⟨row, (mem_insert inserted).mpr (.inr rfl), same⟩
      · cases applied

theorem hasUser_congr {session session' : Session} {db' next next' : Db} {write : Write} {id : Uuid}
    (applied : write.apply session db = some next) (applied' : write.apply session' db' = some next')
    (same : db.hasUser id = db'.hasUser id) : next.hasUser id = next'.hasUser id := by
  rw [Bool.eq_iff_iff, hasUser_apply applied, hasUser_apply applied', same]

/-- Statement by statement, twins stay twins. -/
theorem Twins.lockstep (Id : Type) {settled : Uuid → Prop} {db' : Db} {write : Write}
    (twins : Twins tenantId ids settled db db') (names : ∀ id, scope.names id → settled id)
    (allowed : TenantWrite tenantId scope db write) (generated : Generated ids write) :
    Lockstep (Twins tenantId ids settled) ((engine Id (.tenantUser tenantId)).apply write db)
      ((engine Id (.tenantUser tenantId)).apply write db') := by
  obtain ⟨went, references⟩ := alike_of_tenantWrite twins names allowed generated
  have allowed' : TenantWrite tenantId scope db' write := by
    rw [← tenantWrite_view, ← twins.same, tenantWrite_view]
    exact allowed
  simp only [engine, send]
  cases first : write.apply (.tenantUser tenantId) db with
  | none =>
    cases second : write.apply (.tenantUser tenantId) db' with
    | none => simp only [Lockstep, references]
    | some next' =>
      rw [first, second] at went
      cases went
  | some next =>
    cases second : write.apply (.tenantUser tenantId) db' with
    | none =>
      rw [first, second] at went
      cases went
    | some next' =>
      rw [first, second] at went
      exact ⟨Option.some.inj went, fun id known => hasUser_congr first second (twins.users id known),
        clear_apply twins.clear allowed first, clear_apply twins.clear' allowed' second⟩

/-- Revoking refresh tokens goes unseen. -/
theorem Twins.revoked {settled : Uuid → Prop} {db' : Db} (twins : Twins tenantId ids settled db db')
    (userId : Uuid) :
    Twins tenantId ids settled (db.deleteRefreshTokensOf userId)
      (db'.deleteRefreshTokensOf userId) where
  same := twins.same
  users := twins.users
  clear := ⟨twins.clear.users, twins.clear.roles, twins.clear.rolePermissions, twins.clear.userRoles,
    twins.clear.overrides,
    twins.clear.acls⟩
  clear' := ⟨twins.clear'.users, twins.clear'.roles, twins.clear'.rolePermissions,
    twins.clear'.userRoles, twins.clear'.overrides,
    twins.clear'.acls⟩

end Twins

/-! What a statement of another tenant does to the view: nothing. -/

section Foreign
variable {tenantId owner : Uuid} {scope : Scope} {db db' : Db}

theorem admits_foreign {other : Uuid} (foreign : owner ≠ tenantId) (own : other = owner) :
    Session.admits (.tenantUser tenantId) other = false := by
  subst own
  simpa [Session.admits] using foreign

section Tables
variable {Row : Type} [Keyed Row Uuid] {table : Table Row} {tenantOf : Row → Uuid} {picked : Row → Bool}

theorem modify_foreign (foreign : owner ≠ tenantId) {change : Row → Row}
    (keeps : ∀ row, key (change row) = key row)
    (stays : ∀ row, tenantOf (change row) = tenantOf row) :
    (table.modify (fun row => picked row && Session.admits (.tenantUser owner) (tenantOf row))
      change keeps).select
        (fun row => Session.admits (.tenantUser tenantId) (tenantOf row)) =
      table.select fun row => Session.admits (.tenantUser tenantId) (tenantOf row) := by
  apply modify_hidden
  intro row _ hit
  simp only [Bool.and_eq_true] at hit
  have own := admits_iff.mp hit.2
  exact ⟨admits_foreign foreign own, admits_foreign foreign ((stays row).trans own)⟩

theorem delete_foreign (foreign : owner ≠ tenantId) :
    (table.select fun row => !(picked row && Session.admits (.tenantUser owner) (tenantOf row))).select
        (fun row => Session.admits (.tenantUser tenantId) (tenantOf row)) =
      table.select fun row => Session.admits (.tenantUser tenantId) (tenantOf row) := by
  apply select_hidden
  intro row _ visible
  have other : tenantOf row ≠ owner := by
    intro own
    exact foreign (own.symm.trans (admits_iff.mp visible))
  simp [Session.admits, other]

end Tables

/-- A custom role is usable in its own tenant only. -/
theorem usable_at_home {roleId : Uuid} (custom : CustomRoleOf db owner roleId)
    (usable : UsableRole db tenantId roleId) :
    owner = tenantId := by
  obtain ⟨role, member, same, isCustom, own⟩ := custom
  obtain ⟨other, present, key, shows⟩ := usable
  have whole : other = role := eq_of_key_eq present member (key.trans same.symm)
  subst whole
  rcases shows with isSystem | isOwn
  · rw [isCustom] at isSystem
    cases isSystem
  · exact Option.some.inj (own.symm.trans isOwn)

theorem hidden_role {role : RoleEntity} (foreign : owner ≠ tenantId) (own : role.tenantId = some owner)
    (custom : role.isSystem = false) : Session.admitsRole (.tenantUser tenantId) role = false := by
  simpa [Session.admitsRole, own, custom] using foreign

theorem foreign_insertRole {row : RoleEntity} (foreign : owner ≠ tenantId)
    (own : row.tenantId = some owner) (custom : row.isSystem = false)
    (applied : db.insertRole (.tenantUser owner) row = some db') :
    view tenantId db' = view tenantId db := by
  obtain ⟨roles, inserted, rfl⟩ := insertRole_some applied
  have hidden := hidden_role foreign own custom
  refine Db.ext rfl rfl rfl rfl (insert_hidden inserted hidden) ?_ rfl rfl rfl rfl rfl
  apply select_rolePermissions
  intro rp _
  constructor
  · intro usable
    obtain ⟨role, present, same, shows⟩ := usable
    rcases (mem_insert inserted).mp present with before | new
    · exact ⟨role, before, same, shows⟩
    · subst new
      rw [admitsRole_iff.mpr shows] at hidden
      cases hidden
  · intro usable
    exact usable_mono usable fun role present => (mem_insert inserted).mpr (.inl present)

theorem foreign_updateRole {row : RoleEntity} (foreign : owner ≠ tenantId)
    (before : CustomRoleOf db owner row.id) (own : row.tenantId = some owner)
    (custom : row.isSystem = false) (applied : db.updateRole (.tenantUser owner) row = some db') :
    view tenantId db' = view tenantId db := by
  cases updateRole_some applied
  have target : ∀ role ∈ db.roles,
    (role.id == row.id && Session.admitsRole (.tenantUser owner) role) = true →
      Session.admitsRole (.tenantUser tenantId) role = false := by
    intro role member hit
    simp only [Bool.and_eq_true, beq_iff_eq] at hit
    obtain ⟨old, present, same, oldCustom, oldOwn⟩ := before
    have whole : role = old := eq_of_key_eq member present (hit.1.trans same.symm)
    subst whole
    exact hidden_role foreign oldOwn oldCustom
  refine Db.ext rfl rfl rfl rfl ?_ ?_ rfl rfl rfl rfl rfl
  · apply modify_hidden
    · intro _
      rfl
    · intro role member hit
      exact ⟨target role member hit, hidden_role foreign own custom⟩
  · apply select_rolePermissions
    intro rp _
    constructor
    · intro usable
      obtain ⟨role, present, same, shows⟩ := usable
      rw [mem_modify] at present
      rcases present with ⟨old, _⟩ | ⟨old, _, _, changed⟩
      · exact ⟨role, old, same, shows⟩
      · have hidden : Session.admitsRole (.tenantUser tenantId) row = false :=
          hidden_role foreign own custom
        subst changed
        rw [Session.admitsRole] at hidden
        have shown := admitsRole_iff.mpr shows
        rw [Session.admitsRole] at shown
        rw [hidden] at shown
        cases shown
    · intro usable
      obtain ⟨role, present, same, shows⟩ := usable
      refine ⟨role, ?_, same, shows⟩
      rw [mem_modify]
      refine .inl ⟨present, ?_⟩
      by_contra hit
      rw [Bool.not_eq_false] at hit
      have hidden := target role present hit
      rw [admitsRole_iff.mpr shows] at hidden
      cases hidden

theorem foreign_deleteRole {row : RoleEntity} (foreign : owner ≠ tenantId) (consistent : Consistent db)
    (custom : CustomRoleOf db owner row.id) :
    view tenantId (db.deleteRole (.tenantUser owner) row.id) = view tenantId db := by
  rcases deleteRole_eq (.tenantUser owner) db row.id with same | changed
  · rw [same]
  · rw [changed]
    have spared : ∀ {roleId : Uuid}, UsableRole db tenantId roleId → roleId ≠ row.id := by
      intro roleId usable same
      subst same
      exact foreign (usable_at_home custom usable)
    refine Db.ext rfl rfl rfl rfl ?_ ?_ ?_ rfl rfl rfl rfl
    · apply select_hidden
      intro role member shows
      simpa using spared ⟨role, member, rfl, admitsRole_iff.mp shows⟩
    · refine (select_deleted row.id).trans (select_hidden ?_)
      intro rp _ shows
      simpa using spared (admitsRolePermission_iff.mp shows)
    · apply select_hidden
      intro ur member shows
      have usable := consistent.held ur member
      rw [admits_iff.mp shows] at usable
      simpa using spared usable

/-- A statement of another tenant goes unseen. -/
theorem view_of_foreignWrite {write : Write} (foreign : owner ≠ tenantId)
    (consistent : Consistent db) (allowed : TenantWrite owner scope db write)
    (applied : write.apply (.tenantUser owner) db = some db') :
    view tenantId db' = view tenantId db := by
  cases write with
  | insertUser row =>
    simp only [Write.apply] at applied
    split at applied
    · obtain ⟨users, inserted, rfl⟩ := insertUser_some applied
      exact Db.ext rfl (insert_hidden inserted (admits_foreign foreign allowed.1)) rfl rfl rfl rfl
        rfl rfl rfl rfl rfl
    · cases applied
  | updateUser id change =>
    cases updateUser_some applied
    exact Db.ext rfl (modify_foreign foreign change.key_apply fun _ =>
      rfl) rfl rfl rfl rfl rfl rfl rfl rfl rfl
  | insertRole row => exact foreign_insertRole foreign allowed.1 allowed.2 applied
  | updateRole row => exact foreign_updateRole foreign allowed.1 allowed.2.1 allowed.2.2 applied
  | deleteRole row =>
    cases applied
    obtain ⟨_, member, custom, own, _⟩ := allowed
    exact foreign_deleteRole foreign consistent ⟨row, member, rfl, custom, own⟩
  | insertRolePermission row =>
    obtain ⟨rolePermissions, inserted, rfl⟩ := insertRolePermission_some applied
    have hidden : Session.admitsRolePermission (.tenantUser tenantId) db row = false := by
      rw [← Bool.not_eq_true, admitsRolePermission_iff]
      intro usable
      exact foreign (usable_at_home allowed usable)
    exact Db.ext rfl rfl rfl rfl rfl (insert_hidden inserted hidden) rfl rfl rfl rfl rfl
  | deleteRolePermission row =>
    cases applied
    refine Db.ext rfl rfl rfl rfl rfl ?_ rfl rfl rfl rfl rfl
    apply select_hidden
    intro rp present shows
    have another : rp.id ≠ row.id := by
      intro same
      have whole : rp = row := eq_of_key_eq present allowed.1 same
      subst whole
      exact foreign (usable_at_home allowed.2 (admitsRolePermission_iff.mp shows))
    simp [another]
  | insertUserRole row =>
    obtain ⟨_, inserted, rfl⟩ := insertUserRole_some applied
    exact Db.ext rfl rfl rfl rfl rfl rfl
      (insert_hidden inserted (admits_foreign foreign allowed.1)) rfl rfl rfl rfl
  | updateUserRole row =>
    cases applied
    refine Db.ext rfl rfl rfl rfl rfl rfl (modify_foreign foreign ?_ ?_) rfl rfl rfl rfl
    · intro _
      rfl
    · intro _
      rfl
  | deleteUserRole row =>
    cases applied
    exact Db.ext rfl rfl rfl rfl rfl rfl (delete_foreign foreign) rfl rfl rfl rfl
  | insertOverride row =>
    obtain ⟨_, inserted, rfl⟩ := insertOverride_some applied
    exact Db.ext rfl rfl rfl rfl rfl rfl rfl
      (insert_hidden inserted (admits_foreign foreign allowed.1)) rfl rfl rfl
  | updateOverride row =>
    cases applied
    refine Db.ext rfl rfl rfl rfl rfl rfl rfl (modify_foreign foreign ?_ ?_) rfl rfl rfl
    · intro _
      rfl
    · intro _
      rfl
  | deleteOverride row =>
    cases applied
    exact Db.ext rfl rfl rfl rfl rfl rfl rfl (delete_foreign foreign) rfl rfl rfl
  | insertAcl row =>
    obtain ⟨_, inserted, rfl⟩ := insertAcl_some applied
    exact Db.ext rfl rfl rfl rfl rfl rfl rfl rfl
      (insert_hidden inserted (admits_foreign foreign allowed.1)) rfl rfl
  | deleteAcl row =>
    cases applied
    exact Db.ext rfl rfl rfl rfl rfl rfl rfl rfl (delete_foreign foreign) rfl rfl
  | _ => exact allowed.elim

end Foreign
end GenericIam.TenantTwins
