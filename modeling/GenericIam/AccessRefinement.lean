import GenericIam.AccessModel
import GenericIam.Controllers
import GenericIam.HeldRoles
import GenericIam.SuperAdminRequests
import GenericIam.Statements

/-! The tables of roles, permissions, overrides and shared objects as the state of the access
model, and what the requests of the service are in it. -/

namespace GenericIam.AccessRefinement
open Table Database EffectivePermissions PermissionMatcher Identifiers CacheKeys
open AuthorizationCheck Transaction Handlers RbacServices AccountServices TenantWrites
open Operations ReachableStates SuperAdminRequests Controllers HeldRoles AccessModel

/-! The state of the model. -/

abbrev Object : Type := String × String × String

abbrev AccessState : Type := Access Uuid Uuid Uuid Uuid Object Time

abbrev AccessCommand : Type := Command Uuid Uuid Uuid Uuid Object Time

def mapping (row : RolePermissionEntity) : Uuid × Uuid := (row.roleId, row.permissionId)

def overriding (row : UserPermissionOverrideEntity) : Uuid × Uuid × Uuid :=
  (row.tenantId, row.userId, row.permissionId)

def sharing (row : ResourceAclEntity) : Uuid × Uuid × Object :=
  (row.tenantId, row.userId, row.resourceType, row.resourceId, row.permission)

def verdict : OverrideType → Verdict
  | .grant => .grant
  | .deny => .deny

def access (db : Db) : AccessState where
  assigned := assignments db
  mapped := index mapping (fun _ => ()) db.rolePermissions
  overridden := index overriding (fun row => verdict row.overrideType) db.userPermissionOverrides
  shared := index sharing (fun _ => ()) db.resourceAcls

/-- No two rows say something about the same thing. -/
structure Tidy (db : Db) : Prop where
  assigned : Unique holding db.userRoles
  mapped : Unique mapping db.rolePermissions
  overridden : Unique overriding db.userPermissionOverrides
  shared : Unique sharing db.resourceAcls

/-- What the commands make of the first database is in the second, with the same permissions
to speak of. -/
structure Becomes (db : Db) (commands : List AccessCommand) (db' : Db) : Prop where
  tidy : Tidy db'
  access : access db' = (access db).after commands
  permissions : db'.permissions = db.permissions

section Rows
variable {Row Key Field Value : Type} [Keyed Row Key] [DecidableEq Key] [DecidableEq Field]
  {table later : Table Row}
  {row hit : Row} {visible : Row → Bool} {field : Row → Field} {content : Row → Value}

/-- A row that the session sees is deleted by its key. -/
theorem mem_select_other (member : hit ∈ table) (admits : visible hit = true) :
    row ∈ table.select (fun row => !(decide (key row = key hit) && visible row)) ↔
      row ∈ table ∧ row ≠ hit := by
  simp only [mem_select, Bool.not_eq_true', Bool.and_eq_false_iff, decide_eq_false_iff_not]
  refine and_congr_right fun present => ?_
  constructor
  · rintro (other | hidden) rfl
    · exact other rfl
    · rw [admits] at hidden
      cases hidden
  · exact fun other => .inl fun same => other (eq_of_key_eq present member same)

omit [DecidableEq Key] in
/-- The rows under some of the fields are removed. -/
theorem index_removeWhere (unique : Unique field table) (gone : Field → Bool)
    (rest : ∀ row, row ∈ later ↔ row ∈ table ∧ gone (field row) = false) :
    index field content later = (index field content table).removeWhere gone := by
  apply index_eq (unique.subset fun row present => ((rest row).mp present).1)
  intro at_ value
  rw [Store.removeWhere_some, index_some unique]
  constructor
  · intro holds
    obtain ⟨stays, row, present, rfl, held⟩ := holds
    exact ⟨row, (rest row).mpr ⟨present, stays⟩, rfl, held⟩
  · intro holds
    obtain ⟨row, present, rfl, held⟩ := holds
    obtain ⟨old, stays⟩ := (rest row).mp present
    exact ⟨stays, row, old, rfl, held⟩

end Rows

/-! What one statement is in the model. -/

section Statements
variable {session : Session} {db db' mid : Db} {first second : List AccessCommand}

theorem Becomes.refl (tidy : Tidy db) : Becomes db [] db := ⟨tidy, rfl, rfl⟩

theorem Becomes.trans (begins : Becomes db first mid) (continues : Becomes mid second db') :
    Becomes db (first ++ second) db' where
  tidy := continues.tidy
  access := by rw [continues.access, begins.access, Access.after_append]
  permissions := continues.permissions.trans begins.permissions

def unspoken : List Relation := [.tenants, .users, .roles, .refreshTokens]

theorem becomes_unspoken (same : SameBut unspoken db db') (tidy : Tidy db) : Becomes db [] db' := by
  have userRoles := same.userRoles (by decide)
  have rolePermissions := same.rolePermissions (by decide)
  have overrides := same.userPermissionOverrides (by decide)
  have resourceAcls := same.resourceAcls (by decide)
  constructor
  · constructor
    · rw [userRoles]
      exact tidy.assigned
    · rw [rolePermissions]
      exact tidy.mapped
    · rw [overrides]
      exact tidy.overridden
    · rw [resourceAcls]
      exact tidy.shared
  · simp only [access, assignments, userRoles, rolePermissions, overrides, resourceAcls]
    rfl
  · exact same.permissions (by decide)

theorem becomes_insertUserRole {row : UserRoleEntity} (tidy : Tidy db)
    (applied : db.insertUserRole session row = some db')
    (free : ∀ other ∈ db.userRoles, holding other ≠ holding row) :
    Becomes db [.assign (holding row) row.expiresAt] db' := by
  obtain ⟨userRoles, inserted, rfl⟩ := insertUserRole_some applied
  refine ⟨{ tidy with assigned := unique_insert tidy.assigned inserted free }, ?_, rfl⟩
  simp only [access, assignments, index_insert tidy.assigned inserted free]
  rfl

theorem becomes_updateUserRole {hit : UserRoleEntity} (tidy : Tidy db) (member : hit ∈ db.userRoles)
    (admits : session.admits hit.tenantId = true) (expiresAt : Option Time) :
    Becomes db [.assign (holding hit) expiresAt] (db.updateUserRole session hit.id expiresAt) := by
  obtain ⟨single, changed⟩ := updateUserRole_assignments tidy.assigned member admits expiresAt
  refine ⟨{ tidy with assigned := single }, ?_, rfl⟩
  simp only [access, changed]
  rfl

theorem becomes_deleteUserRole {hit : UserRoleEntity} (tidy : Tidy db) (member : hit ∈ db.userRoles)
    (admits : session.admits hit.tenantId = true) :
    Becomes db [.revoke (holding hit)] (db.deleteUserRole session hit.id) := by
  have rest := fun row => @mem_deleteUserRole session db row hit member admits
  refine ⟨{ tidy with assigned := tidy.assigned.subset fun row present => ((rest row).mp present).1 },
    ?_, rfl⟩
  simp only [access, assignments, index_remove tidy.assigned member rest]
  rfl

theorem becomes_purge (tidy : Tidy db) (now : Time) :
    Becomes db [.purge now] (db.deleteExpiredUserRoles .bypassRls now) := by
  refine ⟨{ tidy with assigned := tidy.assigned.subset fun row present => (mem_select.mp present).1 },
    ?_, rfl⟩
  simp only [access, purge_assignments tidy.assigned]
  rfl

theorem becomes_insertRolePermission {row : RolePermissionEntity} (tidy : Tidy db)
    (applied : db.insertRolePermission session row = some db')
    (free : ∀ other ∈ db.rolePermissions, mapping other ≠ mapping row) :
    Becomes db [.map (mapping row)] db' := by
  obtain ⟨rolePermissions, inserted, rfl⟩ := insertRolePermission_some applied
  refine ⟨{ tidy with mapped := unique_insert tidy.mapped inserted free }, ?_, rfl⟩
  simp only [access, index_insert tidy.mapped inserted free]
  rfl

theorem becomes_deleteRolePermission {hit : RolePermissionEntity} (tidy : Tidy db)
    (member : hit ∈ db.rolePermissions) (admits : session.admitsRolePermission db hit = true) :
    Becomes db [.unmap (mapping hit)] (db.deleteRolePermission session hit.id) := by
  have rest : ∀ row, row ∈ (db.deleteRolePermission session hit.id).rolePermissions ↔
    row ∈ db.rolePermissions ∧ row ≠ hit :=
    fun row => mem_select_other member admits
  refine ⟨{ tidy with mapped := tidy.mapped.subset fun row present => ((rest row).mp present).1 }, ?_, rfl⟩
  simp only [access, index_remove tidy.mapped member rest]
  rfl

theorem becomes_insertOverride {row : UserPermissionOverrideEntity} (tidy : Tidy db)
    (applied : db.insertOverride session row = some db') :
    Becomes db [.override (overriding row) (verdict row.overrideType)] db' := by
  have free : ∀ other ∈ db.userPermissionOverrides, overriding other ≠ overriding row := by
    intro other member same
    simp only [Db.insertOverride] at applied
    split at applied
    · next accepted =>
      simp only [Bool.and_eq_true, Bool.not_eq_true'] at accepted
      simp only [overriding, Prod.mk.injEq] at same
      refine absurd accepted.2 (Bool.not_eq_false _ ▸ any_iff.mpr ⟨other, member, ?_⟩)
      simp [same.1, same.2.1, same.2.2]
    · cases applied
  obtain ⟨overrides, inserted, rfl⟩ := insertOverride_some applied
  refine ⟨{ tidy with overridden := unique_insert tidy.overridden inserted free }, ?_, rfl⟩
  simp only [access, index_insert tidy.overridden inserted free]
  rfl

theorem becomes_updateOverride {hit : UserPermissionOverrideEntity} (tidy : Tidy db)
    (member : hit ∈ db.userPermissionOverrides) (admits : session.admits hit.tenantId = true)
    (overrideType : OverrideType) (reason : String) :
    Becomes db [.override (overriding hit) (verdict overrideType)]
      (db.updateOverride session hit.id overrideType reason) := by
  have matched : (hit.id == hit.id && session.admits hit.tenantId) = true := by simp [admits]
  have only : ∀ other ∈ db.userPermissionOverrides,
    (other.id == hit.id && session.admits other.tenantId) = true →
      key other = key hit := by
    intro other _ accepted
    simp only [Bool.and_eq_true, beq_iff_eq] at accepted
    exact accepted.1
  have keeps : ∀ row : UserPermissionOverrideEntity, key { row with overrideType, reason } = key row :=
    fun _ => rfl
  refine ⟨{ tidy with overridden := unique_modify tidy.overridden keeps member matched only rfl }, ?_, rfl⟩
  simp only [access, Db.updateOverride, index_modify tidy.overridden keeps member matched only rfl]
  rfl

theorem becomes_deleteOverride {hit : UserPermissionOverrideEntity} (tidy : Tidy db)
    (member : hit ∈ db.userPermissionOverrides) (admits : session.admits hit.tenantId = true) :
    Becomes db [.lift (overriding hit)] (db.deleteOverride session hit.id) := by
  have rest : ∀ row, row ∈ (db.deleteOverride session hit.id).userPermissionOverrides ↔
      row ∈ db.userPermissionOverrides ∧ row ≠ hit :=
    fun row => mem_select_other member admits
  refine ⟨{ tidy with overridden := tidy.overridden.subset fun row present =>
    ((rest row).mp present).1 }, ?_, rfl⟩
  simp only [access, index_remove tidy.overridden member rest]
  rfl

theorem becomes_insertAcl {row : ResourceAclEntity} (tidy : Tidy db)
    (applied : db.insertAcl session row = some db')
    (free : ∀ other ∈ db.resourceAcls, sharing other ≠ sharing row) :
    Becomes db [.share (sharing row)] db' := by
  obtain ⟨resourceAcls, inserted, rfl⟩ := insertAcl_some applied
  refine ⟨{ tidy with shared := unique_insert tidy.shared inserted free }, ?_, rfl⟩
  simp only [access, index_insert tidy.shared inserted free]
  rfl

theorem becomes_deleteAcl {hit : ResourceAclEntity} (tidy : Tidy db)
    (member : hit ∈ db.resourceAcls) (admits : session.admits hit.tenantId = true) :
    Becomes db [.unshare (sharing hit)] (db.deleteAcl session hit.id) := by
  have rest : ∀ row, row ∈ (db.deleteAcl session hit.id).resourceAcls ↔
    row ∈ db.resourceAcls ∧ row ≠ hit :=
    fun row => mem_select_other member admits
  refine ⟨{ tidy with shared := tidy.shared.subset fun row present => ((rest row).mp present).1 }, ?_, rfl⟩
  simp only [access, index_remove tidy.shared member rest]
  rfl

theorem becomes_deleteRole {role : RoleEntity} (tidy : Tidy db) (member : role ∈ db.roles)
    (admits : session.admitsRole role = true) :
    Becomes db [.drop role.id] (db.deleteRole session role.id) := by
  have found : (db.roles.any fun row => row.id == role.id && session.admitsRole row) = true :=
    any_iff.mpr ⟨role, member, by simp [admits]⟩
  have dropped : db.deleteRole session role.id = { db with
      roles := db.roles.select fun row => row.id != role.id
      rolePermissions := db.rolePermissions.select fun row => row.roleId != role.id
      userRoles := db.userRoles.select fun row => row.roleId != role.id } := if_pos found
  have assigned : ∀ row, row ∈ db.userRoles.select (fun row => row.roleId != role.id) ↔
      row ∈ db.userRoles ∧ decide ((holding row).2.2 = role.id) = false := by
    intro row
    rw [mem_select, bne_iff_ne, decide_eq_false_iff_not]
    exact Iff.rfl
  have mapped : ∀ row, row ∈ db.rolePermissions.select (fun row => row.roleId != role.id) ↔
      row ∈ db.rolePermissions ∧ decide ((mapping row).1 = role.id) = false := by
    intro row
    rw [mem_select, bne_iff_ne, decide_eq_false_iff_not]
    exact Iff.rfl
  rw [dropped]
  refine ⟨{ tidy with
    assigned := tidy.assigned.subset fun row present => ((assigned row).mp present).1
    mapped := tidy.mapped.subset fun row present => ((mapped row).mp present).1 }, ?_, rfl⟩
  simp only [access, assignments,
    index_removeWhere tidy.assigned (fun at_ => decide (at_.2.2 = role.id)) assigned,
    index_removeWhere tidy.mapped (fun at_ => decide (at_.1 = role.id)) mapped]
  rfl

end Statements

/-! What the steps of a handler are in the model. -/

section Handlers
variable {Id α : Type} [Identifier Id] {session : Session} {ids : Nat → Uuid} {tx : Tx (effects Id) Db}
  {userId tenantId roleId actorId : Id}

def attachedRows (Id : Type) : Monitor (effects Id) Db :=
  ⟨fun _ _ => True, fun _ stmt => ∃ userId, stmt = .deleteRefreshTokensOf userId⟩

abbrev Acts (session : Session) (ids : Nat → Uuid) (handler : Handler Id α)
    (post : α → Tx (effects Id) Db → Prop) (tx : Tx (effects Id) Db) : Prop :=
  wp (engine Id session) ids (attachedRows Id) handler post (fun _ _ => True) tx

theorem put_present {Key Value : Type} [DecidableEq Key] {store : Store Key Value} {at_ : Key}
    {value : Value} (present : store at_ = some value) : store.put at_ value = store := by
  funext other
  by_cases same : other = at_
  · rw [same, Store.put_self, present]
  · exact Store.put_other _ _ same

/-- A command that finds everything as it would have it. -/
theorem becomes_idle {db : Db} {command : AccessCommand} (tidy : Tidy db)
    (same : command.apply (access db) = access db) :
    Becomes db [command] db := ⟨tidy, same.symm, rfl⟩

omit [Identifier Id] in
/-- The rounds of a loop are their commands in a row. -/
theorem acts_forEach {ι : Type} {items : List ι} {body : ι → Handler Id Unit}
    (commands : ι → List AccessCommand) (kept : Db → Prop) {post : Unit → Tx (effects Id) Db → Prop}
    (tidy : Tidy tx.db) (start : kept tx.db)
    (round : ∀ item ∈ items, ∀ during : Tx (effects Id) Db, Tidy during.db → kept during.db →
      Acts session ids (body item) (fun _ after => Becomes during.db (commands item) after.db ∧
        kept after.db) during)
    (finish : ∀ after, Becomes tx.db (items.flatMap commands) after.db →
      kept after.db → post () after) :
    Acts session ids (forEach items body) post tx := by
  refine @wp_forEach_done _ _ _ _ _ _ _ _ (fun done (during : Tx (effects Id) Db) =>
    Becomes tx.db (done.flatMap commands) during.db ∧ kept during.db) _ _ _ ⟨.refl tidy, start⟩ ?_
    fun after sofar => finish after sofar.1 sofar.2
  intro done item rest whole during sofar
  have member : item ∈ items := whole ▸ List.mem_append_right _ List.mem_cons_self
  refine wp_mono (round item member during sofar.1.tidy sofar.2) ?_ fun _ _ failed => failed
  intro _ after one
  refine ⟨?_, one.2⟩
  rw [List.flatMap_append, List.flatMap_singleton]
  exact sofar.1.trans one.1

/-- Whichever way it takes, renewing or inserting. -/
theorem acts_saveAssignment {dto : AssignRoleDto Id} (tidy : Tidy tx.db)
    (admits : session.admits (value tenantId) = true) :
    Acts session ids (saveAssignment userId tenantId dto)
      (fun _ after =>
        Becomes tx.db [.assign (value tenantId, value userId, value dto.roleId) dto.expiresAt]
        after.db) tx := by
  unfold saveAssignment findAssignment
  simp only [Acts, wp_bind, wp_visible, wp_pure]
  rw [shown_assignment admits]
  cases found : tx.db.userRoles.findOne fun row =>
      decide (holding row = (value tenantId, value userId, value dto.roleId)) with
  | some existing =>
    obtain ⟨member, same⟩ := (findOne_unique tidy.assigned).mp found
    have own : session.admits existing.tenantId = true := admits_of_holding same admits
    have seen : ((shown session tx.db).userRoles.any fun ur => ur.id == existing.id) = true :=
      any_iff.mpr ⟨existing, mem_select.mpr ⟨member, own⟩, by simp⟩
    unfold renewAssignment
    simp only [wp_bind, wp_visible]
    rw [if_pos seen, wp_bind]
    refine wp_persist_applied trivial rfl ?_
    have renewed := becomes_updateUserRole tidy member own dto.expiresAt
    rw [same] at renewed
    exact renewed
  | none =>
    have free : ∀ other ∈ tx.db.userRoles,
        holding other ≠ (value tenantId, value userId, value dto.roleId) := by
      intro other member same
      have missed := findOne_none.mp found other member
      simp [same] at missed
    simp only [wp_bind, wp_newId]
    refine wp_persist trivial ?_ trivial
    intro db applied
    exact becomes_insertUserRole tidy applied free

theorem acts_findOneForTenant {id : Id} {post : RoleEntity → Tx (effects Id) Db → Prop}
    (found : ∀ role ∈ tx.db.roles, role.id = value id → session.admitsRole role = true →
      (role.tenantId = some (value tenantId) ∨ role.isSystem = true) → post role tx) :
    Acts session ids (findOneForTenant id tenantId) post tx := by
  refine wp_orThrow ?_ fun _ => trivial
  intro role present
  obtain ⟨seen, matched⟩ := findOne_some present
  obtain ⟨member, admits⟩ := mem_select.mp seen
  simp only [Bool.and_eq_true, Bool.or_eq_true, beq_iff_eq] at matched
  exact found role member matched.1 admits matched.2

theorem acts_addRole {item : AssignRoleDto Id} (tidy : Tidy tx.db)
    (admits : session.admits (value tenantId) = true) :
    Acts session ids (addRole userId tenantId actorId item)
      (fun _ after =>
        Becomes tx.db [.assign (value tenantId, value userId, value item.roleId) item.expiresAt]
        after.db) tx := by
  unfold addRole
  rw [Acts, wp_bind]
  refine acts_findOneForTenant fun role _ _ _ _ => ?_
  rw [wp_bind]
  exact wp_mono (acts_saveAssignment tidy admits) (fun _ after saved => saved) fun _ _ failed => failed

theorem acts_removeRole (tidy : Tidy tx.db) (admits : session.admits (value tenantId) = true) :
    Acts session ids (removeRole userId tenantId actorId roleId)
      (fun _ after =>
        Becomes tx.db [.revoke (value tenantId, value userId, value roleId)] after.db) tx := by
  unfold removeRole findAssignment
  simp only [Acts, wp_bind, wp_visible, wp_pure]
  rw [shown_assignment admits]
  cases found : tx.db.userRoles.findOne fun row =>
      decide (holding row = (value tenantId, value userId, value roleId)) with
  | none =>
    refine becomes_idle tidy ?_
    have absent : assignments tx.db (value tenantId, value userId, value roleId) = none := by
      rw [assignments, index, found]
      rfl
    simp only [Command.apply, access, Store.removeWhere_absent absent]
  | some assignment =>
    obtain ⟨member, same⟩ := (findOne_unique tidy.assigned).mp found
    rw [wp_bind]
    refine wp_persist_applied trivial rfl ?_
    have removed := becomes_deleteUserRole tidy member (admits_of_holding same admits)
    rw [same] at removed
    exact removed

theorem acts_requireUser {post : UserEntity → Tx (effects Id) Db → Prop}
    (found : ∀ user, post user tx) :
    Acts session ids (requireUser userId tenantId) post tx :=
  wp_orThrow (fun user _ => found user) fun _ => trivial

theorem acts_assignToUser {dto : AssignRoleDto Id} (tidy : Tidy tx.db)
    (admits : session.admits (value tenantId) = true) :
    Acts session ids (assignToUser userId tenantId dto actorId)
      (fun _ after =>
        Becomes tx.db [.assign (value tenantId, value userId, value dto.roleId) dto.expiresAt]
        after.db) tx := by
  unfold assignToUser
  rw [Acts, wp_bind]
  refine acts_requireUser fun user => ?_
  rw [wp_bind]
  refine acts_findOneForTenant fun role _ _ _ _ => ?_
  rw [wp_bind]
  exact wp_mono (acts_saveAssignment tidy admits) (fun _ after saved => saved) fun _ _ failed => failed

theorem acts_updateUserRoles {dto : UpdateUserRolesDto Id} (tidy : Tidy tx.db)
    (admits : session.admits (value tenantId) = true) :
    Acts session ids (updateUserRoles userId tenantId dto actorId)
      (fun _ after => Becomes tx.db
        (dto.add.map
          (fun item => .assign (value tenantId, value userId, value item.roleId) item.expiresAt) ++
          dto.remove.map fun roleId =>
            .revoke (value tenantId, value userId, value roleId)) after.db) tx := by
  unfold updateUserRoles
  rw [Acts, wp_bind]
  refine acts_requireUser fun user => ?_
  rw [wp_bind]
  let assigns (item : AssignRoleDto Id) : AccessCommand :=
    .assign (value tenantId, value userId, value item.roleId) item.expiresAt
  let revokes (roleId : Id) : AccessCommand := .revoke (value tenantId, value userId, value roleId)
  refine acts_forEach (fun item => [assigns item]) (fun _ => True) tidy trivial ?_ ?_
  · exact fun item _ during clean _ =>
      wp_mono (acts_addRole clean admits) (fun _ _ added => ⟨added, trivial⟩) fun _ _ failed => failed
  · intro between added _
    rw [wp_bind]
    refine acts_forEach (fun roleId => [revokes roleId]) (fun _ => True) added.tidy trivial ?_ ?_
    · exact fun role _ during clean _ =>
        wp_mono (acts_removeRole clean admits) (fun _ _ removed => ⟨removed, trivial⟩)
        fun _ _ failed => failed
    · intro after removed _
      have both := added.trans removed
      rw [← List.map_eq_flatMap, ← List.map_eq_flatMap] at both
      exact both

def named (db : Db) (refs : List (PermissionRef Id)) : List PermissionEntity :=
  db.permissions.find fun permission => refs.any fun ref => ref.names permission

theorem acts_findPermissions {refs : List (PermissionRef Id)}
    {post : List PermissionEntity → Tx (effects Id) Db → Prop}
    (found : post (named tx.db refs) tx) : Acts session ids (findPermissions refs) post tx := found

/-- The mapping of a custom role of the tenant is found if there is one. -/
theorem shown_mapping {db : Db} (custom : CustomRoleOf db (value tenantId) (value roleId))
    (permissionId : Uuid) :
    ((shown (.tenantUser (value tenantId)) db).rolePermissions.findOne fun rp =>
        rp.roleId == value roleId && rp.permissionId == permissionId) =
      db.rolePermissions.findOne fun row => decide (mapping row = (value roleId, permissionId)) := by
  obtain ⟨role, member, same, _, own⟩ := custom
  have within : ∀ rp ∈ db.rolePermissions,
    (rp.roleId == value roleId && rp.permissionId == permissionId) = true →
      Session.admitsRolePermission (.tenantUser (value tenantId)) db rp = true := by
    intro rp _ matched
    simp only [Bool.and_eq_true, beq_iff_eq] at matched
    refine any_iff.mpr ⟨role, member, ?_⟩
    simp [Session.admitsRole, same, matched.1, own]
  have alike : (fun rp : RolePermissionEntity => rp.roleId == value roleId &&
    rp.permissionId == permissionId) =
      fun row => decide (mapping row = (value roleId, permissionId)) := by
    funext rp
    rw [Bool.eq_iff_iff]
    simp only [Bool.and_eq_true, beq_iff_eq, mapping, Prod.mk.injEq, decide_eq_true_eq]
  rw [← alike]
  exact findOne_select within

theorem acts_addMapping {permission : PermissionEntity} (tidy : Tidy tx.db)
    (custom : CustomRoleOf tx.db (value tenantId) (value roleId)) :
    Acts (.tenantUser (value tenantId)) ids (addMapping roleId tenantId actorId permission)
      (fun _ after => Becomes tx.db [.map (value roleId, permission.id)] after.db ∧
        after.db = { tx.db with rolePermissions := after.db.rolePermissions }) tx := by
  unfold addMapping findMapping
  simp only [Acts, wp_bind, wp_visible, wp_pure]
  rw [shown_mapping custom]
  cases found : tx.db.rolePermissions.findOne fun row =>
      decide (mapping row = (value roleId, permission.id)) with
  | some existing =>
    refine ⟨becomes_idle tidy ?_, rfl⟩
    have present : (access tx.db).mapped (value roleId, permission.id) = some () := by
      simp only [access, index, found, Option.map_some]
    simp only [Command.apply, put_present present]
  | none =>
    have free : ∀ other ∈ tx.db.rolePermissions, mapping other ≠ (value roleId, permission.id) := by
      intro other member same
      have missed := findOne_none.mp found other member
      simp [same] at missed
    simp only [wp_bind, wp_newId]
    refine wp_persist trivial ?_ trivial
    intro db applied
    refine ⟨becomes_insertRolePermission tidy applied free, ?_⟩
    obtain ⟨rolePermissions, _, rfl⟩ := insertRolePermission_some applied
    rfl

theorem acts_removeMapping {permission : PermissionEntity} (tidy : Tidy tx.db)
    (custom : CustomRoleOf tx.db (value tenantId) (value roleId)) :
    Acts (.tenantUser (value tenantId)) ids (removeMapping roleId tenantId actorId permission)
      (fun _ after => Becomes tx.db [.unmap (value roleId, permission.id)] after.db ∧
        after.db = { tx.db with rolePermissions := after.db.rolePermissions }) tx := by
  unfold removeMapping findMapping
  simp only [Acts, wp_bind, wp_visible, wp_pure]
  rw [shown_mapping custom]
  cases found : tx.db.rolePermissions.findOne fun row =>
      decide (mapping row = (value roleId, permission.id)) with
  | none =>
    refine ⟨becomes_idle tidy ?_, rfl⟩
    have absent : (access tx.db).mapped (value roleId, permission.id) = none := by
      simp only [access, index, found, Option.map_none]
    simp only [Command.apply, Store.removeWhere_absent absent]
  | some existing =>
    obtain ⟨member, same⟩ := (findOne_unique tidy.mapped).mp found
    obtain ⟨role, present, own, _, tenant⟩ := custom
    have named : existing.roleId = value roleId := congrArg Prod.fst same
    have admits : Session.admitsRolePermission (.tenantUser (value tenantId)) tx.db existing = true := by
      refine any_iff.mpr ⟨role, present, ?_⟩
      simp [Session.admitsRole, own, named, tenant]
    rw [wp_bind]
    refine wp_persist_applied trivial rfl ?_
    have removed := becomes_deleteRolePermission tidy member admits
    rw [same] at removed
    exact ⟨removed, rfl⟩

theorem acts_updateRolePermissions {dto : UpdateRolePermissionsDto Id} (tidy : Tidy tx.db) :
    Acts (.tenantUser (value tenantId)) ids (updateRolePermissions roleId tenantId dto actorId)
      (fun _ after => Becomes tx.db
        ((named tx.db dto.add).map (fun permission => .map (value roleId, permission.id)) ++
          (named tx.db dto.remove).map fun permission =>
            .unmap (value roleId, permission.id)) after.db) tx := by
  unfold updateRolePermissions
  rw [Acts, wp_bind]
  refine acts_findOneForTenant fun role member same _ either => ?_
  rw [wp_bind]
  refine wp_refuseIf ?_ fun _ => trivial
  intro custom
  have own : CustomRoleOf tx.db (value tenantId) (value roleId) :=
    same ▸ custom_of_usable member either.symm custom
  let kept (db : Db) : Prop :=
    CustomRoleOf db (value tenantId) (value roleId) ∧ db.permissions = tx.db.permissions
  have keeps : ∀ {during : Tx (effects Id) Db} {after : Db}, kept during.db → after = { during.db with
      rolePermissions := after.rolePermissions } → kept after := by
    intro during after before frame
    rw [frame]
    exact before
  let maps (permission : PermissionEntity) : AccessCommand := .map (value roleId, permission.id)
  let unmaps (permission : PermissionEntity) : AccessCommand := .unmap (value roleId, permission.id)
  rw [wp_bind]
  refine acts_findPermissions ?_
  rw [wp_bind]
  refine acts_forEach (fun permission => [maps permission]) kept tidy ⟨own, rfl⟩ ?_ ?_
  · intro permission _ during clean before
    exact wp_mono (acts_addMapping clean before.1) (fun _ _ added =>
      ⟨added.1, keeps before added.2⟩) fun _ _ failed => failed
  · intro between added before
    rw [wp_bind]
    refine acts_findPermissions ?_
    rw [wp_bind]
    refine acts_forEach (fun permission => [unmaps permission]) kept added.tidy before ?_ ?_
    · intro permission _ during clean still
      exact wp_mono (acts_removeMapping clean still.1) (fun _ _ removed =>
        ⟨removed.1, keeps still removed.2⟩) fun _ _ failed => failed
    · intro after removed _
      have both := added.trans removed
      have same : named between.db dto.remove = named tx.db dto.remove := by rw [named, named, before.2]
      rw [← List.map_eq_flatMap, ← List.map_eq_flatMap, same] at both
      exact both

/-- An override is found under the session of its tenant. -/
theorem shown_override (db : Db) {permissionId : Id} (admits : session.admits (value tenantId) = true) :
    ((shown session db).userPermissionOverrides.findOne fun o =>
        o.userId == value userId && o.permissionId == value permissionId &&
          o.tenantId == value tenantId) =
      db.userPermissionOverrides.findOne fun row =>
        decide (overriding row = (value tenantId, value userId, value permissionId)) := by
  have within : ∀ o ∈ db.userPermissionOverrides,
      (o.userId == value userId && o.permissionId == value permissionId &&
        o.tenantId == value tenantId) = true →
        session.admits o.tenantId = true := by
    intro o _ matched
    simp only [Bool.and_eq_true, beq_iff_eq] at matched
    rw [matched.2, admits]
  have alike : (fun o : UserPermissionOverrideEntity =>
      o.userId == value userId && o.permissionId == value permissionId &&
        o.tenantId == value tenantId) =
        fun row => decide (overriding row = (value tenantId, value userId, value permissionId)) := by
    funext o
    rw [Bool.eq_iff_iff]
    simp only [Bool.and_eq_true, beq_iff_eq, overriding, Prod.mk.injEq, decide_eq_true_eq]
    exact ⟨fun ⟨⟨user, permission⟩, tenant⟩ => ⟨tenant, user, permission⟩,
      fun ⟨tenant, user, permission⟩ => ⟨⟨user, permission⟩, tenant⟩⟩
  rw [← alike]
  exact findOne_select within

theorem acts_addOverride {dto : CreateOverrideDto Id} (tidy : Tidy tx.db)
    (admits : session.admits (value tenantId) = true) :
    Acts session ids (addOverride userId tenantId dto actorId)
      (fun _ after => Becomes tx.db
        [.override (value tenantId, value userId, value dto.permissionId) (verdict dto.overrideType)]
          after.db) tx := by
  unfold addOverride
  simp only [Acts, wp_bind, wp_visible]
  refine wp_orThrow ?_ fun _ => trivial
  intro permission _
  simp only [wp_bind, wp_visible]
  rw [shown_override tx.db admits]
  cases found : tx.db.userPermissionOverrides.findOne fun row =>
    decide (overriding row = (value tenantId, value userId, value dto.permissionId)) with
  | some existing =>
    obtain ⟨member, same⟩ := (findOne_unique tidy.overridden).mp found
    simp only
    split
    · next alike =>
      refine becomes_idle tidy ?_
      have present : (access tx.db).overridden (value tenantId, value userId, value dto.permissionId) =
          some (verdict dto.overrideType) := by
        simp only [access, index, found, Option.map_some, alike]
      simp only [Command.apply, put_present present]
    · have tenant : existing.tenantId = value tenantId := congrArg Prod.fst same
      rw [wp_bind]
      refine wp_persist_applied trivial rfl ?_
      have changed :=
        @becomes_updateOverride session tx.db existing tidy member (tenant ▸ admits) dto.overrideType
        (dto.reason.getD "")
      rw [same] at changed
      exact changed
  | none =>
    simp only [wp_bind, wp_newId]
    refine wp_persist trivial ?_ trivial
    intro db applied
    exact becomes_insertOverride tidy applied

theorem acts_removeOverride {overrideId : Id} (tidy : Tidy tx.db)
    (admits : session.admits (value tenantId) = true) :
    Acts session ids (removeOverride overrideId userId tenantId actorId)
      (fun _ after => Becomes tx.db ((tx.db.userPermissionOverrides.findOne fun o =>
        o.id == value overrideId && o.userId == value userId &&
          o.tenantId == value tenantId).map fun o => .lift (overriding o)).toList
          after.db) tx := by
  have within : ∀ o ∈ tx.db.userPermissionOverrides,
      (o.id == value overrideId && o.userId == value userId && o.tenantId == value tenantId) = true →
          session.admits o.tenantId = true := by
    intro o _ matched
    simp only [Bool.and_eq_true, beq_iff_eq] at matched
    rw [matched.2, admits]
  unfold removeOverride
  simp only [Acts, wp_bind, wp_visible, Db.seenBy, findOne_select within]
  cases found : tx.db.userPermissionOverrides.findOne fun o =>
    o.id == value overrideId && o.userId == value userId && o.tenantId == value tenantId with
  | none => exact .refl tidy
  | some override =>
    obtain ⟨member, matched⟩ := findOne_some found
    simp only [wp_bind]
    refine wp_persist_applied trivial rfl ?_
    exact becomes_deleteOverride tidy member (within override member matched)

/-- A shared object is found under the session of its tenant. -/
theorem shown_acl (db : Db) {dto : CreateAclDto Id} (admits : session.admits (value tenantId) = true) :
    ((shown session db).resourceAcls.findOne fun acl =>
        acl.tenantId == value tenantId && acl.userId == value dto.userId &&
          acl.resourceType == dto.resourceType &&
          acl.resourceId == dto.resourceId && acl.permission == dto.permission) =
      db.resourceAcls.findOne fun row =>
        decide (sharing row =
          (value tenantId, value dto.userId, dto.resourceType, dto.resourceId, dto.permission)) := by
  have alike : (fun acl : ResourceAclEntity =>
      acl.tenantId == value tenantId && acl.userId == value dto.userId &&
        acl.resourceType == dto.resourceType &&
        acl.resourceId == dto.resourceId && acl.permission == dto.permission) =
      fun row =>
          decide (sharing row =
          (value tenantId, value dto.userId, dto.resourceType, dto.resourceId, dto.permission)) := by
    funext acl
    rw [Bool.eq_iff_iff]
    simp only [Bool.and_eq_true, beq_iff_eq, sharing, Prod.mk.injEq, decide_eq_true_eq, and_assoc]
  rw [alike]
  refine findOne_select fun acl _ matched => ?_
  have same := of_decide_eq_true matched
  have tenant : acl.tenantId = value tenantId := congrArg Prod.fst same
  rw [tenant, admits]

theorem acts_createAcl {dto : CreateAclDto Id} (tidy : Tidy tx.db)
    (admits : session.admits (value tenantId) = true) :
    Acts session ids (createAcl tenantId dto actorId)
      (fun _ after => Becomes tx.db
        [.share (value tenantId, value dto.userId, dto.resourceType, dto.resourceId, dto.permission)]
          after.db) tx := by
  unfold createAcl
  simp only [Acts, wp_bind, wp_visible]
  rw [shown_acl tx.db admits]
  cases found : tx.db.resourceAcls.findOne fun row =>
    decide (sharing row =
        (value tenantId, value dto.userId, dto.resourceType, dto.resourceId, dto.permission)) with
  | some existing =>
    refine becomes_idle tidy ?_
    have present : (access tx.db).shared (value tenantId, value dto.userId, dto.resourceType,
      dto.resourceId, dto.permission) =
        some () := by
      simp only [access, index, found, Option.map_some]
    simp only [Command.apply, put_present present]
  | none =>
    have free : ∀ other ∈ tx.db.resourceAcls,
        sharing other ≠ (value tenantId, value dto.userId, dto.resourceType, dto.resourceId,
            dto.permission) := by
      intro other member same
      have missed := findOne_none.mp found other member
      simp [same] at missed
    simp only [wp_bind, wp_newId]
    refine wp_attempt trivial ?_ ?_
    · intro db sent
      exact becomes_insertAcl tidy (send_ok sent) free
    · intro why _
      simp only
      split
      · trivial
      · trivial
      · trivial
      · next impossible => cases impossible

theorem acts_deleteAcl {id : Id} (tidy : Tidy tx.db) (admits : session.admits (value tenantId) = true) :
    Acts session ids (deleteAcl id tenantId actorId)
      (fun _ after => Becomes tx.db ((tx.db.resourceAcls.findOne fun acl =>
        acl.id == value id && acl.tenantId == value tenantId).map fun acl =>
          .unshare (sharing acl)).toList after.db) tx := by
  have within : ∀ acl ∈ tx.db.resourceAcls,
    (acl.id == value id && acl.tenantId == value tenantId) = true →
      session.admits acl.tenantId = true := by
    intro acl _ matched
    simp only [Bool.and_eq_true, beq_iff_eq] at matched
    rw [matched.2, admits]
  unfold deleteAcl
  simp only [Acts, wp_bind, wp_visible, Db.seenBy, findOne_select within]
  refine wp_orThrow ?_ fun _ => trivial
  intro acl found
  obtain ⟨member, matched⟩ := findOne_some found
  rw [wp_bind, found]
  refine wp_persist_applied trivial rfl ?_
  exact becomes_deleteAcl tidy member (within acl member matched)

theorem acts_deleteCustomRole {id : Id} (tidy : Tidy tx.db) :
    Acts session ids (deleteCustomRole id tenantId actorId) (fun _ after =>
      Becomes tx.db [.drop (value id)] after.db) tx := by
  unfold deleteCustomRole
  rw [Acts, wp_bind]
  refine acts_findOneForTenant fun role member same admits _ => ?_
  rw [wp_bind]
  refine wp_refuseIf ?_ fun _ => trivial
  intro _
  simp only [wp_bind, wp_visible]
  refine wp_refuseIf ?_ fun _ => trivial
  intro _
  rw [wp_bind]
  refine wp_persist_applied trivial rfl ?_
  rw [← same]
  exact becomes_deleteRole tidy member admits

def DropsTokens (write : Write) : Prop := ∃ userId, write = .deleteRefreshTokensOf userId

omit [Identifier Id] in
/-- A handler that keeps to the other tables is no command at all. -/
theorem acts_unspoken {handler : Handler Id α} {db : Db}
    (sends : Sends (E := effects Id) (Within unspoken) DropsTokens handler) (tidy : Tidy db) :
    Acts session ids handler (fun _ after => Becomes db [] after.db) { db } := by
  have start : SameBut unspoken db db := sameBut_refl
  refine wp_mono (sends_keeps sends (fun _ => trivial) (fun drops => drops) ?_ ?_ start)
    (fun _ after same => becomes_unspoken same tidy) fun _ _ _ => trivial
  · intro write before after within same applied
    exact sameBut_step within same (send_ok applied)
  · intro write before after drops same applied
    obtain ⟨userId, rfl⟩ := drops
    have dropped : Write.apply .bypassRls before (.deleteRefreshTokensOf userId) = some after :=
      send_ok applied
    exact sameBut_step (by simp [Within, Write.changes, unspoken]) same dropped

def employee (tenantId : Uuid) (db : Db) : Option RoleEntity :=
  (shown (.tenantUser tenantId) db).roles.findOne fun role =>
    role.name == memberRole && role.tenantId == none

theorem acts_createUser {hashPassword : String → String} {dto : CreateUserDto Id} (tidy : Tidy tx.db) :
    Acts (.tenantUser (value tenantId)) ids (createUser hashPassword tenantId dto actorId)
      (fun _ after =>
        Becomes tx.db
        (((dto.roleId.map value).or ((employee (value tenantId) tx.db).map RoleEntity.id)).map fun roleId =>
        .assign (value tenantId, ids tx.generated, roleId) none).toList after.db) tx := by
  unfold createUser findOneByName
  simp only [Acts, wp_bind, wp_visible]
  refine wp_refuseIf ?_ fun _ => trivial
  intro _
  simp only [wp_bind, wp_newId]
  refine wp_persist trivial ?_ trivial
  intro db inserted
  have same : SameBut [.users] tx.db db := sameBut_apply inserted
  have roles : db.roles = tx.db.roles := same.roles (by decide)
  have default : (shown (.tenantUser (value tenantId)) db).roles.findOne (fun role =>
    role.name == memberRole && role.tenantId == none) =
      employee (value tenantId) tx.db := by
    simp only [employee, Db.seenBy, roles]
  have before : Becomes tx.db [] db :=
    becomes_unspoken
    (sameBut_step (by simp [Within, Write.changes, unspoken]) sameBut_refl inserted) tidy
  simp only [wp_bind, wp_visible, wp_pure, Option.map_none, default]
  have named :
    (dto.roleId.or ((employee (value tenantId) tx.db).map fun role => canonical role.id)).map value =
      (dto.roleId.map value).or ((employee (value tenantId) tx.db).map RoleEntity.id) := by
    cases dto.roleId with
    | some roleId => rfl
    | none =>
      simp only [Option.none_or, Option.map_none, Option.map_map, Function.comp_def, value_canonical]
  rw [← named]
  cases chosen : dto.roleId.or ((employee (value tenantId) tx.db).map fun role =>
      canonical role.id) with
  | none => exact before
  | some roleId =>
    simp only [wp_bind]
    refine wp_mono (acts_assignToUser before.tidy (by simp [Session.admits])) ?_ fun _ _ failed => failed
    intro _ after assigned
    have both := before.trans assigned
    simp only [value_canonical, List.nil_append] at both
    exact both

/-- Every assignment is within a tenant. -/
def Housed (db : Db) : Prop := ∀ row ∈ db.userRoles, db.hasTenant row.tenantId = true

theorem acts_createTenantWithAdmin {hashPassword : String → String} {dto : CreateTenantDto}
    (tidy : Tidy tx.db) (housed : Housed tx.db) :
    Acts .bypassRls ids (createTenantWithAdmin hashPassword dto actorId)
      (fun _ after =>
        Becomes tx.db
        (((shown .bypassRls tx.db).roles.findOne fun role => role.name == tenantAdminRole &&
        role.isSystem).map
        fun role =>
          .assign (ids tx.generated, ids (tx.generated + 1), role.id) none).toList after.db) tx := by
  unfold createTenantWithAdmin
  simp only [Acts, wp_bind, wp_visible]
  refine wp_refuseIf ?_ fun _ => trivial
  intro _
  simp only [wp_bind, wp_newId]
  refine wp_persist trivial ?_ trivial
  intro founded applied
  obtain ⟨tenants, inserted, rfl⟩ := insertTenant_some applied
  -- no assignment names the tenant, whose id is new
  have strange : ∀ row ∈ tx.db.userRoles, row.tenantId ≠ ids tx.generated := by
    intro row member same
    obtain ⟨tenant, present, known⟩ := any_iff.mp (housed row member)
    rw [beq_iff_eq, same] at known
    exact (insert_some inserted).1 tenant present known
  simp only [wp_bind, wp_newId]
  refine wp_persist trivial ?_ trivial
  intro staffed added
  have joined : ∃ users, staffed = { tx.db with tenants, users } := by
    simp only [Write.apply, Option.ite_none_right_eq_some] at added
    obtain ⟨users, _, same⟩ := insertUser_some added.2
    exact ⟨users, same⟩
  obtain ⟨users, rfl⟩ := joined
  have before : Becomes tx.db [] { tx.db with tenants, users } :=
    ⟨⟨tidy.assigned, tidy.mapped, tidy.overridden, tidy.shared⟩, rfl, rfl⟩
  simp only [wp_bind, wp_visible]
  cases found : (shown .bypassRls tx.db).roles.findOne fun role =>
      role.name == tenantAdminRole && role.isSystem with
  | none =>
    have missing : (shown .bypassRls { tx.db with tenants, users }).roles.findOne
      (fun role => role.name == tenantAdminRole && role.isSystem) = none := found
    rw [missing]
    exact before
  | some adminRole =>
    have present : (shown .bypassRls { tx.db with tenants, users }).roles.findOne
      (fun role => role.name == tenantAdminRole && role.isSystem) = some adminRole := found
    rw [present]
    simp only [wp_bind, wp_newId]
    refine wp_persist trivial ?_ trivial
    intro db assigned
    refine before.trans (becomes_insertUserRole before.tidy assigned ?_)
    intro other member same
    exact strange other member (congrArg Prod.fst same)

omit [Identifier Id] in
theorem acts_purge {now : Time} (tidy : Tidy tx.db) :
    Acts .bypassRls ids (purgeExpiredRoles now : Handler Id Unit) (fun _ after =>
      Becomes tx.db [.purge now] after.db) tx :=
  wp_persist_applied trivial rfl (becomes_purge tidy now)

end Handlers

/-! The databases that the service can be in. -/

section Reached
variable {Id : Type} {session : Session} {ids : Nat → Uuid} {tx : Tx (effects Id) Db} {db db' : Db}

theorem housed_apply {write : Write} (housed : Housed db)
    (applied : write.apply session db = some db') : Housed db' := by
  have stays : ∀ {id}, db.hasTenant id = true → db'.hasTenant id = true := by
    intro id known
    obtain ⟨tenant, member, same⟩ := any_iff.mp known
    obtain ⟨later, present, kept⟩ := tenants_kept applied member
    refine any_iff.mpr ⟨later, present, ?_⟩
    rw [kept, same]
  intro row present
  rcases mem_userRoles_apply applied present with ⟨old, before, changed⟩ | rfl
  · have tenant : row.tenantId = old.tenantId := by rw [changed]
    rw [tenant]
    exact stays (housed old before)
  · simp only [Write.apply, Db.insertUserRole, Option.ite_none_right_eq_some,
      Bool.and_eq_true] at applied
    exact stays applied.1.1.1.1

theorem housed_of_reachable (reached : Reachable db) : Housed db :=
  reached.invariant (fun _ row member => by cases member) housed_apply

abbrev StaysTidy (session : Session) (ids : Nat → Uuid) (handler : Handler Id Unit)
    (tx : Tx (effects Id) Db) : Prop :=
  wp (engine Id session) ids (attachedRows Id) handler (fun _ after => Tidy after.db)
    (fun _ after => Tidy after.db) tx

theorem staysTidy_forEach {ι : Type} {items : List ι} {body : ι → Handler Id Unit}
    (tidy : Tidy tx.db)
    (round : ∀ item ∈ items, ∀ during : Tx (effects Id) Db, Tidy during.db →
      StaysTidy session ids (body item) during) :
    StaysTidy session ids (forEach items body) tx := by
  have start : (fun during : Tx (effects Id) Db => Tidy during.db) tx := tidy
  exact wp_forEach start round fun _ clean => clean

theorem staysTidy_seedPermission {code : String} (tidy : Tidy tx.db) :
    StaysTidy session ids (seedPermission code : Handler Id Unit) tx := by
  unfold seedPermission
  simp only [StaysTidy, wp_bind, wp_visible]
  split
  · exact tidy
  · simp only [wp_bind, wp_newId]
    refine wp_persist trivial ?_ tidy
    intro db applied
    obtain ⟨permissions, _, rfl⟩ := insertPermission_some applied
    exact ⟨tidy.assigned, tidy.mapped, tidy.overridden, tidy.shared⟩

/-- Seeding sees every mapping. -/
theorem staysTidy_seedMapping {roleId : Uuid} {permission : PermissionEntity} (tidy : Tidy tx.db) :
    StaysTidy .bypassRls ids (seedMapping roleId permission : Handler Id Unit) tx := by
  unfold seedMapping
  simp only [StaysTidy, wp_bind, wp_visible]
  cases found : (shown .bypassRls tx.db).rolePermissions.findOne fun rp =>
      rp.roleId == roleId && rp.permissionId == permission.id with
  | some _ => exact tidy
  | none =>
    simp only [wp_bind, wp_newId]
    refine wp_persist trivial ?_ tidy
    intro db applied
    refine (becomes_insertRolePermission tidy applied ?_).tidy
    intro other member same
    have missed := findOne_none.mp found other (mem_select.mpr ⟨member, rfl⟩)
    simp only [mapping, Prod.mk.injEq] at same
    simp [same.1, same.2] at missed

theorem staysTidy_seedRole {clock : Uuid → Time} {allPerms : List PermissionEntity}
    {roleDef : RoleDefinition} (tidy : Tidy tx.db) :
    StaysTidy .bypassRls ids (seedRole clock allPerms roleDef : Handler Id Unit) tx := by
  unfold seedRole findOrSeedRole
  simp only [StaysTidy, wp_bind, wp_visible]
  split
  · exact staysTidy_forEach tidy fun permission _ _ => staysTidy_seedMapping
  · simp only [wp_bind, wp_newId]
    refine wp_persist trivial ?_ tidy
    intro db applied
    refine staysTidy_forEach ?_ fun permission _ _ => staysTidy_seedMapping
    exact (becomes_unspoken
      (sameBut_step (by simp [Within, Write.changes, unspoken]) sameBut_refl applied) tidy).tidy

theorem tidy_run {handler : Handler Id Unit} (stays : StaysTidy session ids handler { db }) :
    Tidy (run (engine Id session) ids handler { db }).2.db := by
  have ended := wp_run stays
  cases finished : run (engine Id session) ids handler { db } with
  | mk result after =>
    rw [finished] at ended
    cases result with
    | ok value => exact ended
    | error error => exact ended

end Reached

/-! Requests. -/

section Requests
variable {Id : Type} [Identifier Id] [DecidableEq Id] {session : Session} {ids : Nat → Uuid}
  {tenantId actorId : Id} {db : Db}

def requested (ids : Nat → Uuid) (tenantId : Uuid) (db : Db) : Operation Id → List AccessCommand
  | .createCustomRole _ _ | .updateCustomRole _ _ _ | .updateUser _ _ | .setActivation _ _ => []
  | .deleteCustomRole id => [.drop (value id)]
  | .updateRolePermissions roleId dto =>
      (named db dto.add).map (fun permission => .map (value roleId, permission.id)) ++
        (named db dto.remove).map fun permission => .unmap (value roleId, permission.id)
  | .assignToUser userId dto => [.assign (tenantId, value userId, value dto.roleId) dto.expiresAt]
  | .updateUserRoles userId dto =>
      dto.add.map (fun item => .assign (tenantId, value userId, value item.roleId) item.expiresAt) ++
        dto.remove.map fun roleId => .revoke (tenantId, value userId, value roleId)
  | .addOverride userId dto =>
    [.override (tenantId, value userId, value dto.permissionId) (verdict dto.overrideType)]
  | .removeOverride overrideId userId =>
      ((db.userPermissionOverrides.findOne fun o =>
        o.id == value overrideId && o.userId == value userId && o.tenantId == tenantId).map fun o =>
          .lift (overriding o)).toList
  | .createAcl dto =>
    [.share (tenantId, value dto.userId, dto.resourceType, dto.resourceId, dto.permission)]
  | .deleteAcl id =>
      ((db.resourceAcls.findOne fun acl => acl.id == value id &&
        acl.tenantId == tenantId).map fun acl => .unshare (sharing acl)).toList
  | .createUser dto =>
      (((dto.roleId.map value).or ((employee tenantId db).map RoleEntity.id)).map fun roleId =>
        .assign (tenantId, ids 0, roleId) none).toList

theorem acts_operation (env : Environment) (operation : Operation Id) (tidy : Tidy db) :
    Acts (.tenantUser (value tenantId)) ids (operation.handler env tenantId actorId)
      (fun _ after => Becomes db (requested ids (value tenantId) db operation) after.db) { db } := by
  have admits : Session.admits (.tenantUser (value tenantId)) (value tenantId) = true := by
    simp [Session.admits]
  cases operation with
  | createCustomRole now dto =>
    refine acts_unspoken ?_ tidy
    refine sends_bind (sends_createCustomRole _ _ _ _ ?_) fun _ => trivial
    simp [Within, Write.changes, unspoken]
  | updateCustomRole now id body =>
    refine acts_unspoken ?_ tidy
    refine sends_bind (sends_updateCustomRole _ _ _ _ _ _ ?_ ?_) fun _ => trivial
    · simp [Within, Write.changes, unspoken]
    · simp [Within, Write.changes, unspoken]
  | deleteCustomRole id => exact acts_deleteCustomRole tidy
  | updateRolePermissions roleId dto => exact acts_updateRolePermissions tidy
  | assignToUser userId dto =>
    simp only [Acts, Operation.handler, wp_bind]
    exact acts_assignToUser tidy admits
  | updateUserRoles userId dto => exact acts_updateUserRoles tidy admits
  | addOverride userId dto =>
    simp only [Acts, Operation.handler, wp_bind]
    exact acts_addOverride tidy admits
  | removeOverride overrideId userId => exact acts_removeOverride tidy admits
  | createAcl dto =>
    simp only [Acts, Operation.handler, wp_bind]
    exact acts_createAcl tidy admits
  | deleteAcl id => exact acts_deleteAcl tidy admits
  | createUser dto =>
    simp only [Acts, Operation.handler, wp_bind]
    exact acts_createUser tidy
  | updateUser id dto =>
    refine acts_unspoken ?_ tidy
    refine sends_bind (sends_updateUser _ _ _ _ ?_ ?_) fun _ => trivial
    · simp [Within, Write.changes, unspoken]
    · simp [Within, Write.changes, unspoken]
  | setActivation id isActive =>
    refine acts_unspoken (sends_setActivation _ _ _ _ ?_ ?_ ⟨value id, rfl⟩) tidy
    · simp [Within, Write.changes, unspoken]
    · simp [Within, Write.changes, unspoken]

def governed (ids : Nat → Uuid) (db : Db) : SuperAdminOperation Id → List AccessCommand
  | .createTenantWithAdmin _ =>
      (((shown .bypassRls db).roles.findOne fun role => role.name == tenantAdminRole &&
        role.isSystem).map
        fun role => .assign (ids 0, ids 1, role.id) none).toList
  | .updateTenant _ _ | .deactivateTenant _ => []

omit [DecidableEq Id] in
theorem acts_superAdmin (env : Environment) (operation : SuperAdminOperation Id) (tidy : Tidy db)
    (housed : Housed db) :
    Acts .bypassRls ids (operation.handler env actorId) (fun _ after =>
      Becomes db (governed ids db operation) after.db) { db } := by
  cases operation with
  | createTenantWithAdmin dto =>
    simp only [Acts, SuperAdminOperation.handler, wp_bind]
    exact acts_createTenantWithAdmin tidy housed
  | updateTenant id dto =>
    refine acts_unspoken ?_ tidy
    refine sends_bind (sends_updateTenant _ _ _ ?_ ?_) fun _ => trivial
    · simp [Within, Write.changes, unspoken]
    · simp [Within, Write.changes, unspoken]
  | deactivateTenant id =>
    refine acts_unspoken (sends_bind (sends_findTenant _) ?_) tidy
    intro tenant
    refine sends_bind (sends_saveTenant _ ?_ ?_) fun _ => trivial
    · simp [Within, Write.changes, unspoken]
    · simp [Within, Write.changes, unspoken]

omit [Identifier Id] [DecidableEq Id] in
/-- A request that is accepted is its commands, and one that fails is none. -/
theorem served_becomes {α : Type} {handler : Handler Id α} {commands : List AccessCommand}
    (tidy : Tidy db)
    (acts : Acts session ids handler (fun _ after => Becomes db commands after.db) { db }) :
    Becomes db (if (serve (engine Id session) ids handler db).result.isOk then commands else [])
      (serve (engine Id session) ids handler db).db := by
  have ended := serve_post acts
  obtain ⟨_, outside, _, sent, evolves⟩ := wp_evolves acts
  rw [← serve_tx, List.nil_append] at sent
  cases result : (serve (engine Id session) ids handler db).result with
  | ok value =>
    rw [result] at ended
    rw [ended.2]
    exact ended.1
  | error error =>
    rw [result] at ended
    have same : SameBut unspoken db (serve (engine Id session) ids handler db).db := by
      rw [ended.2, sent]
      refine keepOutside_invariant sameBut_refl ?_
      intro before after stmt member same applied
      obtain ⟨_, userId, rfl⟩ := evolves.outside_monitored stmt member
      have dropped : Write.apply .bypassRls before (.deleteRefreshTokensOf userId) = some after :=
        send_ok applied
      exact sameBut_step (by simp [Within, Write.changes, unspoken]) same dropped
    exact becomes_unspoken same tidy

end Requests

theorem tidy_of_reachable {db : Db} (reached : Reachable db) : Tidy db := by
  induction reached with
  | empty superAdmins => constructor <;> (intro first member; cases member)
  | permissionsSeeded ids codes _ ih =>
    exact tidy_run (staysTidy_forEach ih fun _ _ _ => staysTidy_seedPermission)
  | rolesSeeded clock ids rolesData _ ih =>
    apply tidy_run
    unfold seedRoles
    simp only [StaysTidy, wp_bind, wp_visible]
    exact staysTidy_forEach ih fun _ _ _ => staysTidy_seedRole
  | tenantCreated env ids dto actorId reached ih =>
    exact (served_becomes ih (acts_createTenantWithAdmin ih (housed_of_reachable reached))).tidy
  | requested env ids tenantId actorId _ _ ih =>
    exact (served_becomes ih (acts_operation env _ ih)).tidy
  | purged ids now _ ih => exact (served_becomes ih (acts_purge ih)).tidy

end GenericIam.AccessRefinement
