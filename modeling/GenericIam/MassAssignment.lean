import GenericIam.Operations

/-! What the four role endpoints leave alone: the system roles, the roles of other
tenants, and the identity and flag of every role. The body of a role update is merged
into the row after the guard has looked at it, and the guarantee ends there. -/

namespace GenericIam.MassAssignment
open Table Database Identifiers Transaction Handlers RbacServices TenantWrites

/-! The guarantee. -/

def Protected (tenantId : Uuid) (role : RoleEntity) : Prop :=
  role.isSystem = true ∨ role.tenantId ≠ some tenantId

/-- Protected roles and their mappings are as before, and every role that is not
deleted is still there under its id, with its tenant and its flag. -/
structure Preserved (tenantId : Uuid) (deletes : Uuid → Prop) (db db' : Db) : Prop where
  rows : ∀ role ∈ db.roles, Protected tenantId role → role ∈ db'.roles
  mappings : ∀ role ∈ db.roles, Protected tenantId role →
    ∀ rp : RolePermissionEntity, rp.roleId = role.id →
      (rp ∈ db'.rolePermissions ↔ rp ∈ db.rolePermissions)
  flags : ∀ role ∈ db.roles, ¬deletes role.id →
    ∃ later ∈ db'.roles, later.id = role.id ∧ later.tenantId = role.tenantId ∧
      later.isSystem = role.isSystem

section Preserved
variable {tenantId : Uuid} {deletes : Uuid → Prop} {db db' db'' : Db}

theorem Preserved.refl : Preserved tenantId deletes db db :=
  ⟨fun _ member _ => member, fun _ _ _ _ _ => Iff.rfl, fun role member _ =>
    ⟨role, member, rfl, rfl, rfl⟩⟩

theorem Preserved.of_tables (roles : db'.roles = db.roles)
    (mappings : db'.rolePermissions = db.rolePermissions) :
    Preserved tenantId deletes db db' where
  rows _ member _ := by rw [roles]; exact member
  mappings _ _ _ _ _ := by rw [mappings]
  flags role member _ := ⟨role, by rw [roles]; exact member, rfl, rfl, rfl⟩

theorem Preserved.trans (first : Preserved tenantId deletes db db')
    (second : Preserved tenantId deletes db' db'') :
    Preserved tenantId deletes db db'' where
  rows role member guarded := second.rows role (first.rows role member guarded) guarded
  mappings role member guarded rp own := by
    rw [second.mappings role (first.rows role member guarded) guarded rp own,
      first.mappings role member guarded rp own]
  flags role member kept := by
    obtain ⟨later, present, id, tenant, system⟩ := first.flags role member kept
    obtain ⟨last, there, id', tenant', system'⟩ := second.flags later present (by rw [id]; exact kept)
    exact ⟨last, there, id'.trans id, tenant'.trans tenant, system'.trans system⟩

/-- A custom role of the tenant is not protected, and its id belongs to no other role. -/
theorem not_protected {roleId : Uuid} (custom : CustomRoleOf db tenantId roleId) {role : RoleEntity}
    (member : role ∈ db.roles) (same : role.id = roleId) : ¬Protected tenantId role := by
  intro guarded
  obtain ⟨other, present, key, system, own⟩ := custom
  have whole : role = other := eq_of_key_eq member present (same.trans key.symm)
  subst whole
  rcases guarded with isSystem | foreign
  · rw [system] at isSystem
    cases isSystem
  · exact foreign own

end Preserved

/-! Which statements keep it. -/

/-- An update that the policy refuses, or that rewrites no system role and makes none. -/
def HarmlessUpdate (tenantId : Uuid) (db : Db) (row : RoleEntity) : Prop :=
  (row.isSystem = true ∨ row.tenantId = some tenantId) → ∀ target ∈ db.roles, target.id = row.id →
    (target.isSystem = true ∨ target.tenantId = some tenantId) →
    (target.isSystem = true → row = target) ∧
      (target.isSystem = false → row.isSystem = false ∧ row.tenantId = some tenantId)

def Preserving (tenantId : Uuid) (deletes : Uuid → Prop) (db : Db) : Write → Prop
  | .updateRole row => HarmlessUpdate tenantId db row
  | .deleteRole row => CustomRoleOf db tenantId row.id ∧ deletes row.id
  | .insertRolePermission row => CustomRoleOf db tenantId row.roleId
  | .deleteRolePermission row => row ∈ db.rolePermissions ∧ CustomRoleOf db tenantId row.roleId
  | _ => True

theorem preserving_of_tenantWrite {tenantId : Uuid} {scope : Scope} {db : Db} {write : Write}
    (allowed : TenantWrite tenantId scope db write) : Preserving tenantId scope.deletes db write := by
  cases write with
  | updateRole row =>
    obtain ⟨⟨other, present, key, system, own⟩, tenant, custom⟩ := allowed
    intro _ target member same _
    have whole : target = other := eq_of_key_eq member present (same.trans key.symm)
    subst whole
    refine ⟨?_, fun _ => ⟨custom, tenant⟩⟩
    intro isSystem
    rw [system] at isSystem
    cases isSystem
  | deleteRole row =>
    obtain ⟨deletes, member, custom, own, _⟩ := allowed
    exact ⟨⟨row, member, rfl, custom, own⟩, deletes⟩
  | insertRolePermission row => exact allowed
  | deleteRolePermission row => exact allowed
  | _ => trivial

section Apply
variable {tenantId : Uuid} {deletes : Uuid → Prop} {db db' : Db}

theorem updateRole_admitted {row : RoleEntity}
    (applied : db.updateRole (.tenantUser tenantId) row = some db') :
    row.isSystem = true ∨ row.tenantId = some tenantId := by
  simp only [Db.updateRole] at applied
  split at applied
  · next admitted => simpa [Session.admitsRole] using admitted
  · cases applied

theorem preserved_updateRole {row : RoleEntity} (harmless : HarmlessUpdate tenantId db row)
    (applied : db.updateRole (.tenantUser tenantId) row = some db') :
    Preserved tenantId deletes db db' := by
  have harmless := harmless (updateRole_admitted applied)
  rw [updateRole_some applied]
  have visible : ∀ role : RoleEntity,
    (role.id == row.id && Session.admitsRole (.tenantUser tenantId) role) = true →
      role.id = row.id ∧ (role.isSystem = true ∨ role.tenantId = some tenantId) := by
    intro role hit
    simpa [Session.admitsRole] using hit
  refine ⟨?_, fun _ _ _ _ _ => Iff.rfl, ?_⟩
  · intro role member guarded
    rw [mem_modify]
    cases hit : role.id == row.id && Session.admitsRole (.tenantUser tenantId) role with
    | false => exact .inl ⟨member, rfl⟩
    | true =>
      obtain ⟨same, shown⟩ := visible role hit
      have system : role.isSystem = true := by
        rcases guarded with isSystem | foreign
        · exact isSystem
        · exact shown.resolve_right foreign
      refine .inr ⟨role, member, hit, ?_⟩
      rw [(harmless role member same shown).1 system]
  · intro role member _
    cases hit : role.id == row.id && Session.admitsRole (.tenantUser tenantId) role with
    | false =>
      refine ⟨role, ?_, rfl, rfl, rfl⟩
      rw [mem_modify]
      exact .inl ⟨member, hit⟩
    | true =>
      obtain ⟨same, shown⟩ := visible role hit
      refine ⟨{ row with id := role.id }, ?_, rfl, ?_⟩
      · rw [mem_modify]
        exact .inr ⟨role, member, hit, rfl⟩
      · cases system : role.isSystem with
        | true =>
          rw [(harmless role member same shown).1 system]
          exact ⟨rfl, system⟩
        | false =>
          obtain ⟨custom, own⟩ := (harmless role member same shown).2 system
          exact ⟨own.trans (shown.resolve_left (by simp [system])).symm, custom⟩

theorem preserved_apply {write : Write} (allowed : Preserving tenantId deletes db write)
    (applied : write.apply (.tenantUser tenantId) db = some db') :
    Preserved tenantId deletes db db' := by
  cases write with
  | insertTenant row =>
    obtain ⟨_, _, rfl⟩ := insertTenant_some applied
    exact .of_tables rfl rfl
  | updateTenant id change =>
    rw [updateTenant_some applied]
    exact .of_tables rfl rfl
  | insertUser row =>
    simp only [Write.apply] at applied
    split at applied
    · obtain ⟨_, _, rfl⟩ := insertUser_some applied
      exact .of_tables rfl rfl
    · cases applied
  | updateUser id change =>
    rw [updateUser_some applied]
    exact .of_tables rfl rfl
  | insertPermission row =>
    obtain ⟨_, _, rfl⟩ := insertPermission_some applied
    exact .of_tables rfl rfl
  | insertRole row =>
    obtain ⟨roles, inserted, rfl⟩ := insertRole_some applied
    refine ⟨?_, fun _ _ _ _ _ => Iff.rfl, ?_⟩
    · intro role member _
      exact (mem_insert inserted).mpr (.inl member)
    · intro role member _
      exact ⟨role, (mem_insert inserted).mpr (.inl member), rfl, rfl, rfl⟩
  | updateRole row => exact preserved_updateRole allowed applied
  | deleteRole row =>
    cases applied
    rcases deleteRole_eq (.tenantUser tenantId) db row.id with same | changed
    · rw [same]
      exact .refl
    · rw [changed]
      refine ⟨?_, ?_, ?_⟩
      · intro role member guarded
        rw [mem_select]
        refine ⟨member, ?_⟩
        rw [bne_iff_ne]
        intro same
        exact not_protected allowed.1 member same guarded
      · intro role member guarded rp own
        rw [mem_select]
        refine ⟨And.left, fun mapped => ⟨mapped, ?_⟩⟩
        rw [bne_iff_ne, own]
        intro same
        exact not_protected allowed.1 member same guarded
      · intro role member kept
        refine ⟨role, ?_, rfl, rfl, rfl⟩
        rw [mem_select, bne_iff_ne]
        exact ⟨member, fun same => kept (same ▸ allowed.2)⟩
  | insertRolePermission row =>
    obtain ⟨rolePermissions, inserted, rfl⟩ := insertRolePermission_some applied
    refine ⟨fun _ member _ => member, ?_, fun role member _ => ⟨role, member, rfl, rfl, rfl⟩⟩
    intro role member guarded rp own
    refine mem_insert_away inserted ?_
    intro same
    obtain rfl := same
    exact absurd guarded (not_protected allowed member own.symm)
  | deleteRolePermission row =>
    cases applied
    refine ⟨fun _ member _ => member, ?_, fun role member _ => ⟨role, member, rfl, rfl, rfl⟩⟩
    intro role member guarded rp own
    simp only [Db.deleteRolePermission, mem_select]
    refine ⟨And.left, fun present => ⟨present, ?_⟩⟩
    by_contra hit
    simp only [Bool.not_eq_true, Bool.not_eq_false', Bool.and_eq_true, beq_iff_eq] at hit
    have whole : rp = row := eq_of_key_eq present allowed.1 hit.1
    subst whole
    exact not_protected allowed.2 member own.symm guarded
  | insertUserRole row =>
    obtain ⟨_, _, rfl⟩ := insertUserRole_some applied
    exact .of_tables rfl rfl
  | insertOverride row =>
    obtain ⟨_, _, rfl⟩ := insertOverride_some applied
    exact .of_tables rfl rfl
  | insertAcl row =>
    obtain ⟨_, _, rfl⟩ := insertAcl_some applied
    exact .of_tables rfl rfl
  | insertRefreshToken row =>
    obtain ⟨_, _, rfl⟩ := insertRefreshToken_some applied
    exact .of_tables rfl rfl
  | _ =>
    cases applied
    exact .of_tables rfl rfl

end Apply

/-! The requests. -/

section Requests
variable {Id : Type} [Identifier Id]

/-- `POST /roles`, `PATCH /roles/:id`, `DELETE /roles/:id` and
`PATCH /roles/:id/permissions`. -/
inductive RoleRequest (Id : Type) where
  | create (dto : CreateRoleDto)
  | update (id : Id) (body : Json)
  | delete (id : Id)
  | permissions (id : Id) (dto : UpdateRolePermissionsDto Id)

def RoleRequest.handler (driver : Driver) (now : Time) (tenantId actorId : Id) :
    RoleRequest Id → Handler Id Unit
  | .create dto => do let _ ← createCustomRole now tenantId dto actorId
  | .update id body => do let _ ← updateCustomRole driver now id tenantId body actorId
  | .delete id => deleteCustomRole id tenantId actorId
  | .permissions id dto => updateRolePermissions id tenantId dto actorId

def RoleRequest.deletes : RoleRequest Id → Uuid → Prop
  | .delete roleId, id => id = value roleId
  | _, _ => False

/-- A request of a tenant principal with the time and the ids that the database gives it. -/
structure RoleCall (Id : Type) where
  tenantId : Id
  actorId : Id
  request : RoleRequest Id
  now : Time
  ids : Nat → Uuid

def RoleCall.serve (driver : Driver) (call : RoleCall Id) (db : Db) : Db :=
  (Transaction.serve (engine Id (.tenantUser (value call.tenantId))) call.ids
    (call.request.handler driver call.now call.tenantId call.actorId) db).db

/-- The entity names a stored row and differs from it, so that the row is written anew. -/
structure Rewrites (driver : Driver) (now : Time) (db : Db) (draft : RoleDraft)
    (target row : RoleEntity) : Prop where
  present : target ∈ db.roles
  named : draft.names driver target = true
  differs : draft.stands driver target = false
  written : draft.over driver now target = some row

/-- The body of an update, merged into the custom role of the path, rewrites a visible row:
a system role, which is then another one, or a custom role, which is then a system role. -/
def Overwrites (driver : Driver) (db : Db) (call : RoleCall Id) : Prop :=
  match call.request with
  | .update id body =>
      ∃ role ∈ db.roles, role.id = value id ∧ role.isSystem = false ∧
        role.tenantId = some (value call.tenantId) ∧
        ∃ target row, Rewrites driver call.now db (assignBody role body) target row ∧
          (row.isSystem = true ∨ row.tenantId = some (value call.tenantId)) ∧
            (target.isSystem = true ∧ row ≠ target ∨
              target.isSystem = false ∧ target.tenantId = some (value call.tenantId) ∧
                row.isSystem = true)
  | _ => False

section Update
variable {driver : Driver} {now : Time} {db : Db} {tenantId : Id} {ids : Nat → Uuid}

theorem Rewrites.id {draft : RoleDraft} {target row : RoleEntity}
    (rewrites : Rewrites driver now db draft target row) :
    row.id = target.id := by
  have written := rewrites.written
  simp only [RoleDraft.over, Option.bind_eq_bind, Option.bind_eq_some_iff, Option.pure_def,
    Option.some.injEq] at written
  obtain ⟨_, _, _, _, _, _, _, _, _, _, _, _, rfl⟩ := written
  rfl

def preserving (Id : Type) (tenantId : Uuid) : Monitor (effects Id) Db :=
  ⟨Preserving tenantId fun _ => False, fun _ _ => False⟩

theorem wp_saveRole {draft : RoleDraft} {tx : Tx (effects Id) Db}
    (harmless : ∀ target row, Rewrites driver now tx.db draft target row →
      HarmlessUpdate (value tenantId) tx.db row) :
    wp (engine Id (.tenantUser (value tenantId))) ids (preserving Id (value tenantId))
      (saveRole driver now draft)
      (fun _ _ => True) (fun _ _ => True) tx := by
  unfold saveRole
  rw [wp_bind]
  refine wp_orThrow ?_ fun _ => trivial
  intro _ _
  simp only [wp_bind, wp_visible]
  split
  · next stored found =>
    obtain ⟨seen, named⟩ := findOne_some found
    split
    · trivial
    · next differs =>
      rw [wp_bind]
      refine wp_orThrow ?_ fun _ => trivial
      intro row written
      rw [wp_bind]
      have rewrites : Rewrites driver now tx.db draft stored row :=
        ⟨(mem_seen_roles.mp seen).1, named, by simpa using differs, written⟩
      exact wp_persist (harmless stored row rewrites) (fun _ _ => trivial) trivial
  · rw [wp_bind]
    refine wp_orThrow ?_ fun _ => trivial
    intro row _
    rw [wp_bind]
    exact wp_persist trivial (fun _ _ => trivial) trivial

theorem wp_update (id actorId : Id) (body : Json) (call : RoleCall Id)
    (tenant : call.tenantId = tenantId) (request : call.request = .update id body)
    (clean : ¬Overwrites driver db call) :
    wp (engine Id (.tenantUser (value tenantId))) ids (preserving Id (value tenantId))
      (updateCustomRole driver call.now id tenantId body actorId) (fun _ _ => True) (fun _ _ =>
        True) { db } := by
  simp only [Overwrites, request, tenant] at clean
  unfold updateCustomRole
  rw [wp_bind]
  refine wp_findOneForTenant ?_ fun _ => trivial
  intro role member same shown
  rw [wp_bind]
  refine wp_refuseIf ?_ fun _ => trivial
  intro custom
  have own := shown.resolve_left (by simp [custom])
  rw [wp_bind]
  refine wp_mono (wp_saveRole ?_) (fun _ _ _ => trivial) fun _ _ _ => trivial
  intro stored row rewrites admitted target present key visible
  have whole : target = stored := eq_of_key_eq present rewrites.present (key.trans rewrites.id)
  subst whole
  refine ⟨?_, ?_⟩
  · intro system
    by_contra differ
    exact clean ⟨role, member, same, custom, own, target, row, rewrites, admitted,
      .inl ⟨system, differ⟩⟩
  · intro notSystem
    have foreign : ¬row.isSystem = true := fun flagged =>
      clean ⟨role, member, same, custom, own, target, row, rewrites,
      admitted, .inr ⟨notSystem, visible.resolve_left (by simp [notSystem]), flagged⟩⟩
    exact ⟨by simpa using foreign, admitted.resolve_left foreign⟩

end Update

/-- A request that overwrites nothing keeps the guarantee. -/
theorem preserved_of_clean {driver : Driver} {db : Db} {call : RoleCall Id}
    (clean : ¬Overwrites driver db call) :
    Preserved (value call.tenantId) call.request.deletes db (call.serve driver db) := by
  have ensured :
    ∀ {scope : Scope} {handler : Handler Id Unit} {post : Unit → Tx (effects Id) Db → Prop},
      Ensures call.tenantId scope call.ids handler post { db } →
        Preserved (value call.tenantId) scope.deletes db
        (Transaction.serve (engine Id (.tenantUser (value call.tenantId))) call.ids handler db).db := by
    intro scope handler post holds
    apply serve_invariant holds Preserved.refl
    · intro _ _ _ _ _ _ before allowed applied
      exact before.trans (preserved_apply (preserving_of_tenantWrite allowed.1) (send_ok applied))
    · intro _ _ _ _ allowed before applied
      obtain ⟨_, rfl⟩ := detached_applied allowed applied
      exact before.trans (.of_tables rfl rfl)
  unfold RoleCall.serve
  cases request : call.request with
  | create dto =>
    have holds : Ensures call.tenantId {} call.ids
        ((RoleRequest.create dto).handler driver call.now call.tenantId call.actorId) (fun _ _ =>
            True) { db } := by
      simp only [Ensures, RoleRequest.handler, wp_bind]
      exact ensures_createCustomRole call.now dto call.actorId fun _ _ _ _ => trivial
    exact ensured holds
  | update id body =>
    have holds : wp (engine Id (.tenantUser (value call.tenantId))) call.ids
      (preserving Id (value call.tenantId))
        ((RoleRequest.update id body).handler driver call.now call.tenantId call.actorId) (fun _ _ => True)
          (fun _ _ => True) { db } := by
      simp only [RoleRequest.handler, wp_bind]
      exact wp_update id call.actorId body call rfl request clean
    apply serve_invariant holds Preserved.refl
    · intro _ _ _ _ _ _ before allowed applied
      exact before.trans (preserved_apply allowed (send_ok applied))
    · intro _ _ _ _ impossible
      exact impossible.elim
  | delete id =>
    have holds : Ensures call.tenantId { deletes := (RoleRequest.delete id).deletes } call.ids
        ((RoleRequest.delete id).handler driver call.now call.tenantId call.actorId) _ { db } :=
      ensures_deleteCustomRole id call.actorId rfl
    exact ensured holds
  | permissions id dto =>
    have holds : Ensures call.tenantId {} call.ids
        ((RoleRequest.permissions id dto).handler driver call.now call.tenantId call.actorId) _ { db } :=
      ensures_updateRolePermissions id dto call.actorId rfl
    exact ensured holds

/-! And nothing less will do. -/

section Overwritten
variable {driver : Driver} {now : Time} {db : Db} {tenantId : Id} {ids : Nat → Uuid}

theorem key_overwrite (row other : RoleEntity) : key { row with id := other.id } = key other := rfl

def overwritten (tenantId : Uuid) (db : Db) (row : RoleEntity) : Db :=
  { db with
    roles := db.roles.modify (fun other => other.id == row.id &&
      Session.admitsRole (.tenantUser tenantId) other)
      (fun other => { row with id := other.id }) (key_overwrite row) }

theorem Rewrites.found {draft : RoleDraft} {target row : RoleEntity} {t : Uuid}
    (rewrites : Rewrites driver now db draft target row)
    (visible : target.isSystem = true ∨ target.tenantId = some t) :
    (shown (.tenantUser t) db).roles.findOne (draft.names driver) = some target := by
  have seen : target ∈ (shown (.tenantUser t) db).roles :=
    mem_seen_roles.mpr ⟨rewrites.present, visible⟩
  have matched : ∀ other : RoleEntity, draft.names driver other = true →
      draft.id.reads driver.uuids.required = some other.id := by
    intro other named
    simp only [RoleDraft.names, Bool.and_eq_true, beq_iff_eq] at named
    exact named.1
  cases found : (shown (.tenantUser t) db).roles.findOne (draft.names driver) with
  | none =>
    have missed := findOne_none.mp found target seen
    rw [rewrites.named] at missed
    cases missed
  | some other =>
    obtain ⟨there, named⟩ := findOne_some found
    have same : other.id = target.id :=
      Option.some.inj ((matched other named).symm.trans (matched target rewrites.named))
    exact congrArg some (eq_of_key_eq there seen same)

theorem wp_overwrites {id actorId : Id} {body : Json} {role target row : RoleEntity}
    (member : role ∈ db.roles) (same : role.id = value id) (custom : role.isSystem = false)
    (own : role.tenantId = some (value tenantId))
    (rewrites : Rewrites driver now db (assignBody role body) target row)
    (admitted : row.isSystem = true ∨ row.tenantId = some (value tenantId))
    (visible : target.isSystem = true ∨ target.tenantId = some (value tenantId)) :
    wp (engine Id (.tenantUser (value tenantId))) ids ⟨fun _ _ => True, fun _ _ => True⟩
      (updateCustomRole driver now id tenantId body actorId)
      (fun _ after => after.db = overwritten (value tenantId) db row) (fun _ _ => False) { db } := by
  have applied : (Write.updateRole row).apply (.tenantUser (value tenantId)) db =
      some (overwritten (value tenantId) db row) := by
    have policy : Session.admitsRole (.tenantUser (value tenantId)) row = true := by
      simpa [Session.admitsRole] using admitted
    simp only [Write.apply, Db.updateRole, policy, if_true, overwritten]
  unfold updateCustomRole
  rw [wp_bind]
  refine wp_findOneForTenant ?_ ?_
  · intro other there key _
    have whole : other = role := eq_of_key_eq there member (key.trans same.symm)
    subst whole
    rw [wp_bind]
    refine wp_refuseIf ?_ (by simp [custom])
    intro _
    have named := rewrites.named
    simp only [RoleDraft.names, Bool.and_eq_true, beq_iff_eq] at named
    unfold saveRole
    simp only [wp_bind]
    refine wp_orThrow ?_ (by simp [named.1])
    intro _ _
    rw [wp_bind, wp_visible, rewrites.found visible]
    dsimp only
    rw [if_neg (by simp [rewrites.differs]), wp_bind]
    refine wp_orThrow ?_ (by simp [rewrites.written])
    intro found is
    have whole : found = row := Option.some.inj (is.symm.trans rewrites.written)
    subst whole
    rw [wp_bind]
    exact wp_persist_applied trivial applied rfl
  · intro hidden
    exact hidden role member same (.inr own)

/-- An overwritten row is not protected and keeps its flag only if the draft has it. -/
theorem row_of_overwritten {row target role : RoleEntity} {t : Uuid} (present : target ∈ db.roles)
    (key : target.id = row.id) (visible : target.isSystem = true ∨ target.tenantId = some t)
    (later : role ∈ (overwritten t db row).roles) (same : role.id = target.id) : role = row := by
  simp only [overwritten, mem_modify] at later
  rcases later with ⟨before, missed⟩ | ⟨before, there, hit, rfl⟩
  · have whole : role = target := eq_of_key_eq before present same
    subst whole
    rcases visible with system | own
    · simp [key, Session.admitsRole, system] at missed
    · simp [key, Session.admitsRole, own] at missed
  · simp only [Bool.and_eq_true, beq_iff_eq] at hit
    rw [hit.1]

theorem not_preserved_of_overwrites {call : RoleCall Id} (overwrites : Overwrites driver db call) :
    ¬Preserved (value call.tenantId) call.request.deletes db (call.serve driver db) := by
  intro preserved
  unfold Overwrites at overwrites
  split at overwrites
  · next id body request =>
    obtain ⟨role, member, same, custom, own, target, row, rewrites, admitted, harm⟩ := overwrites
    have visible : target.isSystem = true ∨ target.tenantId = some (value call.tenantId) :=
      harm.imp And.left fun other => other.2.1
    have holds : wp (engine Id (.tenantUser (value call.tenantId))) call.ids ⟨fun _ _ =>
      True, fun _ _ => True⟩
        (call.request.handler driver call.now call.tenantId call.actorId)
        (fun _ after => after.db = overwritten (value call.tenantId) db row) (fun _ _ =>
            False) { db } := by
      simp only [request, RoleRequest.handler, wp_bind]
      exact wp_overwrites member same custom own rewrites admitted visible
    obtain ⟨_, result, committed⟩ := serve_ok holds
    have after : call.serve driver db = overwritten (value call.tenantId) db row :=
      committed.trans result
    rw [after, request] at preserved
    have present := rewrites.present
    have key : target.id = row.id := rewrites.id.symm
    rcases harm with ⟨system, differ⟩ | ⟨notSystem, _, flagged⟩
    · have there := preserved.rows target present (.inl system)
      exact differ (row_of_overwritten present key visible there rfl).symm
    · obtain ⟨later, there, same, _, flag⟩ := preserved.flags target present (fun deleted => deleted)
      rw [row_of_overwritten present key visible there same, notSystem] at flag
      have conflict : true = false := flagged.symm.trans flag
      cases conflict
  · exact overwrites

end Overwritten

/-! Runs. -/

def serveAll (driver : Driver) (db : Db) (calls : List (RoleCall Id)) : Db :=
  calls.foldl (fun db call => call.serve driver db) db

/-- Every request of the run keeps the guarantee towards its own tenant. -/
def Guaranteed (driver : Driver) : Db → List (RoleCall Id) → Prop
  | _, [] => True
  | db, call :: rest => Preserved (value call.tenantId) call.request.deletes db (call.serve driver db) ∧
      Guaranteed driver (call.serve driver db) rest

/-- No request of the run overwrites a row that it must not change. -/
def Clean (driver : Driver) : Db → List (RoleCall Id) → Prop
  | _, [] => True
  | db, call :: rest => ¬Overwrites driver db call ∧ Clean driver (call.serve driver db) rest

/-- A run keeps the guarantee exactly if no body overwrites a protected row or flag. -/
theorem guaranteed_iff (driver : Driver) (db : Db) (calls : List (RoleCall Id)) :
    Guaranteed driver db calls ↔ Clean driver db calls := by
  induction calls generalizing db with
  | nil => exact Iff.rfl
  | cons call rest ih =>
    refine and_congr ⟨?_, preserved_of_clean⟩ (ih _)
    intro preserved overwrites
    exact not_preserved_of_overwrites overwrites preserved

/-- Over a whole run, system roles and the roles of tenants that take no part in it
stay as they are, and so do their mappings. -/
theorem kept_of_guaranteed {driver : Driver} {db : Db} {calls : List (RoleCall Id)}
    (guaranteed : Guaranteed driver db calls) {role : RoleEntity} (member : role ∈ db.roles)
    (outside : ∀ call ∈ calls, Protected (value call.tenantId) role) :
    role ∈ (serveAll driver db calls).roles ∧ ∀ rp : RolePermissionEntity, rp.roleId = role.id →
      (rp ∈ (serveAll driver db calls).rolePermissions ↔ rp ∈ db.rolePermissions) := by
  induction calls generalizing db with
  | nil => exact ⟨member, fun _ _ => Iff.rfl⟩
  | cons call rest ih =>
    obtain ⟨preserved, later⟩ := guaranteed
    have guarded := outside call List.mem_cons_self
    have next := ih later (preserved.rows role member guarded) fun other among =>
      outside other (List.mem_cons_of_mem _ among)
    refine ⟨next.1, fun rp own => ?_⟩
    rw [← preserved.mappings role member guarded rp own]
    exact next.2 rp own

end Requests

/-! Two bodies that break it. -/

def postgres : Driver where
  uuid
    | .string text => if shape : isUuid text = true then some (UuidText.toUuid ⟨text, shape⟩) else none
    | _ => none
  varchar := Json.asString
  boolean
    | .bool given => some given
    | _ => none
  timestamp _ := none

def clerk : RoleEntity :=
  { id := 5, tenantId := some 1, name := "Clerk", createdAt := 40, updatedAt := 40 }

def employee : RoleEntity :=
  { id := 9, tenantId := none, name := "Employee", description := some "Basic employee access",
    isSystem := true }

def rolesDb : Db := { roles := ⟨[clerk, employee], by decide⟩ }

def promotion : RoleCall Uuid := ⟨1, 2, .update 5 (.object [("is_system", .bool true)]), 50, fun _ => 0⟩

def takeover : RoleCall Uuid :=
  ⟨1, 2, .update 5 (.object [("id", .string (printUuid 9))]), 50, fun _ => 0⟩

theorem postgres_reads (id : Uuid) : postgres.uuid (.string (printUuid id)) = some id := by
  simp [postgres, isUuid_printUuid, toUuid_printUuid]

theorem bodies_overwrite :
    ¬Guaranteed postgres rolesDb [promotion] ∧ ¬Guaranteed postgres rolesDb [takeover] := by
  refine ⟨?_, ?_⟩
  · intro guaranteed
    have promotes : Overwrites postgres rolesDb promotion :=
      ⟨clerk, .head _, rfl, rfl, rfl, clerk, { clerk with isSystem := true, updatedAt := 50 },
        ⟨.head _, rfl, rfl, rfl⟩,
        .inl rfl, .inr ⟨rfl, rfl, rfl⟩⟩
    exact not_preserved_of_overwrites promotes guaranteed.1
  · intro guaranteed
    have named : (assignBody clerk (.object [("id", .string (printUuid 9))])).names postgres employee =
        true := by
      have matched : (Json.string (printUuid 9)).isString (printUuid 9) = true := beq_self_eq_true _
      have read : postgres.uuids.required.reads (.string (printUuid 9)) = some 9 := postgres_reads 9
      exact (Bool.and_eq_true _ _).mpr ⟨beq_iff_eq.mpr read, matched⟩
    have takes : Overwrites postgres rolesDb takeover :=
      ⟨clerk, .head _, rfl, rfl, rfl, employee, { clerk with id := 9 },
        ⟨.tail _ (.head _), named, rfl, rfl⟩, .inr rfl,
        .inl ⟨rfl, by decide⟩⟩
    exact not_preserved_of_overwrites takes guaranteed.1

end GenericIam.MassAssignment
