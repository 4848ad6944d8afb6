import GenericIam.TenantWrites

/-! The requests by which a tenant principal changes the database, and what all of
them have in common. -/

namespace GenericIam.Operations
open Table Database Identifiers CacheKeys Events Transaction
open Handlers RbacServices AccountServices TenantWrites

/-! Overrides. -/

section Specs
variable {Id : Type} [Identifier Id] {tenantId : Id} {scope : Scope} {ids : Nat → Uuid}
  {tx : Tx (effects Id) Db}

theorem announced_override {userId : Id} {row : UserPermissionOverrideEntity} {events : List (Event Id)}
    (tenant : row.tenantId = value tenantId) (user : row.userId = value userId)
    (emitted : permissionChanged tenantId userId ∈ events) :
    ∃ event ∈ events, CoversUser row.tenantId row.userId event :=
  ⟨_, emitted, by rw [tenant, user]; exact covers_permissionChanged tenantId userId⟩

theorem allAnnounced_none {t : Uuid} {events : List (Event Id)} {log : List Write} (start : log = []) :
    AllAnnounced t events log := by
  rw [start]
  exact .none

/-- Every statement of a log with one statement in it. -/
theorem allAnnounced_one {t : Uuid} {events : List (Event Id)} {log : List Write} {write : Write}
    (start : log = []) (announced : Announced t events write) :
    AllAnnounced t events (log ++ [write]) := by
  rw [start]
  exact AllAnnounced.none.append announced

theorem ensures_addOverride (userId : Id) (dto : CreateOverrideDto Id) (actorId : Id)
    (names : scope.names (value userId)) (start : tx.log = []) :
    Ensures tenantId scope ids (addOverride userId tenantId dto actorId)
      (fun _ after => AllAnnounced (value tenantId) after.events after.log) tx := by
  unfold addOverride
  simp only [Ensures, wp_bind, wp_visible]
  apply ensures_orThrow
  intro permission _
  simp only [wp_bind, wp_visible]
  split
  · next existing found =>
    obtain ⟨member, matched⟩ := findOne_some found
    simp only [Bool.and_eq_true, beq_iff_eq] at matched
    split
    · rw [wp_pure, start]
      exact .none
    · rw [wp_bind]
      refine ensures_persist ⟨matched.2, existing, (mem_seen_overrides.mp member).1, rfl, rfl, rfl⟩ ?_
      intro db _
      exact allAnnounced_one start
        (announced_override matched.2 matched.1.1 (List.mem_append_right _ List.mem_cons_self))
  · simp only [wp_bind, wp_newId]
    refine ensures_persist ⟨rfl, names⟩ ?_
    intro db _
    exact allAnnounced_one start
      (announced_override rfl rfl (List.mem_append_right _ List.mem_cons_self))

theorem ensures_removeOverride (overrideId userId actorId : Id) (start : tx.log = []) :
    Ensures tenantId scope ids (removeOverride overrideId userId tenantId actorId)
      (fun _ after => AllAnnounced (value tenantId) after.events after.log) tx := by
  unfold removeOverride
  simp only [Ensures, wp_bind, wp_visible]
  split
  · exact allAnnounced_none start
  · next override found =>
    obtain ⟨member, matched⟩ := findOne_some found
    simp only [Bool.and_eq_true, beq_iff_eq] at matched
    rw [wp_bind]
    refine ensures_persist ⟨matched.2, (mem_seen_overrides.mp member).1⟩ ?_
    intro db _
    exact allAnnounced_one start
      (announced_override matched.2 matched.1.2 (List.mem_append_right _ List.mem_cons_self))

/-! ACL entries. -/

def NonEmpty (dto : CreateAclDto Id) : Prop :=
  dto.resourceType ≠ "" ∧ dto.resourceId ≠ "" ∧ dto.permission ≠ ""

theorem ensures_createAcl (dto : CreateAclDto Id) (actorId : Id) (filled : NonEmpty dto)
    (names : scope.names (value dto.userId)) (start : tx.log = []) :
    Ensures tenantId scope ids (createAcl tenantId dto actorId)
      (fun _ after => AllAnnounced (value tenantId) after.events after.log) tx := by
  unfold createAcl
  simp only [Ensures, wp_bind, wp_visible]
  split
  · exact allAnnounced_none start
  · simp only [wp_bind, wp_newId]
    refine wp_attempt ⟨⟨rfl, names, filled⟩, by simp [Generated, Write.insertedId]⟩ ?_ ?_
    · intro db _
      have covers := covers_aclChanged .ACL_CREATED
        ⟨ids tx.generated, value tenantId, value dto.userId, dto.resourceType,
          dto.resourceId, dto.permission⟩
        tenantId dto.userId rfl rfl
      exact allAnnounced_one start
        ⟨_, List.mem_append_left _ (List.mem_append_right _ List.mem_cons_self), covers⟩
    · intro why _
      split
      · trivial
      · trivial
      · trivial
      · next impossible => cases impossible

theorem ensures_deleteAcl (id actorId : Id) (start : tx.log = []) :
    Ensures tenantId scope ids (deleteAcl id tenantId actorId)
      (fun _ after => AllAnnounced (value tenantId) after.events after.log) tx := by
  unfold deleteAcl
  simp only [Ensures, wp_bind, wp_visible]
  apply ensures_orThrow
  intro acl found
  obtain ⟨member, matched⟩ := findOne_some found
  simp only [Bool.and_eq_true, beq_iff_eq] at matched
  rw [wp_bind]
  refine ensures_persist ⟨matched.2, (mem_seen_resourceAcls.mp member).1⟩ ?_
  intro db _
  have covers :=
    covers_aclChanged .ACL_DELETED acl tenantId (canonical acl.userId) matched.2.symm
    (value_canonical _)
  exact allAnnounced_one start
    ⟨_, List.mem_append_left _ (List.mem_append_right _ List.mem_cons_self), covers⟩

/-! Users. -/

theorem ensures_createUser (hashPassword : String → String) (dto : CreateUserDto Id) (actorId : Id)
    (names : ∀ managerId, dto.managerId = some managerId → scope.names (value managerId))
    (start : tx.log = []) :
    Ensures tenantId scope ids (createUser hashPassword tenantId dto actorId)
      (fun _ after => AllAnnounced (value tenantId) after.events after.log) tx := by
  unfold createUser findOneByName
  simp only [Ensures, wp_bind, wp_visible]
  apply ensures_refuseIf
  intro _
  simp only [wp_bind, wp_newId]
  refine ensures_persist ⟨rfl, ?_⟩ ?_
  · intro managerId given
    obtain ⟨manager, written, rfl⟩ := Option.map_eq_some_iff.mp given
    exact names manager written
  · intro db _
    simp only [wp_bind, wp_visible, wp_pure]
    split
    · exact allAnnounced_one start trivial
    · rw [wp_bind]
      apply ensures_assignToUser
      · exact allAnnounced_one start trivial
      · intro row after announced write sent
        exact (announced write sent).mono fun event member => List.mem_append_left _ member

theorem ensures_findUser {id : Id} {post : UserEntity → Tx (effects Id) Db → Prop}
    (found : ∀ user ∈ tx.db.users, user.id = value id → user.tenantId = value tenantId → post user tx) :
    Ensures tenantId scope ids (findUser id) post tx := by
  unfold findUser
  rw [Ensures, wp_bind, wp_visible]
  apply ensures_orThrow
  intro user present
  obtain ⟨member, matched⟩ := findOne_some present
  simp only [beq_iff_eq] at matched
  exact found user (mem_seen_users.mp member).1 matched (mem_seen_users.mp member).2

/-- Saving a changed copy of a stored user updates that row and nothing else. -/
theorem ensures_saveUser {stored user : UserEntity} {post : Unit → Tx (effects Id) Db → Prop}
    (member : stored ∈ tx.db.users) (own : stored.tenantId = value tenantId)
    (same : user.id = stored.id)
    (names : ∀ managerId, user.managerId = some managerId → stored.managerId ≠ user.managerId →
      scope.names managerId)
    (done : ∀ db write, (∀ events : List (Event Id), Announced (value tenantId) events write) →
      post () { tx with db, log := tx.log ++ [write] }) :
    Ensures tenantId scope ids (saveUser user) post tx := by
  unfold saveUser
  rw [Ensures, wp_bind, wp_visible]
  have visible : stored ∈ (shown (.tenantUser (value tenantId)) tx.db).users :=
    mem_seen_users.mpr ⟨member, own⟩
  split
  · next row found =>
    obtain ⟨present, matched⟩ := findOne_some found
    simp only [beq_iff_eq] at matched
    have whole : row = stored := eq_of_key_eq present visible (matched.trans same)
    subst whole
    refine ensures_persist ⟨⟨row, member, same.symm, own⟩, ?_⟩ fun db _ => done db _ fun _ => trivial
    intro managerId changed
    simp only [changedColumns] at changed
    split at changed
    · cases changed
    · next differ => exact names managerId (Option.some.inj changed) differ
  · next missing =>
    have hidden := findOne_none.mp missing stored visible
    simp [same] at hidden

theorem ensures_updateUser [DecidableEq Id] (id : Id) (dto : UpdateUserDto Id) (actorId : Id)
    (names : ∀ managerId, dto.managerId = .value managerId → scope.names (value managerId))
    (start : tx.log = []) :
    Ensures tenantId scope ids (updateUser id dto tenantId actorId)
      (fun _ after => AllAnnounced (value tenantId) after.events after.log) tx := by
  unfold updateUser
  rw [Ensures, wp_bind]
  apply ensures_findUser
  intro user member _ own
  rw [wp_bind]
  apply ensures_refuseIf
  intro _
  rw [wp_bind]
  apply ensures_refuseIf
  intro _
  rw [wp_bind]
  refine ensures_saveUser member own rfl ?_ ?_
  · intro managerId given differ
    simp only [assignUser] at given differ
    cases field : dto.managerId with
    | absent =>
      rw [field] at differ
      exact absurd rfl differ
    | null =>
      rw [field] at given
      cases given
    | value manager =>
      rw [field] at given
      cases given
      exact names manager field
  · intro db write announced
    exact allAnnounced_one start (announced _)

theorem ensures_setActivation [DecidableEq Id] (id : Id) (isActive : Bool) (actorId : Id)
    (start : tx.log = []) :
    Ensures tenantId scope ids (setActivation id tenantId isActive actorId)
      (fun _ after => AllAnnounced (value tenantId) after.events after.log) tx := by
  unfold setActivation
  rw [Ensures, wp_bind]
  apply ensures_findUser
  intro user member _ own
  rw [wp_bind]
  apply ensures_refuseIf
  intro _
  rw [wp_bind]
  refine ensures_saveUser member own rfl ?_ ?_
  · intro managerId _ differ
    exact absurd rfl differ
  · intro db write announced
    cases isActive with
    | true => exact allAnnounced_one start (announced _)
    | false =>
      simp only [Bool.not_false, if_true, wp_bind]
      refine wp_attemptDetached ⟨value id, rfl⟩ ?_ ?_
      · intro _ _
        exact allAnnounced_one start (announced _)
      · intro _ _
        trivial

/-! Roles. -/

/-- A body that names no role, no tenant and no flag. -/
def Plain (body : Json) : Prop :=
  body.property "id" = none ∧ body.property "tenant_id" = none ∧ body.property "is_system" = none

section Plain
variable {driver : Driver} {role stored : RoleEntity} {body : Json}

/-- Such a body leaves the entity with the row that it was loaded from. -/
theorem names_plain (plain : Plain body) :
    (assignBody role body).names driver = fun stored => stored.id == role.id := by
  funext stored
  obtain ⟨id, _, _⟩ := plain
  simp only [RoleDraft.names, assignBody, id, Member.assign, Member.reads, Member.stands]
  by_cases same : role.id = stored.id
  · simp [same]
  · have apart : ¬stored.id = role.id := fun equal => same equal.symm
    simp [same, apart]

theorem over_plain {now : Time} {row : RoleEntity} (plain : Plain body)
    (updated : (assignBody role body).over driver now stored = some row) :
    row.id = stored.id ∧ row.tenantId = role.tenantId ∧ row.isSystem = role.isSystem := by
  obtain ⟨_, tenant, system⟩ := plain
  have kept : ∀ {α : Type} [DecidableEq α] (column : ColumnType α) (old value : α),
      (Member.loaded value).over column old = some value := by
    intro α _ column old value
    unfold Member.over
    split
    · next same => exact congrArg some (eq_of_beq same).symm
    · rfl
  simp only [RoleDraft.over, assignBody, tenant, system, Member.assign, kept,
    Option.bind_eq_bind, Option.bind_some,
    Option.bind_eq_some_iff, Option.pure_def, Option.some.injEq] at updated
  obtain ⟨name, _, description, _, createdAt, _, updatedAt, _, rfl⟩ := updated
  exact ⟨rfl, rfl, rfl⟩

end Plain

theorem ensures_updateCustomRole (driver : Driver) (now : Time) (id : Id) (body : Json)
    (actorId : Id) (plain : Plain body) (start : tx.log = []) :
    Ensures tenantId scope ids (updateCustomRole driver now id tenantId body actorId)
      (fun _ after => AllAnnounced (value tenantId) after.events after.log) tx := by
  unfold updateCustomRole
  rw [Ensures, wp_bind]
  apply ensures_findOneForTenant
  intro role member _ usable
  rw [wp_bind]
  apply ensures_refuseIf
  intro custom
  have own := usable.resolve_left (by simp [custom])
  unfold saveRole
  simp only [wp_bind]
  apply ensures_orThrow
  intro _ _
  rw [wp_bind, wp_visible]
  have found : (shown (.tenantUser (value tenantId)) tx.db).roles.findOne
      ((assignBody role body).names driver) = some role := by
    rw [names_plain plain]
    exact findOne_key.mpr ⟨mem_seen_roles.mpr ⟨member, usable⟩, rfl⟩
  rw [found]
  dsimp only
  split
  · exact allAnnounced_none start
  · rw [wp_bind]
    apply ensures_orThrow
    intro row updated
    obtain ⟨same, tenant, system⟩ := over_plain plain updated
    rw [wp_bind]
    refine ensures_persist ⟨⟨role, member, same.symm, custom, own⟩, tenant.trans own,
      system.trans custom⟩ ?_
    intro db _
    exact allAnnounced_one start trivial

/-! All of them. -/

structure Environment where
  hashPassword : String → String
  driver : Driver

/-- A request for a service. The roles keep their dates by the time of the database. -/
inductive Operation (Id : Type) where
  | createCustomRole (now : Time) (dto : CreateRoleDto)
  | updateCustomRole (now : Time) (id : Id) (body : Json)
  | deleteCustomRole (id : Id)
  | updateRolePermissions (roleId : Id) (dto : UpdateRolePermissionsDto Id)
  | assignToUser (userId : Id) (dto : AssignRoleDto Id)
  | updateUserRoles (userId : Id) (dto : UpdateUserRolesDto Id)
  | addOverride (userId : Id) (dto : CreateOverrideDto Id)
  | removeOverride (overrideId userId : Id)
  | createAcl (dto : CreateAclDto Id)
  | deleteAcl (id : Id)
  | createUser (dto : CreateUserDto Id)
  | updateUser (id : Id) (dto : UpdateUserDto Id)
  | setActivation (id : Id) (isActive : Bool)

def Operation.handler [DecidableEq Id] (env : Environment) (tenantId actorId : Id) :
    Operation Id → Handler Id Unit
  | .createCustomRole now dto => do let _ ← RbacServices.createCustomRole now tenantId dto actorId
  | .updateCustomRole now id body => do
      let _ ← RbacServices.updateCustomRole env.driver now id tenantId body actorId
  | .deleteCustomRole id => RbacServices.deleteCustomRole id tenantId actorId
  | .updateRolePermissions roleId dto => RbacServices.updateRolePermissions roleId tenantId dto actorId
  | .assignToUser userId dto => do let _ ← RbacServices.assignToUser userId tenantId dto actorId
  | .updateUserRoles userId dto => RbacServices.updateUserRoles userId tenantId dto actorId
  | .addOverride userId dto => do let _ ← RbacServices.addOverride userId tenantId dto actorId
  | .removeOverride overrideId userId => RbacServices.removeOverride overrideId userId tenantId actorId
  | .createAcl dto => do let _ ← AccountServices.createAcl tenantId dto actorId
  | .deleteAcl id => AccountServices.deleteAcl id tenantId actorId
  | .createUser dto => do let _ ← AccountServices.createUser env.hashPassword tenantId dto actorId
  | .updateUser id dto => do let _ ← AccountServices.updateUser id dto tenantId actorId
  | .setActivation id isActive => AccountServices.setActivation id tenantId isActive actorId

/-- The body of an ACL request has passed validation, and that of a role update, which
nothing validates, stays with the columns of its type. -/
def Operation.Admissible : Operation Id → Prop
  | .createAcl dto => NonEmpty dto
  | .updateCustomRole _ _ body => Plain body
  | _ => True

def Operation.mentions : Operation Id → Scope
  | .deleteCustomRole roleId => { deletes := fun id => id = value roleId }
  | .addOverride userId _ => { names := fun id => id = value userId }
  | .createAcl dto => { names := fun id => id = value dto.userId }
  | .createUser dto =>
    { names := fun id => ∃ managerId, dto.managerId = some managerId ∧ id = value managerId }
  | .updateUser _ dto =>
    { names := fun id => ∃ managerId, dto.managerId = .value managerId ∧ id = value managerId }
  | _ => {}

/-- Whatever the request, its statements stay within the tenant and every change that a
check could see is announced by the time the handler returns. -/
theorem ensures_operation [DecidableEq Id] (env : Environment) (actorId : Id) {operation : Operation Id}
    (admissible : operation.Admissible) (start : tx.log = []) :
    Ensures tenantId operation.mentions ids (operation.handler env tenantId actorId)
      (fun _ after => AllAnnounced (value tenantId) after.events after.log) tx := by
  cases operation with
  | createCustomRole now dto =>
    simp only [Ensures, Operation.handler, wp_bind]
    apply ensures_createCustomRole
    intro row after logged _
    rw [wp_pure, logged]
    exact allAnnounced_one start trivial
  | updateCustomRole now id body =>
    simp only [Ensures, Operation.handler, wp_bind]
    exact ensures_updateCustomRole env.driver now id body actorId admissible start
  | deleteCustomRole id =>
    apply wp_mono (ensures_deleteCustomRole id actorId rfl)
    · intro _ after logged
      obtain ⟨row, logged⟩ := logged
      rw [logged]
      exact allAnnounced_one start trivial
    · intro _ _ _
      trivial
  | updateRolePermissions roleId dto => exact ensures_updateRolePermissions roleId dto actorId start
  | assignToUser userId dto =>
    simp only [Ensures, Operation.handler, wp_bind]
    refine ensures_assignToUser dto actorId ?_ fun _ _ announced => announced
    rw [start]
    exact .none
  | updateUserRoles userId dto => exact ensures_updateUserRoles userId dto actorId start
  | addOverride userId dto =>
    simp only [Ensures, Operation.handler, wp_bind]
    exact ensures_addOverride userId dto actorId rfl start
  | removeOverride overrideId userId => exact ensures_removeOverride overrideId userId actorId start
  | createAcl dto =>
    simp only [Ensures, Operation.handler, wp_bind]
    exact ensures_createAcl dto actorId admissible rfl start
  | deleteAcl id => exact ensures_deleteAcl id actorId start
  | createUser dto =>
    simp only [Ensures, Operation.handler, wp_bind]
    exact ensures_createUser env.hashPassword dto actorId (fun managerId given =>
      ⟨managerId, given, rfl⟩) start
  | updateUser id dto =>
    simp only [Ensures, Operation.handler, wp_bind]
    exact ensures_updateUser id dto actorId (fun managerId given => ⟨managerId, given, rfl⟩) start
  | setActivation id isActive => exact ensures_setActivation id isActive actorId start

end Specs
end GenericIam.Operations
