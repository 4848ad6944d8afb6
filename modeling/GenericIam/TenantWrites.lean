import GenericIam.AccountServices

/-! What the handlers of a tenant principal may send to the database, and that every
change which a check can see is announced by an event. -/

namespace GenericIam.TenantWrites
open Table Database Identifiers CacheKeys Events
open Transaction Handlers RbacServices AccountServices

/-! The statements of a tenant. -/

def UserOf (db : Db) (tenantId userId : Uuid) : Prop :=
  ∃ user ∈ db.users, user.id = userId ∧ user.tenantId = tenantId

def UsableRole (db : Db) (tenantId roleId : Uuid) : Prop :=
  ∃ role ∈ db.roles, role.id = roleId ∧ (role.isSystem = true ∨ role.tenantId = some tenantId)

def CustomRoleOf (db : Db) (tenantId roleId : Uuid) : Prop :=
  ∃ role ∈ db.roles, role.id = roleId ∧ role.isSystem = false ∧ role.tenantId = some tenantId

/-- What the request of a tenant names: the users whose ids it stores without looking
them up, and the role that it deletes. -/
structure Scope where
  names : Uuid → Prop := fun _ => False
  deletes : Uuid → Prop := fun _ => False

/-- A statement that stays with the rows of one tenant: what it inserts belongs to the
tenant, what it changes or removes has been read there, and it refers to no user
outside but those that the request names. -/
def TenantWrite (tenantId : Uuid) (scope : Scope) (db : Db) : Write → Prop
  | .insertUser row =>
    row.tenantId = tenantId ∧ ∀ managerId, row.managerId = some managerId → scope.names managerId
  | .updateUser id change => UserOf db tenantId id ∧
      ∀ managerId, change.managerId = some (some managerId) → scope.names managerId
  | .insertRole row => row.tenantId = some tenantId ∧ row.isSystem = false
  | .updateRole row =>
    CustomRoleOf db tenantId row.id ∧ row.tenantId = some tenantId ∧ row.isSystem = false
  | .deleteRole row =>
    scope.deletes row.id ∧ row ∈ db.roles ∧ row.isSystem = false ∧ row.tenantId = some tenantId ∧
      ∀ ur ∈ db.userRoles, ur.tenantId = tenantId → ur.roleId ≠ row.id
  | .insertRolePermission row => CustomRoleOf db tenantId row.roleId
  | .deleteRolePermission row => row ∈ db.rolePermissions ∧ CustomRoleOf db tenantId row.roleId
  | .insertUserRole row =>
      row.tenantId = tenantId ∧ UserOf db tenantId row.userId ∧ UsableRole db tenantId row.roleId
  | .updateUserRole row => row.tenantId = tenantId ∧
      ∃ old ∈ db.userRoles, old.id = row.id ∧ old.tenantId = row.tenantId ∧ old.userId = row.userId
  | .deleteUserRole row => row.tenantId = tenantId ∧ row ∈ db.userRoles
  | .insertOverride row => row.tenantId = tenantId ∧ scope.names row.userId
  | .updateOverride row => row.tenantId = tenantId ∧
      ∃ old ∈ db.userPermissionOverrides, old.id = row.id ∧ old.tenantId = row.tenantId ∧
        old.userId = row.userId
  | .deleteOverride row => row.tenantId = tenantId ∧ row ∈ db.userPermissionOverrides
  | .insertAcl row => row.tenantId = tenantId ∧ scope.names row.userId ∧
      row.resourceType ≠ "" ∧ row.resourceId ≠ "" ∧ row.permission ≠ ""
  | .deleteAcl row => row.tenantId = tenantId ∧ row ∈ db.resourceAcls
  | _ => False

def Generated (ids : Nat → Uuid) (write : Write) : Prop :=
  ∀ id, write.insertedId = some id → ∃ index, id = ids index

def tenantMonitor (Id : Type) (tenantId : Uuid) (scope : Scope) (ids : Nat → Uuid) :
    Monitor (effects Id) Db where
  write db write := TenantWrite tenantId scope db write ∧ Generated ids write
  detached _ write := ∃ userId, write = .deleteRefreshTokensOf userId

theorem detached_applied {Id : Type} {tenantId : Uuid} {scope : Scope} {ids : Nat → Uuid}
    {session : Session} {there before after : Db} {write : Write}
    (allowed : (tenantMonitor Id tenantId scope ids).detached there write)
    (applied : (engine Id session).applyDetached write before = .ok after) :
    ∃ userId, after = before.deleteRefreshTokensOf userId := by
  obtain ⟨userId, rfl⟩ := allowed
  have sent : send .bypassRls (.deleteRefreshTokensOf userId) before = .ok after := applied
  exact ⟨userId, (Option.some.inj (send_ok sent)).symm⟩

/-! The events that announce them. -/

section Announced
variable {Id : Type} [Identifier Id]

def CoversUser (tenantId userId : Uuid) (event : Event Id) : Prop :=
  ∃ t u : Id, value t = tenantId ∧ value u = userId ∧ handle event = invalidateUserPermissionCache t u

def CoversTenant (tenantId : Uuid) (event : Event Id) : Prop :=
  ∃ t : Id, value t = tenantId ∧ handle event = invalidateTenantPermissionCache t

/-- An entry with an empty field is never announced; none is ever created. -/
def CoversAcl (row : ResourceAclEntity) (event : Event Id) : Prop :=
  row.resourceType ≠ "" → row.resourceId ≠ "" → row.permission ≠ "" →
    ∃ t u : Id, value t = row.tenantId ∧ value u = row.userId ∧
      handle event = invalidateAclCache t u row.resourceType row.resourceId row.permission ++
        invalidateAuthzDecision t u row.permission row.resourceType row.resourceId

def Announced (tenantId : Uuid) (events : List (Event Id)) : Write → Prop
  | .insertUserRole row | .updateUserRole row | .deleteUserRole row =>
      ∃ event ∈ events, CoversUser row.tenantId row.userId event
  | .insertOverride row | .updateOverride row | .deleteOverride row =>
      ∃ event ∈ events, CoversUser row.tenantId row.userId event
  | .insertRolePermission _ | .deleteRolePermission _ => ∃ event ∈ events, CoversTenant tenantId event
  | .insertAcl row | .deleteAcl row => ∃ event ∈ events, CoversAcl row event
  | _ => True

theorem Announced.mono {tenantId : Uuid} {events later : List (Event Id)} {write : Write}
    (announced : Announced tenantId events write) (more : ∀ event ∈ events, event ∈ later) :
    Announced tenantId later write := by
  cases write with
  | insertUserRole row | updateUserRole row | deleteUserRole row | insertOverride row
  | updateOverride row
  | deleteOverride row | insertAcl row | deleteAcl row | insertRolePermission row
  | deleteRolePermission row =>
    obtain ⟨event, member, covers⟩ := announced
    exact ⟨event, more event member, covers⟩
  | _ => trivial

def AllAnnounced (tenantId : Uuid) (events : List (Event Id)) (log : List Write) : Prop :=
  ∀ write ∈ log, Announced tenantId events write

theorem AllAnnounced.none {tenantId : Uuid} {events : List (Event Id)} :
    AllAnnounced tenantId events [] := by
  intro write sent
  cases sent

theorem AllAnnounced.append {tenantId : Uuid} {events : List (Event Id)} {log : List Write}
    {write : Write} (all : AllAnnounced tenantId events log)
    (last : Announced tenantId events write) :
    AllAnnounced tenantId events (log ++ [write]) := by
  intro other member
  rcases List.mem_append.mp member with early | late
  · exact all other early
  · rw [List.mem_singleton.mp late]
    exact last

theorem covers_permissionChanged (tenantId userId : Id) :
    CoversUser (value tenantId) (value userId) (permissionChanged tenantId userId) :=
  ⟨tenantId, userId, rfl, rfl, rfl⟩

theorem covers_rolePermissionsChanged (tenantId roleId : Id) :
    CoversTenant (value tenantId) (rolePermissionsChanged tenantId roleId) :=
  ⟨tenantId, rfl, rfl⟩

theorem covers_aclChanged (eventType : AuditEventType) (row : ResourceAclEntity) (tenantId userId : Id)
    (tenant : value tenantId = row.tenantId) (user : value userId = row.userId) :
    CoversAcl row
      (aclChanged eventType tenantId userId row.resourceType row.resourceId row.permission) := by
  intro type id permission
  refine ⟨tenantId, userId, tenant, user, ?_⟩
  simp only [aclChanged, handle, handleAclChanged, truthy_some type, truthy_some id,
    truthy_some permission]

end Announced

/-! The handlers. -/

section Specs
variable {Id : Type} [Identifier Id] {tenantId : Id} {scope : Scope} {ids : Nat → Uuid} {α : Type}

/-- A handler under the session of the tenant sends statements of the tenant only and
returns with `post`. -/
abbrev Ensures (tenantId : Id) (scope : Scope) (ids : Nat → Uuid) (handler : Handler Id α)
    (post : α → Tx (effects Id) Db → Prop) (tx : Tx (effects Id) Db) : Prop :=
  wp (engine Id (.tenantUser (value tenantId))) ids
    (tenantMonitor Id (value tenantId) scope ids) handler post
    (fun _ _ => True) tx

variable {tx : Tx (effects Id) Db}

theorem ensures_persist {write : Write} {post : Unit → Tx (effects Id) Db → Prop}
    (allowed : TenantWrite (value tenantId) scope tx.db write)
    (done : ∀ db, write.apply (.tenantUser (value tenantId)) tx.db = some db →
      post () { tx with db, log := tx.log ++ [write] })
    (generated : Generated ids write := by simp [Generated, Write.insertedId]) :
    Ensures tenantId scope ids (persist write) post tx := wp_persist ⟨allowed, generated⟩ done trivial

theorem ensures_refuseIf {condition : Bool} {error : HttpException}
    {post : Unit → Tx (effects Id) Db → Prop} (passed : condition = false → post () tx) :
    Ensures tenantId scope ids (refuseIf condition error) post tx :=
  wp_refuseIf passed fun _ => trivial

theorem ensures_orThrow {found : Option α} {error : HttpException}
    {post : α → Tx (effects Id) Db → Prop} (present : ∀ row, found = some row → post row tx) :
    Ensures tenantId scope ids (orThrow found error) post tx := wp_orThrow present fun _ => trivial

theorem wp_findOneForTenant {monitor : Monitor (effects Id) Db} {id : Id} {tx : Tx (effects Id) Db}
    {post : RoleEntity → Tx (effects Id) Db → Prop}
    {fail : HttpException → Tx (effects Id) Db → Prop}
    (found : ∀ role ∈ tx.db.roles, role.id = value id →
      (role.isSystem = true ∨ role.tenantId = some (value tenantId)) → post role tx)
    (absent : (∀ role ∈ tx.db.roles, role.id = value id →
      ¬(role.isSystem = true ∨ role.tenantId = some (value tenantId))) →
        fail (.notFound "Role not found") tx) :
    wp (engine Id (.tenantUser (value tenantId))) ids monitor
      (findOneForTenant id tenantId) post fail tx := by
  unfold findOneForTenant
  rw [wp_bind, wp_visible]
  apply wp_orThrow
  · intro role present
    obtain ⟨member, matched⟩ := findOne_some present
    simp only [Bool.and_eq_true, beq_iff_eq] at matched
    exact found role (mem_seen_roles.mp member).1 matched.1 (mem_seen_roles.mp member).2
  · intro missing
    apply absent
    intro role member same shown
    have hidden := findOne_none.mp missing role (mem_seen_roles.mpr ⟨member, shown⟩)
    rcases shown with system | own
    · simp [same, system] at hidden
    · simp [same, own] at hidden

theorem ensures_findOneForTenant {id : Id} {post : RoleEntity → Tx (effects Id) Db → Prop}
    (found : ∀ role ∈ tx.db.roles, role.id = value id →
      (role.isSystem = true ∨ role.tenantId = some (value tenantId)) → post role tx) :
    Ensures tenantId scope ids (findOneForTenant id tenantId) post tx :=
  wp_findOneForTenant found fun _ => trivial

theorem custom_of_usable {role : RoleEntity} {t : Uuid} {db : Db} (member : role ∈ db.roles)
    (usable : role.isSystem = true ∨ role.tenantId = some t) (custom : role.isSystem = false) :
    CustomRoleOf db t role.id := by
  refine ⟨role, member, rfl, custom, ?_⟩
  rcases usable with system | own
  · rw [custom] at system
    cases system
  · exact own

theorem ensures_createCustomRole (now : Time) (dto : CreateRoleDto) (actorId : Id)
    {post : RoleEntity → Tx (effects Id) Db → Prop}
    (done : ∀ row after, after.log = tx.log ++ [.insertRole row] →
      (∀ event ∈ tx.events, event ∈ after.events) →
      post row after) :
    Ensures tenantId scope ids (createCustomRole now tenantId dto actorId) post tx := by
  unfold createCustomRole
  simp only [Ensures, wp_bind, wp_newId]
  refine ensures_persist ⟨rfl, rfl⟩ ?_
  intro db _
  exact done _ _ rfl fun event member => List.mem_append_left _ member

theorem ensures_deleteCustomRole (id actorId : Id) (deletes : scope.deletes (value id)) :
    Ensures tenantId scope ids (deleteCustomRole id tenantId actorId)
      (fun _ after => ∃ row, after.log = tx.log ++ [.deleteRole row]) tx := by
  unfold deleteCustomRole
  rw [Ensures, wp_bind]
  apply ensures_findOneForTenant
  intro role member same usable
  rw [wp_bind]
  apply ensures_refuseIf
  intro custom
  simp only [wp_bind, wp_visible]
  apply ensures_refuseIf
  intro unassigned
  rw [wp_bind]
  have nobody : ∀ ur ∈ tx.db.userRoles, ur.tenantId = value tenantId → ur.roleId ≠ role.id := by
    intro ur held own
    have empty : (shown (.tenantUser (value tenantId)) tx.db).userRoles.count
        (fun ur => ur.roleId == role.id) = 0 := by simpa using unassigned
    have away := count_eq_zero.mp empty ur (mem_seen_userRoles.mpr ⟨held, own⟩)
    simpa using away
  obtain ⟨_, _, _, _, own⟩ := custom_of_usable member usable custom
  refine ensures_persist ⟨same ▸ deletes, member, custom,
    usable.resolve_left (by simp [custom]), nobody⟩ ?_
  intro db _
  exact ⟨role, rfl⟩

/-! Role permissions. -/

/-- The state of the two loops over a role: it is a custom role of the tenant, and what
they have written so far will be announced by the event that closes the handler. -/
structure Mapping (tenantId roleId : Id) (tx : Tx (effects Id) Db) : Prop where
  role : CustomRoleOf tx.db (value tenantId) (value roleId)
  announced : AllAnnounced (value tenantId) [rolePermissionsChanged tenantId roleId] tx.log

theorem announced_mapping (tenantId roleId : Id) :
    ∃ event ∈ [rolePermissionsChanged tenantId roleId], CoversTenant (value tenantId) event :=
  ⟨_, List.mem_singleton_self _, covers_rolePermissionsChanged tenantId roleId⟩

theorem ensures_addMapping (roleId actorId : Id) (permission : PermissionEntity)
    (mapping : Mapping tenantId roleId tx) :
    Ensures tenantId scope ids (addMapping roleId tenantId actorId permission)
      (fun _ after => Mapping tenantId roleId after) tx := by
  unfold addMapping findMapping
  simp only [Ensures, wp_bind, wp_visible, wp_pure]
  split
  · exact mapping
  · simp only [wp_bind, wp_newId]
    refine ensures_persist mapping.role ?_
    intro db applied
    refine ⟨?_, mapping.announced.append (announced_mapping tenantId roleId)⟩
    simp only [Write.apply, Db.insertRolePermission] at applied
    split at applied
    · obtain ⟨_, _, rfl⟩ := Option.map_eq_some_iff.mp applied
      exact mapping.role
    · cases applied

theorem ensures_removeMapping (roleId actorId : Id) (permission : PermissionEntity)
    (mapping : Mapping tenantId roleId tx) :
    Ensures tenantId scope ids (removeMapping roleId tenantId actorId permission)
      (fun _ after => Mapping tenantId roleId after) tx := by
  unfold removeMapping findMapping
  simp only [Ensures, wp_bind, wp_visible, wp_pure]
  split
  · exact mapping
  · next row found =>
    obtain ⟨member, matched⟩ := findOne_some found
    simp only [Bool.and_eq_true, beq_iff_eq] at matched
    have custom : CustomRoleOf tx.db (value tenantId) row.roleId := by
      rw [matched.1]
      exact mapping.role
    rw [wp_bind]
    refine ensures_persist ⟨(mem_seen_rolePermissions.mp member).1, custom⟩ ?_
    intro db applied
    cases applied
    exact ⟨mapping.role, mapping.announced.append (announced_mapping tenantId roleId)⟩

theorem ensures_updateRolePermissions (roleId : Id) (dto : UpdateRolePermissionsDto Id) (actorId : Id)
    (start : tx.log = []) :
    Ensures tenantId scope ids (updateRolePermissions roleId tenantId dto actorId)
      (fun _ after => AllAnnounced (value tenantId) after.events after.log) tx := by
  unfold updateRolePermissions
  rw [Ensures, wp_bind]
  apply ensures_findOneForTenant
  intro role member same usable
  rw [wp_bind]
  apply ensures_refuseIf
  intro system
  have first : Mapping tenantId roleId tx := by
    refine ⟨?_, ?_⟩
    · rw [← same]
      exact custom_of_usable member usable system
    · rw [start]
      exact .none
  simp only [wp_bind, findPermissions, wp_visible, wp_pure]
  apply wp_forEach first
  · intro permission _ during mapping
    exact ensures_addMapping roleId actorId permission mapping
  · intro middle mapping
    simp only [wp_bind, wp_visible, wp_pure]
    apply wp_forEach mapping
    · intro permission _ during mapping
      exact ensures_removeMapping roleId actorId permission mapping
    · intro after mapping write sent
      exact (mapping.announced write sent).mono fun event member => List.mem_append_right _ member

/-! Assignments. -/

theorem ensures_requireUser {userId : Id} {post : UserEntity → Tx (effects Id) Db → Prop}
    (found : ∀ user ∈ tx.db.users, user.id = value userId →
      user.tenantId = value tenantId → post user tx) :
    Ensures tenantId scope ids (requireUser userId tenantId) post tx := by
  unfold requireUser
  rw [Ensures, wp_bind, wp_visible]
  apply ensures_orThrow
  intro user present
  obtain ⟨member, matched⟩ := findOne_some present
  simp only [Bool.and_eq_true, beq_iff_eq] at matched
  exact found user (mem_seen_users.mp member).1 matched.1 matched.2

theorem ensures_findAssignment {userId roleId : Id}
    {post : Option UserRoleEntity → Tx (effects Id) Db → Prop}
    (found : ∀ ur ∈ tx.db.userRoles, ur.userId = value userId → ur.tenantId = value tenantId →
      post (some ur) tx)
    (absent : post none tx) :
    Ensures tenantId scope ids (findAssignment userId roleId tenantId) post tx := by
  unfold findAssignment
  simp only [Ensures, wp_bind, wp_visible, wp_pure]
  cases present : (shown (.tenantUser (value tenantId)) tx.db).userRoles.findOne (fun ur =>
      ur.userId == value userId && ur.roleId == value roleId && ur.tenantId == value tenantId) with
  | none => exact absent
  | some ur =>
    obtain ⟨member, matched⟩ := findOne_some present
    simp only [Bool.and_eq_true, beq_iff_eq] at matched
    exact found ur (mem_seen_userRoles.mp member).1 matched.1.1 matched.2

/-- The state of an assignment handler: its user is there, and what it has written so
far will be announced by the event that closes it. -/
structure Assigning (tenantId userId : Id) (tx : Tx (effects Id) Db) : Prop where
  user : UserOf tx.db (value tenantId) (value userId)
  announced : AllAnnounced (value tenantId) [permissionChanged tenantId userId] tx.log

theorem announced_assignment {userId : Id} {row : UserRoleEntity}
    (tenant : row.tenantId = value tenantId) (user : row.userId = value userId) :
    ∃ event ∈ [permissionChanged tenantId userId], CoversUser row.tenantId row.userId event :=
  ⟨_, List.mem_singleton_self _, by rw [tenant, user]; exact covers_permissionChanged tenantId userId⟩

theorem ensures_saveAssignment {userId : Id} {dto : AssignRoleDto Id}
    {post : UserRoleEntity → Tx (effects Id) Db → Prop} (assigning : Assigning tenantId userId tx)
    (usable : UsableRole tx.db (value tenantId) (value dto.roleId))
    (done : ∀ row after, Assigning tenantId userId after → after.events = tx.events → post row after) :
    Ensures tenantId scope ids (saveAssignment userId tenantId dto) post tx := by
  unfold saveAssignment
  rw [Ensures, wp_bind]
  apply ensures_findAssignment
  · intro ur member user tenant
    unfold renewAssignment
    simp only [wp_bind, wp_visible]
    split
    · rw [wp_bind]
      refine ensures_persist ⟨tenant, ur, member, rfl, rfl, rfl⟩ ?_
      intro db applied
      cases applied
      exact done _ _ ⟨assigning.user, assigning.announced.append (announced_assignment tenant user)⟩ rfl
    · next missing =>
      refine absurd ?_ missing
      exact any_iff.mpr ⟨ur, mem_seen_userRoles.mpr ⟨member, tenant⟩, by simp⟩
  · simp only [wp_bind, wp_newId]
    refine ensures_persist ⟨rfl, assigning.user, usable⟩ ?_
    intro db applied
    have kept : db.users = tx.db.users := by
      simp only [Write.apply, Db.insertUserRole] at applied
      split at applied
      · obtain ⟨_, _, rfl⟩ := Option.map_eq_some_iff.mp applied
        rfl
      · cases applied
    refine done _ _ ⟨?_, assigning.announced.append (announced_assignment rfl rfl)⟩ rfl
    unfold UserOf
    rw [kept]
    exact assigning.user

theorem ensures_assignToUser {userId : Id} (dto : AssignRoleDto Id) (actorId : Id)
    {post : UserRoleEntity → Tx (effects Id) Db → Prop}
    (announced : AllAnnounced (value tenantId) [permissionChanged tenantId userId] tx.log)
    (done : ∀ row after, AllAnnounced (value tenantId) after.events after.log → post row after) :
    Ensures tenantId scope ids (assignToUser userId tenantId dto actorId) post tx := by
  unfold assignToUser
  rw [Ensures, wp_bind]
  apply ensures_requireUser
  intro user member same own
  rw [wp_bind]
  apply ensures_findOneForTenant
  intro role present found usable
  rw [wp_bind]
  apply ensures_saveAssignment ⟨⟨user, member, same, own⟩, announced⟩ ⟨role, present, found, usable⟩
  intro row after assigning events
  exact done row _ fun write sent =>
    (assigning.announced write sent).mono fun event member => List.mem_append_right _ member

theorem ensures_updateUserRoles (userId : Id) (dto : UpdateUserRolesDto Id) (actorId : Id)
    (start : tx.log = []) :
    Ensures tenantId scope ids (updateUserRoles userId tenantId dto actorId)
      (fun _ after => AllAnnounced (value tenantId) after.events after.log) tx := by
  unfold updateUserRoles
  rw [Ensures, wp_bind]
  apply ensures_requireUser
  intro user member same own
  rw [wp_bind]
  have first : Assigning tenantId userId tx := by
    refine ⟨⟨user, member, same, own⟩, ?_⟩
    rw [start]
    exact .none
  apply wp_forEach first
  · intro item _ during assigning
    unfold addRole
    rw [wp_bind]
    apply ensures_findOneForTenant
    intro role present found usable
    rw [wp_bind]
    apply ensures_saveAssignment assigning ⟨role, present, found, usable⟩
    intro row after later _
    exact ⟨later.user, later.announced⟩
  · intro middle assigning
    rw [wp_bind]
    apply wp_forEach assigning
    · intro roleId _ during assigning
      unfold removeRole
      rw [wp_bind]
      apply ensures_findAssignment
      · intro ur present user tenant
        simp only [wp_bind]
        refine ensures_persist ⟨tenant, present⟩ ?_
        intro db applied
        cases applied
        exact ⟨assigning.user, assigning.announced.append (announced_assignment tenant user)⟩
      · exact assigning
    · intro after assigning write sent
      exact (assigning.announced write sent).mono fun event member => List.mem_append_right _ member

end Specs

section Results
variable {Id : Type} [Identifier Id] {tenantId : Id} {ids : Nat → Uuid} {tx : Tx (effects Id) Db}

abbrev Returns (tenantId : Id) (ids : Nat → Uuid) {α : Type} (handler : Handler Id α)
    (post : α → Tx (effects Id) Db → Prop) (tx : Tx (effects Id) Db) : Prop :=
  wp (engine Id (.tenantUser (value tenantId))) ids ⟨fun _ _ => True, fun _ _ => True⟩ handler post
    (fun _ _ => True) tx

theorem returns_findOneForTenant {id : Id} {post : RoleEntity → Tx (effects Id) Db → Prop}
    (found : ∀ role, UsableRole tx.db (value tenantId) (value id) →
      (role.isSystem = false → CustomRoleOf tx.db (value tenantId) (value id)) →
      role.id = value id → post role tx) :
    Returns tenantId ids (findOneForTenant id tenantId) post tx := by
  refine wp_findOneForTenant ?_ fun _ => trivial
  intro role member same usable
  refine found role ⟨role, member, same, usable⟩ ?_ same
  intro custom
  rw [← same]
  exact custom_of_usable member usable custom

end Results
end GenericIam.TenantWrites
