import GenericIam.Controllers
import GenericIam.Faults

/-! When the services emit their first event: after how many statements, by what the
request asks for and what the database holds. -/

namespace GenericIam.FirstEvents
open Table Database Identifiers CacheKeys Events Transaction Outset
open Handlers RbacServices AccountServices Operations Controllers

variable {Id : Type}

/-! Outsets of the steps that handlers are made of. -/

section Steps
variable {α : Type} {session : Session} {ids : Nat → Uuid} {tx : Tx (effects Id) Db}

@[simp] theorem outset_pure (value : α) :
    outset (engine Id session) ids (pure value) tx = .returns 0 value tx := rfl

@[simp] theorem outset_forEach_nil {ι : Type} (body : ι → Handler Id Unit) :
    outset (engine Id session) ids (forEach [] body) tx = .returns 0 () tx := rfl

@[simp] theorem outset_throw (error : HttpException) :
    outset (engine Id session) ids (.throw error : Handler Id α) tx = .throws := rfl

@[simp] theorem outset_visible :
    outset (engine Id session) ids visible tx = .returns 1 (shown session tx.db) tx := rfl

@[simp] theorem outset_newId :
    outset (engine Id session) ids newId tx =
      .returns 0 (ids tx.generated) { tx with generated := tx.generated + 1 } := rfl

@[simp] theorem outset_emit (event : Event Id) :
    outset (engine Id session) ids (emit event) = fun _ => .emits 0 := rfl

@[simp] theorem outset_refuseIf (condition : Bool) (error : HttpException) :
    outset (engine Id session) ids (refuseIf condition error) tx = if condition then .throws
      else .returns 0 () tx := by
  cases condition <;> rfl

@[simp] theorem outset_orThrow (found : Option α) (error : HttpException) :
    outset (engine Id session) ids (orThrow found error) tx =
      match found with
      | some row => .returns 0 row tx
      | none => .throws := by
  cases found <;> rfl

theorem outset_attempt (write : Write) : outset (engine Id session) ids (attempt write) tx =
    match send session write tx.db with
    | .ok db => .returns 1 none { tx with db, log := tx.log ++ [write] }
    | .error why => .returns 1 (some why) { tx with log := tx.log ++ [write] } := by
  simp only [attempt, outset, engine]
  cases send session write tx.db <;> rfl

@[simp] theorem outset_persist (write : Write) : outset (engine Id session) ids (persist write) tx =
    match write.apply session tx.db with
    | some db => .returns 1 () { tx with db, log := tx.log ++ [write] }
    | none => .throws := by
  unfold persist
  rw [outset_bind]
  dsimp only
  rw [outset_attempt]
  unfold send
  cases write.apply session tx.db <;> rfl

end Steps

/-! How many statements of each service have to succeed for its first event, or `none` if
it ends without one. -/

section FirstEvents
variable [Identifier Id]

def announced (session : Session) (db : Db) (write : Write) (sent : Nat) : Option Nat :=
  if (write.apply session db).isSome then some sent else none

variable (session : Session) (tenantId : Id) (db : Db)

def ownRole (id : Id) : Option RoleEntity :=
  (shown session db).roles.findOne fun role =>
    role.id == value id && (role.tenantId == some (value tenantId) || role.isSystem)

def customRole (id : Id) : Option RoleEntity :=
  (ownRole session tenantId db id).filter fun role => !role.isSystem

def createRoleEvent (newId : Uuid) (now : Time) (dto : CreateRoleDto) : Option Nat :=
  announced session db (.insertRole {
    id := newId, tenantId := some (value tenantId), name := dto.name, description := dto.description,
    createdAt := now, updatedAt := now }) 1

def saveRoleEvent (driver : Driver) (now : Time) (draft : RoleDraft) : Option Nat :=
  (draft.id.reads driver.uuids.required).bind fun _ =>
    match (shown session db).roles.findOne (draft.names driver) with
    | some stored =>
        if draft.stands driver stored then some 2
        else (draft.over driver now stored).bind fun updated =>
          announced session db (.updateRole updated) 3
    | none => (draft.inserted driver).bind fun inserted => announced session db (.insertRole inserted) 3

def updateRoleEvent (driver : Driver) (now : Time) (id : Id) (body : Json) : Option Nat :=
  (customRole session tenantId db id).bind fun role =>
    saveRoleEvent session db driver now (assignBody role body)

def deleteRoleEvent (id : Id) : Option Nat :=
  (customRole session tenantId db id).bind fun role =>
    if (shown session db).userRoles.count (fun ur => ur.roleId == role.id) > 0 then none else some 3

def isMapped (roleId : Id) (permission : PermissionEntity) : Bool :=
  ((shown session db).rolePermissions.findOne fun rp => rp.roleId == value roleId &&
    rp.permissionId == permission.id).isSome

def namedPermissions (refs : List (PermissionRef Id)) : List PermissionEntity :=
  (shown session db).permissions.find fun permission => refs.any fun ref => ref.names permission

def addMappingsEvent (newId : Uuid) (roleId : Id) :
    List PermissionEntity → (sent : Nat) → (rest : Nat → Option Nat) → Option Nat
  | [], sent, rest => rest sent
  | permission :: more, sent, rest =>
      if isMapped session db roleId permission then addMappingsEvent newId roleId more (sent + 1) rest
      else announced session db (.insertRolePermission ⟨newId, value roleId, permission.id⟩) (sent + 2)

def removeMappingsEvent (roleId : Id) : List PermissionEntity → (sent : Nat) → Nat
  | [], sent => sent
  | permission :: more, sent =>
      if isMapped session db roleId permission then sent + 2
        else removeMappingsEvent roleId more (sent + 1)

def assignPermissionsEvent (newId : Uuid) (roleId : Id)
    (dto : UpdateRolePermissionsDto Id) : Option Nat :=
  (customRole session tenantId db roleId).bind fun _ =>
    addMappingsEvent session db newId roleId (namedPermissions session db dto.add) 2 fun sent =>
      some (removeMappingsEvent session db roleId (namedPermissions session db dto.remove) (sent + 1))

def isMember (userId : Id) : Bool :=
  ((shown session db).users.findOne fun user => user.id == value userId &&
    user.tenantId == value tenantId).isSome

def heldAssignment (userId roleId : Id) : Option UserRoleEntity :=
  (shown session db).userRoles.findOne fun ur =>
    ur.userId == value userId && ur.roleId == value roleId && ur.tenantId == value tenantId

/-- The role has to be one of the tenant or a system role; an assignment that is there is
read again and renewed, which nothing refuses. -/
def assignmentEvent (newId : Uuid) (userId : Id) (dto : AssignRoleDto Id) (sent : Nat) : Option Nat :=
  (ownRole session tenantId db dto.roleId).bind fun _ =>
    match heldAssignment session tenantId db userId dto.roleId with
    | some _ => some (sent + 4)
    | none =>
        announced session db
          (.insertUserRole ⟨newId, value tenantId, value userId, value dto.roleId, dto.expiresAt⟩) (sent + 3)

def assignToUserEvent (newId : Uuid) (userId : Id) (dto : AssignRoleDto Id) : Option Nat :=
  if isMember session tenantId db userId then assignmentEvent session tenantId db newId userId dto 1
    else none

def removeRolesEvent (userId : Id) : List Id → (sent : Nat) → Nat
  | [], sent => sent
  | roleId :: more, sent =>
      if (heldAssignment session tenantId db userId roleId).isSome then sent + 2
        else removeRolesEvent userId more (sent + 1)

def updateUserRolesEvent (newId : Uuid) (userId : Id) (dto : UpdateUserRolesDto Id) : Option Nat :=
  if isMember session tenantId db userId then
    match dto.add with
    | item :: _ => assignmentEvent session tenantId db newId userId item 1
    | [] => some (removeRolesEvent session tenantId db userId dto.remove 1)
  else none

def heldOverride (userId permissionId : Id) : Option UserPermissionOverrideEntity :=
  (shown session db).userPermissionOverrides.findOne fun o =>
    o.userId == value userId && o.permissionId == value permissionId && o.tenantId == value tenantId

def addOverrideEvent (newId : Uuid) (userId : Id) (dto : CreateOverrideDto Id) : Option Nat :=
  ((shown session db).permissions.findOne fun permission =>
      permission.id == value dto.permissionId).bind fun _ =>
    match heldOverride session tenantId db userId dto.permissionId with
    | some existing => if existing.overrideType = dto.overrideType then none else some 3
    | none => announced session db
        (.insertOverride ⟨newId, value tenantId, value userId, value dto.permissionId, dto.overrideType,
          dto.reason.getD ""⟩) 3

def removeOverrideEvent (overrideId userId : Id) : Option Nat :=
  ((shown session db).userPermissionOverrides.findOne fun o =>
    o.id == value overrideId && o.userId == value userId && o.tenantId == value tenantId).map fun _ => 2

def createAclEvent (newId : Uuid) (dto : CreateAclDto Id) : Option Nat :=
  if ((shown session db).resourceAcls.findOne fun acl =>
    acl.tenantId == value tenantId && acl.userId == value dto.userId &&
      acl.resourceType == dto.resourceType &&
      acl.resourceId == dto.resourceId && acl.permission == dto.permission).isSome then none
  else announced session db
    (.insertAcl ⟨newId, value tenantId, value dto.userId, dto.resourceType, dto.resourceId,
      dto.permission⟩) 2

def deleteAclEvent (id : Id) : Option Nat :=
  ((shown session db).resourceAcls.findOne fun acl => acl.id == value id &&
    acl.tenantId == value tenantId).map fun _ => 2

/-- The user is created before its role is looked up, so the assignment is decided on
the database with the user. -/
def createUserEvent (hashPassword : String → String) (ids : Nat → Uuid)
    (dto : CreateUserDto Id) : Option Nat :=
  if (shown session db).users.any fun user =>
    user.tenantId == value tenantId && user.email == dto.email then none
  else
    let saved : UserEntity := {
      id := ids 0, tenantId := value tenantId, email := dto.email, passwordHash :=
        hashPassword dto.password,
      firstName := dto.firstName, lastName := dto.lastName, managerId := dto.managerId.map value }
    ((Write.insertUser saved).apply session db).bind fun created =>
      let defaultRole := (shown session created).roles.findOne fun role =>
        role.name == memberRole && role.tenantId == none
      match dto.roleId.or (defaultRole.map fun role => canonical role.id) with
      | none => some 3
      | some roleId =>
          (assignToUserEvent session tenantId created (ids 1) (canonical (ids 0)) ⟨roleId, none⟩).map (· + 3)

def loadedUser (id : Id) : Option UserEntity :=
  (shown session db).users.findOne fun user => user.id == value id

def updateUserEvent [DecidableEq Id] (id : Id) (dto : UpdateUserDto Id) : Option Nat :=
  (loadedUser session db id).bind fun user =>
    if canonical user.tenantId = tenantId ∧ dto.nullsColumn = false then
      announced session db (.updateUser user.id (changedColumns user (assignUser user dto))) 3
    else none

def setActivationEvent [DecidableEq Id] (id : Id) (isActive : Bool) : Option Nat :=
  (loadedUser session db id).bind fun user =>
    if canonical user.tenantId = tenantId then
      announced session db (.updateUser user.id (changedColumns user { user with isActive }))
        (if isActive then 3 else 4)
    else none

def loadedTenant (id : Id) : Option TenantEntity :=
  (shown session db).tenants.findOne fun tenant => tenant.id == value id

def saveTenantEvent (tenant merged : TenantEntity) : Option Nat :=
  announced session db (.updateTenant tenant.id (changedTenantColumns tenant merged)) 3

def updateTenantEvent (id : Id) (dto : UpdateTenantDto) : Option Nat :=
  (loadedTenant session db id).bind fun tenant =>
    if dto.nullsColumn then none else saveTenantEvent session db tenant (mergeTenant tenant dto)

def deactivateTenantEvent (id : Id) : Option Nat :=
  (loadedTenant session db id).bind fun tenant =>
    saveTenantEvent session db tenant { tenant with isActive := false }

def createTenantEvent (hashPassword : String → String) (ids : Nat → Uuid)
    (dto : CreateTenantDto) : Option Nat :=
  if (shown session db).tenants.any fun tenant =>
    tenant.name == dto.name || tenant.slug == dto.slug then none
  else
    let savedTenant : TenantEntity :=
      { id := ids 0, name := dto.name, slug := dto.slug, settings := some (dto.settings.getD "{}") }
    let savedUser : UserEntity := {
      id := ids 1, tenantId := ids 0, email := dto.adminEmail, passwordHash :=
        hashPassword dto.adminPassword,
      firstName := dto.adminFirstName, lastName := dto.adminLastName }
    ((Write.insertTenant savedTenant).apply session db).bind fun db =>
      ((Write.insertUser savedUser).apply session db).bind fun db =>
        match (shown session db).roles.findOne fun role =>
            role.name == tenantAdminRole && role.isSystem with
        | none => some 4
        | some adminRole =>
            announced session db (.insertUserRole ⟨ids 2, ids 0, ids 1, adminRole.id, none⟩) 5

end FirstEvents

/-! The services come to their first event as said. -/

/-- A step that emits nothing and cannot fail changes nothing. -/
theorem firstEvent_silent {α β : Type} (before : Outset (effects Id) Db α) (value : α → β) :
    (before.andThen fun answer tx => .returns 0 (value answer) tx).firstEvent = before.firstEvent := by
  cases before <;> rfl

section Services
variable [Identifier Id] {session : Session} {ids : Nat → Uuid} {tenantId actorId : Id} {db : Db}

theorem createCustomRole_event (now : Time) (dto : CreateRoleDto) :
    (outset (engine Id session) ids (createCustomRole now tenantId dto actorId) { db }).firstEvent =
      createRoleEvent session tenantId db (ids 0) now dto := by
  unfold createCustomRole createRoleEvent announced
  simp only [outset_bind, outset_newId, returns_andThen, outset_persist]
  generalize (Write.insertRole _).apply session db = applied
  cases applied <;> rfl

theorem outset_findOneForTenant (id : Id) (tx : Tx (effects Id) Db) :
    outset (engine Id session) ids (findOneForTenant id tenantId) tx =
      match ownRole session tenantId tx.db id with
      | some role => .returns 1 role tx
      | none => .throws := by
  unfold findOneForTenant ownRole
  simp only [outset_bind, outset_visible, returns_andThen, outset_orThrow]
  generalize (shown session tx.db).roles.findOne _ = found
  cases found <;> rfl

/-- The two steps by which a service finds a role that it may change. -/
theorem outset_customRole {α : Type} (id : Id) (error : HttpException)
    (next : RoleEntity → Handler Id α) (tx : Tx (effects Id) Db) :
    outset (engine Id session) ids (findOneForTenant id tenantId >>= fun role =>
      refuseIf role.isSystem error >>= fun _ => next role) tx =
      match customRole session tenantId tx.db id with
      | some role => (outset (engine Id session) ids (next role) tx).after 1
      | none => .throws := by
  simp only [outset_bind, outset_findOneForTenant]
  unfold customRole
  cases ownRole session tenantId tx.db id with
  | none => rfl
  | some role =>
    simp only [returns_andThen, outset_refuseIf]
    cases system : role.isSystem <;> simp [Option.filter, system]

omit [Identifier Id] in
theorem saveRole_event {α : Type} (driver : Driver) (now : Time) (draft : RoleDraft)
    (tx : Tx (effects Id) Db) (next : RoleEntity → Tx (effects Id) Db → Outset (effects Id) Db α)
    (emits : ∀ row tx, next row tx = .emits 0) :
    (((outset (engine Id session) ids (saveRole driver now draft) tx).andThen next).after
      1).firstEvent =
      saveRoleEvent session tx.db driver now draft := by
  unfold saveRole saveRoleEvent announced
  cases draft.id.reads driver.uuids.required with
  | none => rfl
  | some id =>
    simp only [outset_bind, outset_orThrow, outset_visible, returns_andThen, Option.bind_some]
    cases (shown session tx.db).roles.findOne (draft.names driver) with
    | some stored =>
      dsimp only
      split
      · simp [emits]
      · simp only [outset_bind, outset_orThrow]
        cases draft.over driver now stored with
        | none => rfl
        | some updated =>
          simp only [returns_andThen, outset_persist, Option.bind_some]
          cases (Write.updateRole updated).apply session tx.db with
          | none => rfl
          | some db => simp [emits]
    | none =>
      simp only [outset_bind, outset_orThrow]
      cases draft.inserted driver with
      | none => rfl
      | some inserted =>
        simp only [returns_andThen, outset_persist, Option.bind_some]
        cases (Write.insertRole inserted).apply session tx.db with
        | none => rfl
        | some db => simp [emits]

theorem updateCustomRole_event (driver : Driver) (now : Time) (id : Id) (body : Json) :
    (outset (engine Id session) ids (updateCustomRole driver now id tenantId body actorId)
      { db }).firstEvent =
      updateRoleEvent session tenantId db driver now id body := by
  unfold updateCustomRole updateRoleEvent
  rw [outset_customRole]
  dsimp only
  cases customRole session tenantId db id with
  | none => rfl
  | some role =>
    dsimp only [Option.bind_some]
    rw [outset_bind]
    exact saveRole_event driver now (assignBody role body) { db } _ fun _ _ => rfl

theorem deleteCustomRole_event (id : Id) :
    (outset (engine Id session) ids (deleteCustomRole id tenantId actorId) { db }).firstEvent =
      deleteRoleEvent session tenantId db id := by
  unfold deleteCustomRole deleteRoleEvent
  rw [outset_customRole]
  dsimp only
  cases customRole session tenantId db id with
  | none => rfl
  | some role =>
    simp only [Option.bind_some, outset_bind, outset_visible, returns_andThen, outset_refuseIf,
      decide_eq_true_eq]
    split <;> rfl

theorem outset_addMapping (roleId : Id) (permission : PermissionEntity) (tx : Tx (effects Id) Db) :
    outset (engine Id session) ids (addMapping roleId tenantId actorId permission) tx =
      if isMapped session tx.db roleId permission then .returns 1 () tx
      else if ((Write.insertRolePermission ⟨ids tx.generated, value roleId, permission.id⟩).apply
        session tx.db).isSome then .emits 2
      else .throws := by
  unfold addMapping findMapping isMapped
  simp only [outset_bind, outset_visible, returns_andThen]
  generalize (shown session tx.db).rolePermissions.findOne _ = found
  cases found with
  | some mapping => rfl
  | none =>
    simp only [outset_pure, Outset.after, returns_andThen, outset_bind, outset_newId, outset_persist]
    cases (Write.insertRolePermission ⟨ids tx.generated, value roleId, permission.id⟩).apply session
      tx.db <;> rfl

theorem outset_removeMapping (roleId : Id) (permission : PermissionEntity) (tx : Tx (effects Id) Db) :
    outset (engine Id session) ids (removeMapping roleId tenantId actorId permission) tx =
      if isMapped session tx.db roleId permission then .emits 2 else .returns 1 () tx := by
  unfold removeMapping findMapping isMapped
  simp only [outset_bind, outset_visible, returns_andThen]
  generalize (shown session tx.db).rolePermissions.findOne _ = found
  cases found <;> rfl

/-- Until its first event the loop sends nothing that changes the database. -/
theorem addMappings_event {α : Type} (roleId : Id) (permissions : List PermissionEntity)
    (sent : Nat) (tx : Tx (effects Id) Db) (next : Tx (effects Id) Db → Outset (effects Id) Db α) :
    (((outset (engine Id session) ids (forEach permissions (addMapping roleId tenantId actorId))
      tx).andThen fun _ => next).after sent).firstEvent =
      addMappingsEvent session tx.db (ids tx.generated) roleId permissions sent fun sent =>
        ((next tx).after sent).firstEvent := by
  induction permissions generalizing sent with
  | nil =>
    unfold addMappingsEvent
    simp [forEach, outset]
  | cons permission more ih =>
    unfold forEach addMappingsEvent
    rw [outset_programBind, outset_addMapping]
    split
    · simp only [returns_andThen, Outset.after_andThen, Outset.after_after]
      rw [ih, Nat.add_comm 1 sent]
    · unfold announced
      split
      · simp [Nat.add_comm]
      · rfl

theorem removeMappings_event (roleId : Id) (permissions : List PermissionEntity) (event : Event Id)
    (sent : Nat) (tx : Tx (effects Id) Db) :
    (((outset (engine Id session) ids (forEach permissions (removeMapping roleId tenantId actorId))
      tx).andThen fun _ tx =>
        outset (engine Id session) ids (emit event) tx).after sent).firstEvent =
      some (removeMappingsEvent session tx.db roleId permissions sent) := by
  induction permissions generalizing sent with
  | nil => simp [forEach, outset, removeMappingsEvent, Outset.after]
  | cons permission more ih =>
    unfold forEach removeMappingsEvent
    rw [outset_programBind, outset_removeMapping]
    split
    · simp [Outset.after, Nat.add_comm]
    · simp only [returns_andThen, Outset.after_andThen, Outset.after_after]
      rw [Nat.add_comm 1 sent]
      exact ih _

theorem updateRolePermissions_event (roleId : Id) (dto : UpdateRolePermissionsDto Id) :
    (outset (engine Id session) ids (updateRolePermissions roleId tenantId dto actorId)
      { db }).firstEvent =
      assignPermissionsEvent session tenantId db (ids 0) roleId dto := by
  unfold updateRolePermissions assignPermissionsEvent
  rw [outset_customRole]
  dsimp only
  cases customRole session tenantId db roleId with
  | none => rfl
  | some role =>
    simp only [Option.bind_some, outset_bind, findPermissions, outset_visible, outset_pure,
      returns_andThen, Outset.after_zero,
      Outset.after_andThen, Outset.after_after]
    refine (addMappings_event roleId _ 2 { db } _).trans ?_
    congr 1
    funext sent
    simp only [Outset.after_after]
    refine (removeMappings_event roleId _ _ _ { db }).trans ?_
    rw [Nat.add_comm]
    rfl

theorem outset_requireUser (userId : Id) (tx : Tx (effects Id) Db) :
    (outset (engine Id session) ids (requireUser userId tenantId) tx) =
      match (shown session tx.db).users.findOne fun user =>
        user.id == value userId && user.tenantId == value tenantId with
      | some user => .returns 1 user tx
      | none => .throws := by
  unfold requireUser
  simp only [outset_bind, outset_visible, returns_andThen, outset_orThrow]
  generalize (shown session tx.db).users.findOne _ = found
  cases found <;> rfl

theorem outset_saveAssignment {α : Type} (userId : Id) (dto : AssignRoleDto Id)
    (tx : Tx (effects Id) Db)
    (next : UserRoleEntity → Tx (effects Id) Db → Outset (effects Id) Db α)
    (emits : ∀ row tx, next row tx = .emits 0) :
    (outset (engine Id session) ids (saveAssignment userId tenantId dto) tx).andThen next =
      match heldAssignment session tenantId tx.db userId dto.roleId with
      | some _ => .emits 3
      | none =>
          if ((Write.insertUserRole ⟨ids tx.generated, value tenantId, value userId, value dto.roleId,
            dto.expiresAt⟩).apply session
            tx.db).isSome then .emits 2 else .throws := by
  unfold saveAssignment findAssignment heldAssignment
  simp only [outset_bind, outset_visible, returns_andThen]
  generalize found : (shown session tx.db).userRoles.findOne _ = held
  cases held with
  | some assignment =>
    have still : ((shown session tx.db).userRoles.any fun ur => ur.id == assignment.id) = true :=
      any_iff.mpr ⟨assignment, (findOne_some found).1, by simp⟩
    simp [renewAssignment, outset_bind, still, Write.apply, emits]
  | none =>
    simp only [outset_pure, returns_after, returns_andThen, outset_bind, outset_newId, outset_persist]
    cases (Write.insertUserRole ⟨ids tx.generated, value tenantId, value userId, value dto.roleId,
        dto.expiresAt⟩).apply session tx.db with
    | none => rfl
    | some db => simp [emits]

/-- The role is looked up, the assignment saved and announced. -/
theorem assignment_event {α : Type} (userId : Id) (dto : AssignRoleDto Id) (sent : Nat)
    (tx : Tx (effects Id) Db)
    (next : UserRoleEntity → Tx (effects Id) Db → Outset (effects Id) Db α)
    (emits : ∀ row tx, next row tx = .emits 0) :
    (((outset (engine Id session) ids (findOneForTenant dto.roleId tenantId) tx).andThen fun _ tx =>
        (outset (engine Id session) ids (saveAssignment userId tenantId dto) tx).andThen next).after
          sent).firstEvent =
      assignmentEvent session tenantId tx.db (ids tx.generated) userId dto sent := by
  unfold assignmentEvent announced
  rw [outset_findOneForTenant]
  cases ownRole session tenantId tx.db dto.roleId with
  | none => rfl
  | some role =>
    simp only [returns_andThen, Option.bind_some]
    rw [outset_saveAssignment userId dto tx next emits]
    cases heldAssignment session tenantId tx.db userId dto.roleId with
    | some assignment => simp [Outset.after, Nat.add_comm]
    | none =>
      dsimp only
      split
      · simp [Outset.after, Nat.add_comm]
      · rfl

/-- Whatever follows, the assignment is announced first or refused. -/
theorem assignToUser_event {α : Type} (userId : Id) (dto : AssignRoleDto Id) (tx : Tx (effects Id) Db)
    (next : UserRoleEntity → Tx (effects Id) Db → Outset (effects Id) Db α) :
    ((outset (engine Id session) ids (assignToUser userId tenantId dto actorId) tx).andThen
      next).firstEvent =
      assignToUserEvent session tenantId tx.db (ids tx.generated) userId dto := by
  unfold assignToUser assignToUserEvent isMember
  simp only [outset_bind, outset_requireUser, Outset.andThen_andThen, outset_emit, emits_andThen]
  generalize (shown session tx.db).users.findOne _ = found
  cases found with
  | none => rfl
  | some user =>
    simp only [returns_andThen, Option.isSome_some, if_true]
    exact assignment_event userId dto 1 tx _ fun _ _ => rfl

theorem removeRoles_event (userId : Id) (roleIds : List Id) (event : Event Id) (sent : Nat)
    (tx : Tx (effects Id) Db) :
    (((outset (engine Id session) ids (forEach roleIds (removeRole userId tenantId actorId)) tx).andThen
      fun _ tx =>
        outset (engine Id session) ids (emit event) tx).after sent).firstEvent =
      some (removeRolesEvent session tenantId tx.db userId roleIds sent) := by
  induction roleIds generalizing sent with
  | nil => simp [forEach, outset, removeRolesEvent, Outset.after]
  | cons roleId more ih =>
    have removes : outset (engine Id session) ids (removeRole userId tenantId actorId roleId) tx =
        if (heldAssignment session tenantId tx.db userId roleId).isSome then .emits 2
            else .returns 1 () tx := by
      unfold removeRole findAssignment heldAssignment
      simp only [outset_bind, outset_visible, returns_andThen]
      generalize (shown session tx.db).userRoles.findOne _ = found
      cases found <;> rfl
    unfold forEach removeRolesEvent
    rw [outset_programBind, removes]
    split
    · simp [Outset.after, Nat.add_comm]
    · simp only [returns_andThen, Outset.after_andThen, Outset.after_after]
      rw [Nat.add_comm 1 sent]
      exact ih _

theorem updateUserRoles_event (userId : Id) (dto : UpdateUserRolesDto Id) :
    (outset (engine Id session) ids (updateUserRoles userId tenantId dto actorId) { db }).firstEvent =
      updateUserRolesEvent session tenantId db (ids 0) userId dto := by
  unfold updateUserRoles updateUserRolesEvent isMember
  simp only [outset_bind, outset_requireUser]
  generalize (shown session db).users.findOne _ = found
  cases found with
  | none => rfl
  | some user =>
    simp only [returns_andThen, Option.isSome_some, if_true]
    cases dto.add with
    | nil =>
      simp only [outset_forEach_nil, returns_andThen, Outset.after_zero]
      exact removeRoles_event userId dto.remove _ 1 { db }
    | cons item more =>
      simp only [outset_bind, forEach, outset_programBind, addRole, outset_emit,
        Outset.andThen_andThen, emits_andThen]
      exact assignment_event userId item 1 { db } _ fun _ _ => rfl

theorem addOverride_event (userId : Id) (dto : CreateOverrideDto Id) :
    (outset (engine Id session) ids (addOverride userId tenantId dto actorId) { db }).firstEvent =
      addOverrideEvent session tenantId db (ids 0) userId dto := by
  unfold addOverride addOverrideEvent heldOverride
  simp only [outset_bind, outset_visible, returns_andThen, outset_orThrow]
  generalize (shown session db).permissions.findOne _ = permission
  cases permission with
  | none => rfl
  | some permission =>
    simp only [returns_andThen, Option.bind_some]
    generalize (shown session db).userPermissionOverrides.findOne _ = found
    cases found with
    | some existing =>
      dsimp only
      split <;> rfl
    | none =>
      unfold announced
      simp only [outset_bind, outset_newId, returns_andThen, outset_persist, emitOverrideEvent]
      cases (Write.insertOverride ⟨ids 0, value tenantId, value userId,
        value dto.permissionId, dto.overrideType,
        dto.reason.getD ""⟩).apply session db <;> rfl

theorem removeOverride_event (overrideId userId : Id) :
    (outset (engine Id session) ids (removeOverride overrideId userId tenantId actorId)
      { db }).firstEvent =
      removeOverrideEvent session tenantId db overrideId userId := by
  unfold removeOverride removeOverrideEvent
  simp only [outset_bind, outset_visible, returns_andThen]
  generalize (shown session db).userPermissionOverrides.findOne _ = found
  cases found <;> rfl

theorem createAcl_event (dto : CreateAclDto Id) :
    (outset (engine Id session) ids (createAcl tenantId dto actorId) { db }).firstEvent =
      createAclEvent session tenantId db (ids 0) dto := by
  unfold createAcl createAclEvent announced
  simp only [outset_bind, outset_visible, returns_andThen]
  generalize (shown session db).resourceAcls.findOne _ = found
  cases found with
  | some existing => rfl
  | none =>
    simp only [outset_bind, outset_newId, returns_andThen, Option.isSome_none,
      Bool.false_eq_true, if_false]
    rw [outset_attempt]
    unfold send
    cases (Write.insertAcl ⟨ids 0, value tenantId, value dto.userId, dto.resourceType, dto.resourceId,
        dto.permission⟩).apply session db with
    | some db => rfl
    | none =>
      simp only [returns_andThen, Option.isSome_none, Bool.false_eq_true, if_false]
      split
      · rfl
      · rfl
      · rfl
      · next impossible => cases impossible

theorem deleteAcl_event (id : Id) :
    (outset (engine Id session) ids (deleteAcl id tenantId actorId) { db }).firstEvent =
      deleteAclEvent session tenantId db id := by
  unfold deleteAcl deleteAclEvent
  simp only [outset_bind, outset_visible, returns_andThen, outset_orThrow]
  generalize (shown session db).resourceAcls.findOne _ = found
  cases found <;> rfl

theorem createUser_event (hashPassword : String → String) (dto : CreateUserDto Id) :
    (outset (engine Id session) ids (createUser hashPassword tenantId dto actorId) { db }).firstEvent =
      createUserEvent session tenantId db hashPassword ids dto := by
  unfold createUser createUserEvent
  simp only [outset_bind, outset_visible, returns_andThen, outset_refuseIf]
  split
  · rfl
  · simp only [returns_andThen, outset_newId, outset_persist]
    cases Write.apply session db (.insertUser _) with
    | none => rfl
    | some created =>
      simp only [Option.bind_some, returns_andThen, findOneByName, outset_bind, outset_visible,
        outset_pure, Option.map_none, returns_after]
      generalize (shown session created).roles.findOne _ = defaultRole
      cases dto.roleId.or (defaultRole.map fun role => canonical role.id) with
      | none => rfl
      | some roleId =>
        simp only [outset_bind, Outset.after_after, firstEvent_after]
        rw [assignToUser_event]

/-- The row of a loaded entity is there when `save` reads it again. -/
theorem outset_saveUser {user changed : UserEntity} {id : Id} {tx : Tx (effects Id) Db}
    (loaded : loadedUser session tx.db id = some user) (same : changed.id = user.id) :
    outset (engine Id session) ids (saveUser changed) tx =
      (outset (engine Id session) ids
        (persist (.updateUser user.id (changedColumns user changed))) tx).after 1 := by
  have key : user.id = value id := by simpa using (findOne_some loaded).2
  have again : (tx.db.seenBy session).users.findOne (fun row => row.id == user.id) = some user := by
    rw [key]
    exact loaded
  unfold saveUser
  simp only [outset_bind, outset_visible, returns_andThen, same, again]

theorem outset_findUser (id : Id) (tx : Tx (effects Id) Db) :
    outset (engine Id session) ids (findUser id) tx =
    match loadedUser session tx.db id with
    | some user => .returns 1 user tx
    | none => .throws := by
  unfold findUser loadedUser
  simp only [outset_bind, outset_visible, returns_andThen, outset_orThrow]
  generalize (shown session tx.db).users.findOne _ = found
  cases found <;> rfl

theorem updateUser_event [DecidableEq Id] (id : Id) (dto : UpdateUserDto Id) :
    (outset (engine Id session) ids (updateUser id dto tenantId actorId) { db }).firstEvent =
      updateUserEvent session tenantId db id dto := by
  unfold updateUser updateUserEvent announced
  simp only [outset_bind, outset_findUser, outset_refuseIf]
  cases loaded : loadedUser session db id with
  | none => rfl
  | some user =>
    simp only [returns_andThen, Option.bind_some]
    by_cases own : canonical user.tenantId = tenantId
    · cases nulls : dto.nullsColumn with
      | true => simp [own]
      | false =>
        have saves := @outset_saveUser Id _ session ids user (assignUser user dto) id { db } loaded rfl
        simp only [own, bne_self_eq_false, Bool.false_eq_true, if_false, returns_andThen, saves,
          outset_persist, and_self, if_true]
        cases (Write.updateUser user.id (changedColumns user (assignUser user dto))).apply session db <;> rfl
    · simp [own]

theorem setActivation_event [DecidableEq Id] (id : Id) (isActive : Bool) :
    (outset (engine Id session) ids (setActivation id tenantId isActive actorId) { db }).firstEvent =
      setActivationEvent session tenantId db id isActive := by
  unfold setActivation setActivationEvent announced
  simp only [outset_bind, outset_findUser, outset_refuseIf]
  cases loaded : loadedUser session db id with
  | none => rfl
  | some user =>
    simp only [returns_andThen, Option.bind_some]
    by_cases own : canonical user.tenantId = tenantId
    · have saves := @outset_saveUser Id _ session ids user { user with isActive } id { db } loaded rfl
      simp only [own, bne_self_eq_false, Bool.false_eq_true, if_false, returns_andThen, saves,
        outset_persist, if_true]
      cases (Write.updateUser user.id (changedColumns user { user with isActive })).apply session db with
      | none => rfl
      | some saved => cases isActive <;> rfl
    · simp [own]

/-- What a loaded tenant becomes is saved and announced. -/
theorem saveTenant_event {α : Type} {tenant merged : TenantEntity} {id : Id}
    {tx : Tx (effects Id) Db} (loaded : loadedTenant session tx.db id = some tenant)
    (same : merged.id = tenant.id) (next : Unit → Tx (effects Id) Db → Outset (effects Id) Db α)
    (emits : ∀ answer tx, next answer tx = .emits 0) :
    (((outset (engine Id session) ids (saveTenant merged) tx).andThen next).after 1).firstEvent =
      saveTenantEvent session tx.db tenant merged := by
  have key : tenant.id = value id := by simpa using (findOne_some loaded).2
  have again : (tx.db.seenBy session).tenants.findOne (fun row =>
      row.id == tenant.id) = some tenant := by
    rw [key]
    exact loaded
  unfold saveTenant saveTenantEvent announced
  simp only [outset_bind, outset_visible, returns_andThen, same, again, outset_persist]
  cases (Write.updateTenant tenant.id (changedTenantColumns tenant merged)).apply session tx.db with
  | none => rfl
  | some db => simp [emits]

theorem outset_findTenant (id : Id) (tx : Tx (effects Id) Db) :
    outset (engine Id session) ids (findTenant id) tx =
    match loadedTenant session tx.db id with
    | some tenant => .returns 1 tenant tx
    | none => .throws := by
  unfold findTenant loadedTenant
  simp only [outset_bind, outset_visible, returns_andThen, outset_orThrow]
  generalize (shown session tx.db).tenants.findOne _ = found
  cases found <;> rfl

theorem updateTenant_event (id : Id) (dto : UpdateTenantDto) :
    (outset (engine Id session) ids (updateTenant id dto actorId) { db }).firstEvent =
      updateTenantEvent session db id dto := by
  unfold updateTenant updateTenantEvent
  simp only [outset_bind, outset_findTenant, outset_refuseIf]
  cases loaded : loadedTenant session db id with
  | none => rfl
  | some tenant =>
    simp only [returns_andThen, Option.bind_some]
    cases dto.nullsColumn with
    | true => rfl
    | false =>
      simp only [Bool.false_eq_true, if_false, returns_andThen, Outset.after_zero]
      exact @saveTenant_event Id _ session ids _ tenant (mergeTenant tenant dto) id
        { db } loaded rfl _ fun _ _ => rfl

theorem deactivateTenant_event (id : Id) :
    (outset (engine Id session) ids (deactivateTenant id actorId) { db }).firstEvent =
      deactivateTenantEvent session db id := by
  unfold deactivateTenant deactivateTenantEvent
  simp only [outset_bind, outset_findTenant]
  cases loaded : loadedTenant session db id with
  | none => rfl
  | some tenant =>
    exact @saveTenant_event Id _ session ids _ tenant { tenant with isActive := false } id
      { db } loaded rfl _ fun _ _ => rfl

theorem createTenantWithAdmin_event (hashPassword : String → String) (dto : CreateTenantDto) :
    (outset (engine Id session) ids (createTenantWithAdmin hashPassword dto actorId)
      { db }).firstEvent =
      createTenantEvent session db hashPassword ids dto := by
  unfold createTenantWithAdmin createTenantEvent announced
  simp only [outset_bind, outset_visible, returns_andThen, outset_refuseIf]
  split
  · rfl
  · simp only [returns_andThen, outset_newId, outset_persist]
    cases Write.apply session db (.insertTenant _) with
    | none => rfl
    | some founded =>
      simp only [returns_andThen, Option.bind_some]
      cases Write.apply session founded (.insertUser _) with
      | none => rfl
      | some staffed =>
        simp only [returns_andThen, Option.bind_some]
        generalize (shown session staffed).roles.findOne _ = adminRole
        cases adminRole with
        | none => rfl
        | some adminRole =>
          simp only [outset_bind, outset_newId, returns_andThen, outset_persist]
          cases Write.apply session staffed (.insertUserRole _) <;> rfl

theorem logout_event (userId : Id) :
    (outset (engine Id session) ids (Controllers.logout userId tenantId) { db }).firstEvent = some 1 := rfl

end Services

end GenericIam.FirstEvents
