import GenericIam.Guards
import GenericIam.Operations
import GenericIam.Statements

/-! The routes by which a tenant principal changes the database: what their guards ask
for, what they run, and which tables they can reach. -/

namespace GenericIam.Controllers
open Table Database Identifiers Transaction Handlers
open RbacServices AccountServices Operations Guards

variable {Id : Type}

/-! The statements that the steps of a handler send. -/

section Steps
variable {α : Type} {good goodDetached : Write → Prop}

theorem sends_persist {write : Write} (allowed : good write) :
    Sends good goodDetached (persist write : Handler Id Unit) := by
  refine ⟨allowed, ?_⟩
  intro refused
  cases refused with
  | none => trivial
  | some why => trivial

theorem sends_refuseIf (condition : Bool) (error : HttpException) :
    Sends good goodDetached (refuseIf condition error : Handler Id Unit) := by
  cases condition with
  | false => trivial
  | true => trivial

theorem sends_orThrow (found : Option α) (error : HttpException) :
    Sends good goodDetached (orThrow found error : Handler Id α) := by
  cases found with
  | none => trivial
  | some row => trivial

theorem sends_visible {next : Db → Handler Id α} (rest : ∀ db, Sends good goodDetached (next db)) :
    Sends good goodDetached (visible >>= next) := rest

theorem sends_newId {next : Uuid → Handler Id α} (rest : ∀ id, Sends good goodDetached (next id)) :
    Sends good goodDetached (newId >>= next) := rest

theorem sends_attempt {write : Write} {next : Option Violation → Handler Id α} (allowed : good write)
    (rest : ∀ refused, Sends good goodDetached (next refused)) :
    Sends good goodDetached ((attempt write : Handler Id (Option Violation)) >>= next) :=
  ⟨allowed, rest⟩

theorem sends_dropTokens {userId : Uuid} {next : Option Violation → Handler Id α}
    (allowed : goodDetached (.deleteRefreshTokensOf userId))
    (rest : ∀ refused, Sends good goodDetached (next refused)) :
    Sends good goodDetached
      ((attemptDetached (.deleteRefreshTokensOf userId) : Handler Id (Option Violation)) >>= next) :=
  ⟨allowed, rest⟩

theorem sends_saveRole (driver : Driver) (now : Time) (draft : RoleDraft)
    (inserts : ∀ row, good (.insertRole row)) (updates : ∀ row, good (.updateRole row)) :
    Sends good goodDetached (saveRole driver now draft : Handler Id RoleEntity) := by
  refine sends_bind (sends_orThrow _ _) ?_
  intro _
  apply sends_visible
  intro db
  split
  · split
    · trivial
    · refine sends_bind (sends_orThrow _ _) ?_
      intro updated
      exact sends_bind (sends_persist (updates updated)) fun _ => trivial
  · refine sends_bind (sends_orThrow _ _) ?_
    intro inserted
    exact sends_bind (sends_persist (inserts inserted)) fun _ => trivial

theorem sends_saveUser (user : UserEntity) (inserts : good (.insertUser user))
    (updates : ∀ change, good (.updateUser user.id change)) :
    Sends good goodDetached (saveUser user : Handler Id Unit) := by
  apply sends_visible
  intro db
  split
  · exact sends_persist (updates _)
  · exact sends_persist inserts

theorem sends_saveTenant (tenant : TenantEntity) (inserts : good (.insertTenant tenant))
    (updates : ∀ change, good (.updateTenant tenant.id change)) :
    Sends good goodDetached (saveTenant tenant : Handler Id Unit) := by
  apply sends_visible
  intro db
  split
  · exact sends_persist (updates _)
  · exact sends_persist inserts

end Steps

variable [Identifier Id]

structure TenantPrincipal (Id : Type) where
  sub : Id
  tenantId : Id
  identityType : IdentityType
  ordinary : identityType ≠ .SUPER_ADMIN

def TenantPrincipal.payload (user : TenantPrincipal Id) : JwtPayload Id :=
  ⟨user.sub, some user.tenantId, user.identityType⟩

theorem sessionOf_payload (user : TenantPrincipal Id) :
    sessionOf user.payload = .tenantUser (value user.tenantId) := by
  simp [sessionOf, TenantPrincipal.payload, user.ordinary]

inductive Route (Id : Type) where
  | createRole (now : Time) (dto : CreateRoleDto)
  | updateRole (now : Time) (id : Id) (dto : Json)
  | deleteRole (id : Id)
  | assignPermissions (roleId : Id) (dto : UpdateRolePermissionsDto Id)
  | updateUserRoles (targetUserId : Id) (dto : UpdateUserRolesDto Id)
  | addOverride (targetUserId : Id) (dto : CreateOverrideDto Id)
  | removeOverride (targetUserId overrideId : Id)
  | createAcl (dto : CreateAclDto Id)
  | deleteAcl (id : Id)
  | createUser (dto : CreateUserDto Id)
  | updateUser (id : Id) (dto : UpdateUserDto Id)
  | updateStatus (id : Id) (isActive : Bool)
  | updateTenant (id : Id) (dto : UpdateTenantDto)
  | logout

def Route.identityTypes : Route Id → List IdentityType
  | .createUser _ | .updateUser _ _ | .updateStatus _ _ => [.USER, .SUPER_ADMIN]
  | .updateTenant _ _ => [.SUPER_ADMIN, .USER]
  | _ => []

def Route.requiredPermissions : Route Id → List String
  | .createRole _ _ | .updateRole _ _ _ | .deleteRole _ | .assignPermissions _ _ => ["role.write"]
  | .updateUserRoles _ _ | .addOverride _ _ | .removeOverride _ _ => ["role.assign"]
  | .createAcl _ | .deleteAcl _ => ["acl.*"]
  | .createUser _ | .updateStatus _ _ => ["user.write"]
  | .updateUser _ _ => []
  | .updateTenant _ _ => ["tenant.write"]
  | .logout => []

/-- The check that the update of a user makes itself, unless it is the caller's own. -/
def Route.selfCheck [DecidableEq Id] (granted : String → Bool) (user : JwtPayload Id) :
    Route Id → Except HttpException Unit
  | .updateUser id _ =>
      if user.sub ≠ id &&
        !granted "user.write" then .error (.forbidden "Insufficient permissions to update other users")
      else .ok ()
  | _ => .ok ()

def logout (userId tenantId : Id) : Handler Id Unit := do
  match ← attemptDetached (.deleteRefreshTokensOf (value userId)) with
  | none => emit (userAudit .AUTH_LOGOUT tenantId userId userId)
  | some _ => .throw .queryFailed

def Route.handler [DecidableEq Id] (env : Environment) (user : TenantPrincipal Id) :
    Route Id → Handler Id Unit
  | .createRole now dto => (Operation.createCustomRole now dto).handler env user.tenantId user.sub
  | .updateRole now id dto => (Operation.updateCustomRole now id dto).handler env user.tenantId user.sub
  | .deleteRole id => (Operation.deleteCustomRole id).handler env user.tenantId user.sub
  | .assignPermissions roleId dto =>
    (Operation.updateRolePermissions roleId dto).handler env user.tenantId user.sub
  | .updateUserRoles targetUserId dto =>
    (Operation.updateUserRoles targetUserId dto).handler env user.tenantId user.sub
  | .addOverride targetUserId dto =>
    (Operation.addOverride targetUserId dto).handler env user.tenantId user.sub
  | .removeOverride targetUserId overrideId =>
      (Operation.removeOverride overrideId targetUserId).handler env user.tenantId user.sub
  | .createAcl dto => (Operation.createAcl dto).handler env user.tenantId user.sub
  | .deleteAcl id => (Operation.deleteAcl id).handler env user.tenantId user.sub
  | .createUser dto => (Operation.createUser dto).handler env user.tenantId user.sub
  | .updateUser id dto => (Operation.updateUser id dto).handler env user.tenantId user.sub
  | .updateStatus id isActive =>
    (Operation.setActivation id isActive).handler env user.tenantId user.sub
  | .updateTenant id dto => do let _ ← AccountServices.updateTenant id dto user.sub
  | .logout => Controllers.logout user.sub user.tenantId

structure Request (Id : Type) where
  user : TenantPrincipal Id
  granted : String → Bool
  route : Route Id
  ids : Nat → Uuid

section Request
variable [DecidableEq Id]

def Request.guards (request : Request Id) : Except HttpException Unit := do
  identityTypeGuard request.route.identityTypes request.user.payload
  iamPermissionGuard request.granted request.route.requiredPermissions request.user.payload
  request.route.selfCheck request.granted request.user.payload

def Request.serve (env : Environment) (request : Request Id) (db : Db) :
    Except HttpException Unit × Db :=
  match request.guards with
  | .error refused => (.error refused, db)
  | .ok () =>
      let served :=
        Transaction.serve (engine Id (sessionOf request.user.payload)) request.ids
        (request.route.handler env request.user) db
      (served.result, served.db)

omit [Identifier Id] in
/-- Whoever is admitted has been granted what the route requires. -/
theorem Request.granted_of_guards {request : Request Id} (admitted : request.guards = .ok ())
    {permission : String} (required : permission ∈ request.route.requiredPermissions) :
    request.granted permission = true := by
  have passed :
      iamPermissionGuard request.granted request.route.requiredPermissions request.user.payload =
      .ok () := by
    unfold guards at admitted
    cases first : identityTypeGuard request.route.identityTypes request.user.payload with
    | error error =>
      rw [first] at admitted
      cases admitted
    | ok _ =>
      cases second :
          iamPermissionGuard request.granted request.route.requiredPermissions request.user.payload with
      | error error =>
        rw [first, second] at admitted
        cases admitted
      | ok _ => rfl
  unfold iamPermissionGuard at passed
  split at passed
  · next both =>
    simp only [TenantPrincipal.payload, request.user.ordinary, decide_false, Bool.false_or,
      List.all_eq_true] at both
    exact both permission required
  · cases passed

omit [Identifier Id] in
/-- Only the caller's own row is updated without a permission. -/
theorem Request.own_of_guards {request : Request Id} (admitted : request.guards = .ok ()) {id : Id}
    {dto : UpdateUserDto Id} (update : request.route = .updateUser id dto) :
    request.user.sub = id ∨ request.granted "user.write" = true := by
  by_cases own : request.user.sub = id
  · exact .inl own
  · refine .inr ?_
    unfold guards at admitted
    rw [update] at admitted
    cases first : identityTypeGuard (Route.updateUser id dto).identityTypes request.user.payload with
    | error error =>
      rw [first] at admitted
      cases admitted
    | ok _ =>
      rw [first] at admitted
      cases answer : request.granted "user.write" with
      | true => rfl
      | false =>
        simp [bind, Except.bind, iamPermissionGuard, Route.requiredPermissions, Route.selfCheck,
          TenantPrincipal.payload,
          own, answer] at admitted

theorem Request.serve_refused {request : Request Id} {env : Environment} {db : Db}
    {error : HttpException} (refused : request.guards = .error error) :
    request.serve env db = (.error error, db) := by
  simp [serve, refused]

theorem Request.serve_admitted {request : Request Id} {env : Environment} {db : Db}
    (admitted : request.guards = .ok ()) :
    request.serve env db =
      ((Transaction.serve (engine Id (.tenantUser (value request.user.tenantId))) request.ids
          (request.route.handler env request.user) db).result,
        (Transaction.serve (engine Id (.tenantUser (value request.user.tenantId))) request.ids
          (request.route.handler env request.user) db).db) := by
  simp [serve, admitted, sessionOf_payload]

end Request

/-! The tables that each route can reach. -/

section Sends
variable {α : Type} {good goodDetached : Write → Prop}

theorem sends_findOneForTenant (id tenantId : Id) :
    Sends good goodDetached (findOneForTenant id tenantId) :=
  sends_visible fun _ => sends_orThrow _ _

theorem sends_requireUser (userId tenantId : Id) :
    Sends good goodDetached (requireUser userId tenantId) :=
  sends_visible fun _ => sends_orThrow _ _

theorem sends_findUser (id : Id) : Sends good goodDetached (findUser id) :=
  sends_visible fun _ => sends_orThrow _ _

theorem sends_findTenant (id : Id) : Sends good goodDetached (findTenant id) :=
  sends_visible fun _ => sends_orThrow _ _

theorem sends_findMapping (roleId : Id) (permissionId : Uuid) :
    Sends good goodDetached (findMapping roleId permissionId) :=
  sends_visible fun _ => trivial

theorem sends_findPermissions (refs : List (PermissionRef Id)) :
    Sends good goodDetached (findPermissions refs) :=
  sends_visible fun _ => trivial

theorem sends_findAssignment (userId roleId tenantId : Id) :
    Sends good goodDetached (findAssignment userId roleId tenantId) :=
  sends_visible fun _ => trivial

theorem sends_saveAssignment (userId tenantId : Id) (dto : AssignRoleDto Id)
    (inserts : ∀ row, good (.insertUserRole row)) (updates : ∀ row, good (.updateUserRole row)) :
    Sends good goodDetached (saveAssignment userId tenantId dto) := by
  refine sends_bind (sends_findAssignment _ _ _) ?_
  intro existing
  cases existing with
  | some existing =>
    apply sends_visible
    intro db
    split
    · exact sends_bind (sends_persist (updates _)) fun _ => trivial
    · exact sends_bind (sends_persist (inserts _)) fun _ => trivial
  | none =>
    apply sends_newId
    intro id
    exact sends_bind (sends_persist (inserts _)) fun _ => trivial

theorem sends_assignToUser (userId tenantId : Id) (dto : AssignRoleDto Id) (actorId : Id)
    (inserts : ∀ row, good (.insertUserRole row)) (updates : ∀ row, good (.updateUserRole row)) :
    Sends good goodDetached (assignToUser userId tenantId dto actorId) := by
  refine sends_bind (sends_requireUser userId tenantId) ?_
  intro _
  refine sends_bind (sends_findOneForTenant dto.roleId tenantId) ?_
  intro _
  exact sends_bind (sends_saveAssignment userId tenantId dto inserts updates) fun _ => trivial

theorem sends_createCustomRole (now : Time) (tenantId : Id) (dto : CreateRoleDto) (actorId : Id)
    (inserts : ∀ row, good (.insertRole row)) :
    Sends good goodDetached (createCustomRole now tenantId dto actorId) := by
  apply sends_newId
  intro id
  exact sends_bind (sends_persist (inserts _)) fun _ => trivial

theorem sends_updateCustomRole (driver : Driver) (now : Time) (id tenantId : Id) (dto : Json)
    (actorId : Id) (inserts : ∀ row, good (.insertRole row))
    (updates : ∀ row, good (.updateRole row)) :
    Sends good goodDetached (updateCustomRole driver now id tenantId dto actorId) := by
  refine sends_bind (sends_findOneForTenant id tenantId) ?_
  intro role
  refine sends_bind (sends_refuseIf _ _) ?_
  intro _
  exact sends_bind (sends_saveRole driver now _ inserts updates) fun _ => trivial

theorem sends_deleteCustomRole (id tenantId actorId : Id) (deletes : ∀ row, good (.deleteRole row)) :
    Sends good goodDetached (deleteCustomRole id tenantId actorId) := by
  refine sends_bind (sends_findOneForTenant id tenantId) ?_
  intro role
  refine sends_bind (sends_refuseIf _ _) ?_
  intro _
  apply sends_visible
  intro db
  refine sends_bind (sends_refuseIf _ _) ?_
  intro _
  exact sends_bind (sends_persist (deletes _)) fun _ => trivial

theorem sends_updateRolePermissions (roleId tenantId : Id) (dto : UpdateRolePermissionsDto Id)
    (actorId : Id) (inserts : ∀ row, good (.insertRolePermission row))
    (deletes : ∀ row, good (.deleteRolePermission row)) :
    Sends good goodDetached (updateRolePermissions roleId tenantId dto actorId) := by
  refine sends_bind (sends_findOneForTenant roleId tenantId) ?_
  intro role
  refine sends_bind (sends_refuseIf _ _) ?_
  intro _
  refine sends_bind (sends_findPermissions dto.add) ?_
  intro added
  refine sends_bind (sends_forEach ?_) ?_
  · intro permission
    refine sends_bind (sends_findMapping roleId permission.id) ?_
    intro mapping
    cases mapping with
    | some mapping => trivial
    | none =>
      apply sends_newId
      intro id
      exact sends_bind (sends_persist (inserts _)) fun _ => trivial
  · intro _
    refine sends_bind (sends_findPermissions dto.remove) ?_
    intro removed
    refine sends_bind (sends_forEach ?_) fun _ => trivial
    intro permission
    refine sends_bind (sends_findMapping roleId permission.id) ?_
    intro mapping
    cases mapping with
    | none => trivial
    | some mapping => exact sends_bind (sends_persist (deletes _)) fun _ => trivial

theorem sends_updateUserRoles (userId tenantId : Id) (dto : UpdateUserRolesDto Id) (actorId : Id)
    (inserts : ∀ row, good (.insertUserRole row)) (updates : ∀ row, good (.updateUserRole row))
    (deletes : ∀ row, good (.deleteUserRole row)) :
    Sends good goodDetached (updateUserRoles userId tenantId dto actorId) := by
  refine sends_bind (sends_requireUser userId tenantId) ?_
  intro _
  refine sends_bind (sends_forEach ?_) ?_
  · intro item
    refine sends_bind (sends_findOneForTenant item.roleId tenantId) ?_
    intro _
    exact sends_bind (sends_saveAssignment _ _ item inserts updates) fun _ => trivial
  · intro _
    refine sends_bind (sends_forEach ?_) fun _ => trivial
    intro roleId
    refine sends_bind (sends_findAssignment _ _ _) ?_
    intro assignment
    cases assignment with
    | none => trivial
    | some assignment => exact sends_bind (sends_persist (deletes _)) fun _ => trivial

theorem sends_addOverride (userId tenantId : Id) (dto : CreateOverrideDto Id) (actorId : Id)
    (inserts : ∀ row, good (.insertOverride row)) (updates : ∀ row, good (.updateOverride row)) :
    Sends good goodDetached (addOverride userId tenantId dto actorId) := by
  apply sends_visible
  intro db
  refine sends_bind (sends_orThrow _ _) ?_
  intro _
  apply sends_visible
  intro db
  dsimp only
  split
  · split
    · trivial
    · exact sends_bind (sends_persist (updates _)) fun _ => trivial
  · apply sends_newId
    intro id
    exact sends_bind (sends_persist (inserts _)) fun _ => trivial

theorem sends_removeOverride (overrideId userId tenantId actorId : Id)
    (deletes : ∀ row, good (.deleteOverride row)) :
    Sends good goodDetached (removeOverride overrideId userId tenantId actorId) := by
  apply sends_visible
  intro db
  dsimp only
  split
  · trivial
  · exact sends_bind (sends_persist (deletes _)) fun _ => trivial

theorem sends_createAcl (tenantId : Id) (dto : CreateAclDto Id) (actorId : Id)
    (inserts : ∀ row, good (.insertAcl row)) :
    Sends good goodDetached (createAcl tenantId dto actorId) := by
  apply sends_visible
  intro db
  dsimp only
  split
  · trivial
  · apply sends_newId
    intro id
    refine sends_attempt (inserts _) ?_
    intro refused
    split
    · trivial
    · trivial
    · trivial
    · trivial

theorem sends_deleteAcl (id tenantId actorId : Id) (deletes : ∀ row, good (.deleteAcl row)) :
    Sends good goodDetached (deleteAcl id tenantId actorId) := by
  apply sends_visible
  intro db
  refine sends_bind (sends_orThrow _ _) ?_
  intro acl
  exact sends_bind (sends_persist (deletes _)) fun _ => trivial

theorem sends_createUser (hashPassword : String → String) (tenantId : Id) (dto : CreateUserDto Id)
    (actorId : Id) (users : ∀ row, row.isActive = true → good (.insertUser row))
    (inserts : ∀ row, good (.insertUserRole row)) (updates : ∀ row, good (.updateUserRole row)) :
    Sends good goodDetached (createUser hashPassword tenantId dto actorId) := by
  apply sends_visible
  intro db
  refine sends_bind (sends_refuseIf _ _) ?_
  intro _
  apply sends_newId
  intro id
  refine sends_bind (sends_persist (users _ rfl)) ?_
  intro _
  refine sends_bind (sends_visible fun _ => trivial) ?_
  intro defaultRole
  split
  · trivial
  · exact sends_bind (sends_assignToUser _ _ _ _ inserts updates) fun _ => trivial

theorem sends_updateUser [DecidableEq Id] (id : Id) (dto : UpdateUserDto Id) (tenantId actorId : Id)
    (inserts : ∀ row, good (.insertUser row)) (updates : ∀ key change, good (.updateUser key change)) :
    Sends good goodDetached (updateUser id dto tenantId actorId) := by
  refine sends_bind (sends_findUser id) ?_
  intro stored
  refine sends_bind (sends_refuseIf _ _) ?_
  intro _
  refine sends_bind (sends_refuseIf _ _) ?_
  intro _
  exact sends_bind (sends_saveUser _ (inserts _) (updates _)) fun _ => trivial

theorem sends_setActivation [DecidableEq Id] (id tenantId : Id) (isActive : Bool) (actorId : Id)
    (inserts : ∀ row, good (.insertUser row)) (updates : ∀ key change, good (.updateUser key change))
    (drops : goodDetached (.deleteRefreshTokensOf (value id))) :
    Sends good goodDetached (setActivation id tenantId isActive actorId) := by
  refine sends_bind (sends_findUser id) ?_
  intro stored
  refine sends_bind (sends_refuseIf _ _) ?_
  intro _
  refine sends_bind (sends_saveUser _ (inserts _) (updates _)) ?_
  intro _
  cases isActive with
  | true => trivial
  | false =>
    refine sends_dropTokens drops ?_
    intro refused
    cases refused with
    | none => trivial
    | some why => trivial

theorem sends_updateTenant (id : Id) (dto : UpdateTenantDto) (actorId : Id)
    (inserts : ∀ row, good (.insertTenant row))
    (updates : ∀ key change, good (.updateTenant key change)) :
    Sends good goodDetached (AccountServices.updateTenant id dto actorId) := by
  refine sends_bind (sends_findTenant id) ?_
  intro tenant
  refine sends_bind (sends_refuseIf _ _) ?_
  intro _
  exact sends_bind (sends_saveTenant _ (inserts _) (updates _)) fun _ => trivial

theorem sends_logout (userId tenantId : Id)
    (drops : goodDetached (.deleteRefreshTokensOf (value userId))) :
    Sends good goodDetached (Controllers.logout userId tenantId) := by
  refine sends_dropTokens drops ?_
  intro refused
  cases refused with
  | none => trivial
  | some why => trivial

end Sends

def Route.changes : Route Id → List Relation
  | .createRole _ _ | .updateRole _ _ _ => [.roles]
  | .deleteRole _ => [.roles, .rolePermissions, .userRoles]
  | .assignPermissions _ _ => [.rolePermissions]
  | .updateUserRoles _ _ => [.userRoles]
  | .addOverride _ _ | .removeOverride _ _ => [.userPermissionOverrides]
  | .createAcl _ | .deleteAcl _ => [.resourceAcls]
  | .createUser _ => [.users, .userRoles]
  | .updateUser _ _ => [.users]
  | .updateStatus _ _ => [.users, .refreshTokens]
  | .updateTenant _ _ => [.tenants]
  | .logout => [.refreshTokens]

def Detached (changed : List Relation) (write : Write) : Prop :=
  .refreshTokens ∈ changed ∧ ∃ userId, write = .deleteRefreshTokensOf userId

theorem sends_route [DecidableEq Id] (env : Environment) (user : TenantPrincipal Id)
    (route : Route Id) :
    Sends (Within route.changes) (Detached route.changes) (route.handler env user) := by
  have unit : ∀ {α : Type} (_ : α),
    Sends (Within route.changes) (Detached route.changes) (pure () : Handler Id Unit) :=
    fun _ => trivial
  cases route with
  | createRole now dto =>
    exact sends_bind (sends_createCustomRole _ _ dto _ fun _ => within_self rfl) unit
  | updateRole now id dto =>
    exact sends_bind (sends_updateCustomRole _ _ id _ dto _ (fun _ => within_self rfl) fun _ =>
      within_self rfl) unit
  | deleteRole id => exact sends_deleteCustomRole id _ _ fun _ => within_self rfl
  | assignPermissions roleId dto =>
    exact sends_updateRolePermissions roleId _ dto _ (fun _ => within_self rfl) fun _ => within_self rfl
  | updateUserRoles targetUserId dto =>
    exact sends_updateUserRoles targetUserId _ dto _ (fun _ => within_self rfl) (fun _ =>
      within_self rfl) fun _ => within_self rfl
  | addOverride targetUserId dto =>
    exact sends_bind (sends_addOverride targetUserId _ dto _ (fun _ => within_self rfl) fun _ =>
      within_self rfl) unit
  | removeOverride targetUserId overrideId =>
    exact sends_removeOverride overrideId _ _ _ fun _ => within_self rfl
  | createAcl dto => exact sends_bind (sends_createAcl _ dto _ fun _ => within_self rfl) unit
  | deleteAcl id => exact sends_deleteAcl id _ _ fun _ => within_self rfl
  | createUser dto =>
    refine sends_bind (sends_createUser _ _ dto _ ?_ ?_ ?_) unit
    · simp [Within, Write.changes, Route.changes]
    · simp [Within, Write.changes, Route.changes]
    · simp [Within, Write.changes, Route.changes]
  | updateUser id dto =>
    exact sends_bind (sends_updateUser id dto _ _ (fun _ => within_self rfl) fun _ _ =>
      within_self rfl) unit
  | updateStatus id isActive =>
    refine sends_setActivation id _ isActive _ ?_ ?_ ⟨?_, value id, rfl⟩
    · simp [Within, Write.changes, Route.changes]
    · simp [Within, Write.changes, Route.changes]
    · simp [Route.changes]
  | updateTenant id dto =>
    exact sends_bind (sends_updateTenant id dto _ (fun _ => within_self rfl) fun _ _ =>
      within_self rfl) unit
  | logout => exact sends_logout _ _ ⟨by simp [Route.changes], value user.sub, rfl⟩

/-! What a request leaves alone. -/

/-- Whatever becomes of a request, it changes the tables of its route only. -/
theorem sameBut_serve [DecidableEq Id] (env : Environment) (request : Request Id) (db : Db) :
    SameBut request.route.changes db (request.serve env db).2 := by
  cases admitted : request.guards with
  | error refused =>
    rw [Request.serve_refused admitted]
    exact sameBut_refl
  | ok _ =>
    rw [Request.serve_admitted admitted]
    apply serve_sends (sends_route env request.user request.route) sameBut_refl
    · intro write before after within same sent
      exact sameBut_step within same (send_ok sent)
    · intro write before after detached same sent
      obtain ⟨reached, userId, dropped⟩ := detached
      refine sameBut_step ?_ same (send_ok sent)
      intro relation member
      rw [dropped] at member
      rw [List.mem_singleton.mp member]
      exact reached

end GenericIam.Controllers
