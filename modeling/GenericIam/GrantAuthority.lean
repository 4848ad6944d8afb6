import GenericIam.Reactivation
import GenericIam.RoleBatches

/-! Who can change what users are granted: assignments, overrides and the permissions
of roles. Creating a user assigns a role, and the route for it asks for another
permission than the routes for assignments do. -/

namespace GenericIam.GrantAuthority
open Table Database Identifiers Transaction Handlers RbacServices AccountServices
open TenantWrites Operations ReachableStates Guards Controllers RoleBatches Runs
open Coherence (plainEnvironment)
open Reactivation (office office_reachable request)

variable {Id : Type} [Identifier Id]

/-! What the handlers do to the assignments. -/

section Assignments
variable {tenantId : Id} {ids : Nat → Uuid} {tx : Tx (effects Id) Db} {db db' : Db}

def Assigns (db db' : Db) (userId roleId : Uuid) : Prop :=
  ∀ row, Differs db.userRoles db'.userRoles row → row.userId = userId ∧ row.roleId = roleId

theorem assigns_of_saved {userId ownerId roleId : Uuid} {expiresAt : Option Time}
    (saved : Saved db.userRoles db'.userRoles userId ownerId roleId expiresAt) :
    Assigns db db' userId roleId := by
  intro row differs
  by_contra other
  refine differs ?_
  rcases saved with ⟨existing, member, own, rows⟩ | ⟨_, id, rows⟩
  · obtain ⟨user, _, role⟩ := slot_eq_some.mp own
    refine (rows row).trans ⟨?_, fun before => .inl ⟨before, fun same => other ?_⟩⟩
    · intro holds
      rcases holds with ⟨before, _⟩ | rfl
      · exact before
      · exact absurd ⟨user, role⟩ other
    · rw [eq_of_key_eq before member same]
      exact ⟨user, role⟩
  · refine (rows row).trans ⟨?_, .inl⟩
    intro holds
    rcases holds with before | rfl
    · exact before
    · exact absurd ⟨rfl, rfl⟩ other

theorem returns_assignToUser (userId : Id) (dto : AssignRoleDto Id) (actorId : Id)
    {post : UserRoleEntity → Tx (effects Id) Db → Prop}
    (done : ∀ row after, UsableRole tx.db (value tenantId) (value dto.roleId) →
      Assigns tx.db after.db (value userId) (value dto.roleId) →
        after.db.users = tx.db.users → post row after) :
    Returns tenantId ids (assignToUser userId tenantId dto actorId) post tx := by
  unfold assignToUser requireUser
  simp only [Returns, wp_bind, wp_visible]
  refine wp_orThrow ?_ fun _ => trivial
  intro user _
  rw [wp_bind]
  apply returns_findOneForTenant
  intro role usable _ _
  rw [wp_bind]
  apply returns_saveAssignment
  intro row after saved users
  exact done row _ usable (assigns_of_saved saved) users

/-- What holds when a user has been created: the body was in order, and the only
assignments are those of the new user, to the default role if the body names none. -/
structure Created (db : Db) (tenantId : Id) (dto : CreateUserDto Id) (db' : Db) : Prop where
  unused : ∀ user ∈ db.users, user.tenantId = value tenantId → user.email ≠ dto.email
  managed : ∀ managerId, dto.managerId = some managerId → db.hasUser (value managerId) = true
  usable : ∀ roleId, dto.roleId = some roleId → UsableRole db (value tenantId) (value roleId)
  assigned : ∀ row, Differs db.userRoles db'.userRoles row →
    (∃ user ∈ db'.users, user.id = row.userId) ∧ (∀ old ∈ db.users, old.id ≠ row.userId) ∧
      (dto.roleId = none → ∃ role ∈ db.roles, role.id = row.roleId ∧ role.name = memberRole ∧
        role.tenantId = none)

theorem insertUser_managed {row : UserEntity} (applied : db.insertUser row = some db') :
    row.managerId.all db.hasUser = true := by
  by_contra absent
  rw [Bool.not_eq_true] at absent
  simp [Db.insertUser, absent] at applied

theorem returns_createUser (hashPassword : String → String) (dto : CreateUserDto Id) (actorId : Id) :
    Returns tenantId ids (createUser hashPassword tenantId dto actorId) (fun _ after =>
      Created tx.db tenantId dto after.db) tx := by
  unfold createUser findOneByName
  simp only [Returns, wp_bind, wp_visible]
  refine wp_refuseIf ?_ fun _ => trivial
  intro clash
  have unused : ∀ user ∈ tx.db.users, user.tenantId = value tenantId → user.email ≠ dto.email := by
    intro user member own same
    have taken : (shown (.tenantUser (value tenantId)) tx.db).users.any (fun user =>
      user.tenantId == value tenantId && user.email == dto.email)
        = true := any_iff.mpr ⟨user, mem_seen_users.mpr ⟨member, own⟩, by simp [own, same]⟩
    rw [clash] at taken
    cases taken
  simp only [wp_bind, wp_newId]
  refine wp_persist trivial ?_ trivial
  intro db applied
  simp only [Write.apply] at applied
  split at applied
  · have managers := insertUser_managed applied
    obtain ⟨users, inserted, rfl⟩ := insertUser_some applied
    have managed : ∀ managerId, dto.managerId = some managerId →
        tx.db.hasUser (value managerId) = true := by
      intro managerId named
      rw [named] at managers
      exact managers
    have new : _ ∈ users := (mem_insert inserted).mpr (.inr rfl)
    have absent := (insert_some inserted).1
    simp only [wp_bind, wp_visible, wp_pure]
    split
    · next nothing =>
      obtain ⟨unnamed, _⟩ := Option.or_eq_none_iff.mp nothing
      refine ⟨unused, managed, ?_, fun row differs => absurd differs (not_differs rfl)⟩
      intro roleId named
      rw [named] at unnamed
      cases unnamed
    · next roleId chosen =>
      rw [wp_bind]
      apply returns_assignToUser
      intro assignment after usable assigns kept
      refine ⟨unused, managed, ?_, ?_⟩
      · intro named here
        rw [here] at chosen
        cases chosen
        exact usable
      · intro row differs
        obtain ⟨user, role⟩ := assigns row differs
        rw [value_canonical] at user
        have there : ∃ created ∈ after.db.users, created.id = row.userId := by
          rw [kept]
          exact ⟨_, new, user.symm⟩
        refine ⟨there, ?_, ?_⟩
        · intro old member same
          exact absent old member (same.trans user)
        · intro unnamed
          rw [unnamed, Option.none_or] at chosen
          obtain ⟨default, found, rfl⟩ := Option.map_eq_some_iff.mp chosen
          obtain ⟨member, matched⟩ := findOne_some found
          simp only [Bool.and_eq_true, beq_iff_eq] at matched
          exact ⟨default,
            (mem_seen_roles.mp member).1, by rw [role, value_canonical], matched.1, matched.2⟩
  · cases applied

theorem differs_deleteRole {session : Session} {roleId : Uuid} {row : UserRoleEntity}
    (differs : Differs db.userRoles (db.deleteRole session roleId).userRoles row) :
    row ∈ db.userRoles ∧ row.roleId = roleId := by
  rcases deleteRole_eq session db roleId with kept | changed
  · rw [kept] at differs
    exact absurd differs (not_differs rfl)
  · rw [changed] at differs
    obtain ⟨present, gone⟩ := differs_select differs
    exact ⟨present, by simpa using gone⟩

structure Deleted (db : Db) (tenantId id : Id) (db' : Db) : Prop where
  custom : CustomRoleOf db (value tenantId) (value id)
  unassigned : ∀ ur ∈ db.userRoles, ur.tenantId = value tenantId → ur.roleId ≠ value id
  cascade : ∀ row, Differs db.userRoles db'.userRoles row → row ∈ db.userRoles ∧ row.roleId = value id

theorem returns_deleteCustomRole (id actorId : Id) :
    Returns tenantId ids (deleteCustomRole id tenantId actorId) (fun _ after =>
      Deleted tx.db tenantId id after.db) tx := by
  unfold deleteCustomRole
  rw [Returns, wp_bind]
  apply returns_findOneForTenant
  intro role _ own same
  rw [wp_bind]
  refine wp_refuseIf ?_ fun _ => trivial
  intro custom
  simp only [wp_bind, wp_visible]
  refine wp_refuseIf ?_ fun _ => trivial
  intro unassigned
  rw [wp_bind]
  refine wp_persist trivial ?_ trivial
  intro db applied
  refine ⟨own custom, ?_, ?_⟩
  · intro ur held here
    have nobody : (shown (.tenantUser (value tenantId)) tx.db).userRoles.count (fun ur =>
        ur.roleId == role.id) = 0 := by
      simpa using unassigned
    have away := count_eq_zero.mp nobody ur (mem_seen_userRoles.mpr ⟨held, here⟩)
    simpa [same] using away
  · intro row differs
    cases applied
    rw [← same]
    exact differs_deleteRole differs

end Assignments

/-! Runs. -/

section Runs
variable [DecidableEq Id] {env : Environment}

def next (env : Environment) (request : Request Id) (db : Db) : Db := (request.serve env db).2

/-- The row assigns the default role to the user whom the request creates without naming a role. -/
def DefaultMembership (request : Request Id) (db db' : Db) (row : UserRoleEntity) : Prop :=
  ∃ dto, request.route = .createUser dto ∧ dto.roleId = none ∧
    (∃ user ∈ db'.users, user.id = row.userId) ∧
    (∀ old ∈ db.users, old.id ≠ row.userId) ∧ ∃ role ∈ db.roles, role.id = row.roleId ∧
      role.name = memberRole ∧ role.tenantId = none

/-- Whatever a request changes of what users are granted, its caller may change. -/
structure Authorised (env : Environment) (request : Request Id) (db : Db) : Prop where
  assignments : ∀ row, Differs db.userRoles (next env request db).userRoles row →
    request.granted "role.assign" = true ∨ DefaultMembership request db (next env request db) row
  overrides : ∀ row,
    Differs db.userPermissionOverrides (next env request db).userPermissionOverrides row →
    request.granted "role.assign" = true
  mappings : ∀ row, Differs db.rolePermissions (next env request db).rolePermissions row →
    request.granted "role.write" = true

/-- A caller without `role.assign` creates a user with a role, or deletes a role that is
assigned in another tenant. -/
def Escalates (request : Request Id) (db : Db) : Prop :=
  request.guards = .ok () ∧ request.granted "role.assign" = false ∧ match request.route with
    | .createUser dto =>
        (∃ roleId, dto.roleId = some roleId ∧
        UsableRole db (value request.user.tenantId) (value roleId)) ∧
        (∀ user ∈ db.users, user.tenantId = value request.user.tenantId → user.email ≠ dto.email) ∧
          ∀ managerId, dto.managerId = some managerId → db.hasUser (value managerId) = true
    | .deleteRole id => CustomRoleOf db (value request.user.tenantId) (value id) ∧
        (∀ ur ∈ db.userRoles, ur.tenantId = value request.user.tenantId → ur.roleId ≠ value id) ∧
          ∃ ur ∈ db.userRoles, ur.roleId = value id
    | _ => False

omit [DecidableEq Id] in
/-- What the handler of a route returns with, unless its changes are undone. -/
theorem serve_returns {tenantId : Id} {ids : Nat → Uuid} {good : Write → Prop}
    {handler : Handler Id Unit} {db : Db} {post : Db → Prop}
    (silent : Sends good (fun _ => False) handler)
    (returns : Returns tenantId ids handler (fun _ after => post after.db) { db }) :
    post (serve (engine Id (.tenantUser (value tenantId))) ids handler db).db ∨
      (serve (engine Id (.tenantUser (value tenantId))) ids handler db).db = db := by
  have ended := serve_post returns
  cases result : (serve (engine Id (.tenantUser (value tenantId))) ids handler db).result with
  | ok _ =>
    rw [result] at ended
    refine .inl ?_
    rw [ended.2]
    exact ended.1
  | error error =>
    exact .inr (serve_undone (sends_wp silent { db }) (fun impossible => impossible) result)

theorem assignments_createUser {request : Request Id} {db : Db} (admitted : request.guards = .ok ())
    {dto : CreateUserDto Id} (route : request.route = .createUser dto)
    (calm : ¬Escalates request db) {row : UserRoleEntity}
    (differs : Differs db.userRoles (next env request db).userRoles row) :
    request.granted "role.assign" = true ∨ DefaultMembership request db (next env request db) row := by
  have silent : Sends (fun _ : Write => True) (fun _ => False)
    ((Route.createUser dto).handler env request.user) :=
    sends_bind (sends_createUser _ _ dto _ (fun _ _ => trivial) (fun _ => trivial) fun _ =>
      trivial) fun _ => trivial
  have returns : Returns request.user.tenantId request.ids
    ((Route.createUser dto).handler env request.user)
      (fun _ after => Created db request.user.tenantId dto after.db) { db } := by
    simp only [Route.handler, Operation.handler, Returns, wp_bind]
    exact returns_createUser env.hashPassword dto request.user.sub
  have same : next env request db =
    (serve (engine Id (.tenantUser (value request.user.tenantId))) request.ids
      ((Route.createUser dto).handler env request.user) db).db := by
    rw [next, Request.serve_admitted admitted, route]
  rcases serve_returns silent returns with created | kept
  · rw [← same] at created
    cases answer : request.granted "role.assign" with
    | true => exact .inl rfl
    | false =>
      obtain ⟨user, fresh, default⟩ := created.assigned row differs
      cases named : dto.roleId with
      | none => exact .inr ⟨dto, route, named, user, fresh, default named⟩
      | some roleId =>
        refine absurd ⟨admitted, answer, ?_⟩ calm
        rw [route]
        exact ⟨⟨roleId, named, created.usable roleId named⟩, created.unused, created.managed⟩
  · rw [same, kept] at differs
    exact absurd differs (not_differs rfl)

theorem assignments_deleteRole {request : Request Id} {db : Db} (admitted : request.guards = .ok ())
    {id : Id} (route : request.route = .deleteRole id) (calm : ¬Escalates request db)
    {row : UserRoleEntity} (differs : Differs db.userRoles (next env request db).userRoles row) :
    request.granted "role.assign" = true := by
  have silent : Sends (fun _ : Write => True) (fun _ => False)
    ((Route.deleteRole id).handler env request.user) :=
    sends_deleteCustomRole id _ _ fun _ => trivial
  have same : next env request db =
    (serve (engine Id (.tenantUser (value request.user.tenantId))) request.ids
      ((Route.deleteRole id).handler env request.user) db).db := by
    rw [next, Request.serve_admitted admitted, route]
  have returns : Returns request.user.tenantId request.ids
    ((Route.deleteRole id).handler env request.user)
      (fun _ after => Deleted db request.user.tenantId id after.db) { db } :=
        returns_deleteCustomRole id request.user.sub
  rcases serve_returns silent returns with deleted | kept
  · rw [← same] at deleted
    cases answer : request.granted "role.assign" with
    | true => rfl
    | false =>
      refine absurd ⟨admitted, answer, ?_⟩ calm
      rw [route]
      exact ⟨deleted.custom, deleted.unassigned, row, deleted.cascade row differs⟩
  · rw [same, kept] at differs
    exact absurd differs (not_differs rfl)

theorem authorised_of_calm {request : Request Id} {db : Db} (calm : ¬Escalates request db) :
    Authorised env request db := by
  cases admitted : request.guards with
  | error refused =>
    have same : next env request db = db := by rw [next, Request.serve_refused admitted]
    constructor
    · exact fun row differs => absurd differs (not_differs (by rw [same]))
    · exact fun row differs => absurd differs (not_differs (by rw [same]))
    · exact fun row differs => absurd differs (not_differs (by rw [same]))
  | ok _ =>
    have frame : SameBut request.route.changes db (next env request db) := sameBut_serve env request db
    have required : ∀ {permission}, permission ∈ request.route.requiredPermissions →
      request.granted permission = true :=
      fun member => request.granted_of_guards admitted member
    constructor
    · intro row differs
      by_cases reached : Relation.userRoles ∈ request.route.changes
      · cases route : request.route with
        | updateUserRoles targetUserId dto =>
          rw [route] at required
          exact .inl (required (by simp [Route.requiredPermissions]))
        | createUser dto => exact assignments_createUser admitted route calm differs
        | deleteRole id => exact .inl (assignments_deleteRole admitted route calm differs)
        | _ =>
          rw [route] at reached
          simp [Route.changes] at reached
      · exact absurd differs (not_differs (frame.userRoles reached))
    · intro row differs
      by_cases reached : Relation.userPermissionOverrides ∈ request.route.changes
      · cases route : request.route with
        | addOverride targetUserId dto | removeOverride targetUserId overrideId =>
          rw [route] at required
          exact required (by simp [Route.requiredPermissions])
        | _ =>
          rw [route] at reached
          simp [Route.changes] at reached
      · exact absurd differs (not_differs (frame.userPermissionOverrides reached))
    · intro row differs
      by_cases reached : Relation.rolePermissions ∈ request.route.changes
      · cases route : request.route with
        | assignPermissions roleId dto | deleteRole id =>
          rw [route] at required
          exact required (by simp [Route.requiredPermissions])
        | _ =>
          rw [route] at reached
          simp [Route.changes] at reached
      · exact absurd differs (not_differs (frame.rolePermissions reached))

/-- In a run without such a request every change of what users are granted is made by a
caller who may. -/
theorem grants_authorised (env : Environment) (db : Db) (requests : List (Request Id))
    (calm : EveryStep (next env) (fun request db => ¬Escalates request db) db requests) :
    EveryStep (next env) (Authorised env) db requests := calm.mono fun _ _ => authorised_of_calm

end Runs

/-! Ada of the office may manage users and nothing else. -/

section Example

def hiring (roleId : Option Uuid) : Request Uuid :=
  request 22 office (.createUser ⟨"cy@acme.io", "hidden", "Cy", "Cole", none, roleId⟩)

theorem grants_authorised_hiring :
    EveryStep (next plainEnvironment) (Authorised plainEnvironment) office [hiring none] := by
  have calm : ¬Escalates (hiring none) office := by
    intro escalates
    obtain ⟨_, _, ⟨roleId, named, _⟩, _⟩ := escalates
    cases named
  exact grants_authorised plainEnvironment office [hiring none] ⟨calm, trivial⟩

/-- Ada makes the new user a second admin. -/
theorem admin_hired : Reachable office ∧ (hiring (some 11)).granted "role.assign" = false ∧
    ¬EveryStep (next plainEnvironment) (Authorised plainEnvironment) office [hiring (some 11)] := by
  have denied : (hiring (some 11)).granted "role.assign" = false := by decide
  have absent : (⟨42, 21, 41, 11, none⟩ : UserRoleEntity) ∉ office.userRoles.rows := by decide
  have assigned :
    (⟨42, 21, 41, 11, none⟩ : UserRoleEntity) ∈ (next plainEnvironment
    (hiring (some 11)) office).userRoles.rows := by decide
  refine ⟨office_reachable, denied, ?_⟩
  intro every
  rcases every.1.assignments _ (fun same => absent (same.mp assigned)) with granted | default
  · rw [denied] at granted
    cases granted
  · obtain ⟨dto, route, unnamed, _⟩ := default
    cases route
    cases unnamed

end Example
end GenericIam.GrantAuthority
