import GenericIam.Controllers
import GenericIam.Hierarchy
import GenericIam.NonInterference

/-! The routes by which a tenant principal reads. What other tenants do shows in none of
their answers. -/

namespace GenericIam.ReadRoutes
open Table Database EffectivePermissions Identifiers CacheKeys AuthorizationCheck
open Transaction Handlers RbacServices Operations ReachableStates TenantView
open TenantEvents TenantRequests Controllers Guards Hierarchy NonInterference Runs
open AccountServices (seedRoles seedPermissions)
open GeneratedKeys (Unused)
open Coherence (plainEnvironment)

/-! The answers. -/

structure UserResponseDto where
  id : Uuid
  tenantId : Uuid
  email : String
  firstName : String
  lastName : String
  isActive : Bool
  managerId : Option Uuid
  deriving DecidableEq

def userResponse (user : UserEntity) : UserResponseDto :=
  ⟨user.id, user.tenantId, user.email, user.firstName, user.lastName, user.isActive, user.managerId⟩

structure MeResponse where
  id : Uuid
  email : String
  firstName : String
  lastName : String
  tenantId : Option Uuid
  isActive : Bool
  managerId : Option Uuid
  identityType : IdentityType
  deriving DecidableEq

structure PaginatedResponse (Row : Type) where
  data : List Row
  total : Nat
  page : Int
  limit : Int
  deriving DecidableEq

inductive Answer where
  | users (found : PaginatedResponse UserResponseDto)
  | user (found : UserResponseDto)
  | hierarchy (subordinates : Option (List Subordinate))
  | userRoles (found : List (UserRoleEntity × Option RoleEntity))
  | overrides (found : List (UserPermissionOverrideEntity × Option PermissionEntity))
  | permissions (found : List PermissionEntity)
  | roles (found : PaginatedResponse RoleEntity)
  | role (found : RoleEntity)
  | acls (found : PaginatedResponse ResourceAclEntity)
  | aclCheck (result : CheckResult)
  | me (found : MeResponse)

/-! The services. -/

/-- How the database compares texts, what it makes of `skip` and `take`, which are negative for
pages below the first, and how many rounds a recursive query gets. -/
structure Reader where
  collate : String → String → Bool
  slice : {Row : Type} → (page limit : Int) → List Row → Except HttpException (List Row)
  rounds : Nat

/-- `findAndCount`, newest first: the rows of a table are in the order of their creation. -/
def findAndCount {Row : Type} (reader : Reader) (page limit : Int) (rows : List Row) :
    Except HttpException (PaginatedResponse Row) := do
  let data ← reader.slice page limit rows.reverse
  pure ⟨data, rows.length, page, limit⟩

section Services
variable {Id : Type} [Identifier Id]

structure AclQueryDto (Id : Type) where
  userId : Option Id := none
  resourceType : Option String := none
  resourceId : Option String := none
  page : Option Int := none
  limit : Option Int := none

def AclQueryDto.admits (query : AclQueryDto Id) (tenantId : Id) (acl : ResourceAclEntity) : Bool :=
  acl.tenantId == value tenantId && query.userId.all (fun userId => acl.userId == value userId) &&
    (truthy query.resourceType).all (fun resourceType => acl.resourceType == resourceType) &&
      (truthy query.resourceId).all fun resourceId => acl.resourceId == resourceId

def findAllAcls (reader : Reader) (db : Db) (tenantId : Id) (query : AclQueryDto Id) :
    Except HttpException (PaginatedResponse ResourceAclEntity) :=
  findAndCount reader (query.page.getD 1) (query.limit.getD 20)
    (db.resourceAcls.find (query.admits tenantId))

/-- `RoleService.findAllForTenant`, by the dates of the roles, which a body may have set. -/
def findAllForTenant (reader : Reader) (db : Db) (tenantId : Id) (page limit : Option Int) :
    Except HttpException (PaginatedResponse RoleEntity) :=
  let found := db.roles.find fun role => role.tenantId == some (value tenantId) || role.isSystem
  findAndCount reader (page.getD 1) (limit.getD 20) (found.mergeSort fun first next =>
    first.createdAt ≤ next.createdAt)

/-- `UserController.findAll`; nothing but the policy of the table keeps to the tenant. -/
def findAllUsers (reader : Reader) (db : Db) (page limit : Option Int) :
    Except HttpException (PaginatedResponse UserResponseDto) := do
  let result ← findAndCount reader (page.getD 1) (limit.getD 10) db.users.rows
  pure ⟨result.data.map userResponse, result.total, result.page, result.limit⟩

def findUserOf [DecidableEq Id] (db : Db) (id tenantId : Id) : Except HttpException UserResponseDto :=
  match db.users.findOne fun user => user.id == value id with
  | none => .error (.notFound "Entity not found")
  | some target => if canonical target.tenantId ≠ tenantId then .error (.notFound "Not found")
      else .ok (userResponse target)

def findRoleOf (db : Db) (id tenantId : Id) : Except HttpException RoleEntity :=
  match db.roles.findOne fun role =>
      role.id == value id && (role.tenantId == some (value tenantId) || role.isSystem) with
  | none => .error (.notFound "Role not found")
  | some role => .ok role

def getMe (db : Db) (userId : Id) : Except HttpException MeResponse :=
  match db.users.findOne fun user => user.id == value userId with
  | some user =>
      .ok ⟨user.id, user.email, user.firstName, user.lastName, some user.tenantId, user.isActive,
      user.managerId, .USER⟩
  | none => match db.superAdmins.findOne fun superAdmin => superAdmin.id == value userId with
    | some superAdmin =>
        .ok ⟨superAdmin.id, superAdmin.email, "Super", "Admin", none, superAdmin.isActive,
        none, .SUPER_ADMIN⟩
    | none => .error (.badRequest "User not found")

end Services

/-! The routes. -/

inductive ReadRoute (Id : Type) where
  | getUsers (page limit : Option Int)
  | getUser (id : Id)
  | getHierarchy (id : Id)
  | getUserRoles (targetUserId : Id)
  | getOverrides (targetUserId : Id)
  | getEffectivePermissions (targetUserId : Id)
  | getSystemPermissions
  | getRoles (page limit : Option Int)
  | getRole (id : Id)
  | getAcls (query : AclQueryDto Id)
  | checkAcl (dto : CheckAclDto Id)
  | getMe

section Routes
variable {Id Key : Type}

def ReadRoute.identityTypes : ReadRoute Id → List IdentityType
  | .getUsers _ _ | .getUser _ | .getHierarchy _ => [.USER, .SUPER_ADMIN]
  | _ => []

def ReadRoute.requiredPermission : ReadRoute Id → Option String
  | .getUsers _ _ | .getHierarchy _ => some "user.read"
  | .getUserRoles _ | .getOverrides _ | .getEffectivePermissions _ | .getSystemPermissions
  | .getRoles _ _ | .getRole _ => some "role.read"
  | .getAcls _ => some "acl.*"
  | .getUser _ | .checkAcl _ | .getMe => none

def ReadRoute.self : ReadRoute Id → Option Id
  | .getUserRoles targetUserId | .getOverrides targetUserId
  | .getEffectivePermissions targetUserId => some targetUserId
  | _ => none

variable [Identifier Id] [DecidableEq Id] [DecidableEq Key] (keys : KeyScheme Id Key)
  (reader : Reader) (now : Time)
  (user : TenantPrincipal Id)

def permitted (db : Db) (cache : Cache Key) (permission : String) : Bool × Cache Key :=
  let answered := check keys db now cache ⟨user.sub, user.tenantId, permission, none, none⟩
  (answered.1.allowed, answered.2)

/-- The guards run before there is a transaction. -/
def ReadRoute.guards (route : ReadRoute Id) (db : Db) (cache : Cache Key) :
    Except HttpException Unit × Cache Key :=
  match identityTypeGuard route.identityTypes user.payload with
  | .error refused => (.error refused, cache)
  | .ok () => match route.requiredPermission with
    | none => (.ok (), cache)
    | some permission =>
        if route.self = some user.sub then (.ok (), cache)
        else
          let answered := permitted keys now user db cache permission
          (if answered.1 then .ok () else .error (.forbidden "Insufficient permissions"), answered.2)

/-- The handlers, for the rows that the session shows and, where the default connection is
used, for all of them. -/
def ReadRoute.handle (route : ReadRoute Id) (db : Db) (cache : Cache Key) :
    Except HttpException Answer × Cache Key :=
  let seen := shown (sessionOf user.payload) db
  match route with
  | .getUsers page limit => ((findAllUsers reader seen page limit).map .users, cache)
  | .getUser id =>
      if user.sub = id then ((findUserOf seen id user.tenantId).map .user, cache)
      else
        let answered := permitted keys now user seen cache "user.read"
        if answered.1 then ((findUserOf seen id user.tenantId).map .user, answered.2)
        else (.error (.forbidden "Insufficient permissions"), answered.2)
  | .getHierarchy id =>
      (.ok (.hierarchy (Hierarchy.getHierarchy reader.collate db reader.rounds id user.tenantId)), cache)
  | .getUserRoles targetUserId =>
      let found := EffectivePermissions.getUserRoles seen now (value targetUserId) (value user.tenantId)
      (.ok (.userRoles (found.map fun ur => (ur, seen.roles.findOne fun role => role.id == ur.roleId))),
        cache)
  | .getOverrides targetUserId =>
      let found := getOverridesForUser seen (value targetUserId) (value user.tenantId)
      (.ok (.overrides (found.map fun o => (o, overridePermission seen o))), cache)
  | .getEffectivePermissions targetUserId =>
      (.ok (.permissions
        (EffectivePermissions.getEffectivePermissions seen now (value targetUserId)
        (value user.tenantId))), cache)
  | .getSystemPermissions => (.ok (.permissions seen.permissions.rows), cache)
  | .getRoles page limit => ((findAllForTenant reader seen user.tenantId page limit).map .roles, cache)
  | .getRole id => ((findRoleOf seen id user.tenantId).map .role, cache)
  | .getAcls query => ((findAllAcls reader seen user.tenantId query).map .acls, cache)
  | .checkAcl dto =>
      let answered := AuthorizationCheck.aclCheck keys seen cache user.tenantId dto
      (.ok (.aclCheck answered.1), answered.2)
  | .getMe => ((ReadRoutes.getMe db user.sub).map .me, cache)

def ReadRoute.serve (route : ReadRoute Id) (db : Db) (cache : Cache Key) :
    Except HttpException Answer × Cache Key :=
  match route.guards keys now user db cache with
  | (.error refused, cache) => (.error refused, cache)
  | (.ok (), cache) => route.handle keys reader now user db cache

end Routes

/-! What the default connection is asked for, the rows of the tenant would answer as well. -/

section Views
variable {Id : Type} [Identifier Id] {tenantId : Uuid} {db : Db}

theorem getHierarchy_view (collate : String → String → Bool) (rounds : Nat) (userId : Id)
    {owner : Id} (own : value owner = tenantId) :
    Hierarchy.getHierarchy collate (view tenantId db) rounds userId owner =
      Hierarchy.getHierarchy collate db rounds userId owner := by
  have within : ∀ where_ : UserEntity → Bool,
      (view tenantId db).users.find (fun user => where_ user && user.tenantId == value owner) =
        db.users.find fun user => where_ user && user.tenantId == value owner := by
    intro where_
    apply find_select
    intro user _ matched
    simp only [Bool.and_eq_true, beq_iff_eq] at matched
    exact admits_iff.mpr (matched.2.trans own)
  have first : anchor (view tenantId db) (value userId) (value owner) =
      anchor db (value userId) (value owner) := by
    unfold anchor
    rw [within]
  have later : reports (view tenantId db) (value owner) = reports db (value owner) := by
    funext working
    unfold reports
    simp only [within]
  unfold Hierarchy.getHierarchy
  rw [first, later]

theorem getMe_view {userId : Id} (member : TenantWrites.UserOf db tenantId (value userId)) :
    getMe (view tenantId db) userId = getMe db userId := by
  obtain ⟨user, present, same, own⟩ := member
  have found : ((view tenantId db).users.findOne fun user => user.id == value userId) =
      db.users.findOne fun user => user.id == value userId := by
    apply findOne_select
    intro other listed matched
    have whole : other = user := eq_of_key_eq listed present ((beq_iff_eq.mp matched).trans same.symm)
    rw [whole]
    exact admits_iff.mpr own
  unfold getMe
  rw [found]
  rfl

end Views

/-! One request on two databases that go abreast for its tenant. -/

section Agreement
variable {Id Key : Type} [Identifier Id] [DecidableEq Id] [DecidableEq Key] {keys : KeyScheme Id Key}
  {reader : Reader} {now : Time}
  {user : TenantPrincipal Id} {strange : Uuid → Prop} {db db' : Db} {cache cache' : Cache Key}

/-- The answer is the same, and what it leaves in the cache is the same for the tenant. -/
def Agrees {Result : Type} (keys : KeyScheme Id Key) (tenantId : Uuid)
    (first second : Result × Cache Key) : Prop :=
  first.1 = second.1 ∧ AgreeOn keys tenantId first.2 second.2

omit [DecidableEq Id] in
theorem permitted_agrees (same : SameAnswers Id (value user.tenantId) db db')
    (agree : AgreeOn keys (value user.tenantId) cache cache') (permission : String) :
    Agrees keys (value user.tenantId) (permitted keys now user db cache permission)
      (permitted keys now user db' cache' permission) := by
  obtain ⟨answer, after⟩ := @check_agree Id Key _ keys (value user.tenantId) _ db db' now cache cache'
    ⟨user.sub, user.tenantId, permission, none, none⟩ same rfl agree
  exact ⟨congrArg CheckResult.allowed answer, after⟩

theorem guards_agree (route : ReadRoute Id) (same : SameAnswers Id (value user.tenantId) db db')
    (agree : AgreeOn keys (value user.tenantId) cache cache') :
    Agrees keys (value user.tenantId) (route.guards keys now user db cache)
      (route.guards keys now user db' cache') := by
  unfold ReadRoute.guards
  cases identityTypeGuard route.identityTypes user.payload with
  | error refused => exact ⟨rfl, agree⟩
  | ok _ =>
    cases route.requiredPermission with
    | none => exact ⟨rfl, agree⟩
    | some permission =>
      by_cases self : route.self = some user.sub
      · simp only [if_pos self]
        exact ⟨rfl, agree⟩
      · obtain ⟨answer, after⟩ :=
          @permitted_agrees Id Key _ _ keys now user db db' cache cache' same agree permission
        simp only [if_neg self]
        exact ⟨by rw [answer], after⟩

/-- A handler goes by the rows that its session shows, but for the hierarchy and the caller's
own account, and there by rows of the tenant. -/
theorem handle_agrees (route : ReadRoute Id)
    (abreast : Abreast (value user.tenantId) strange db db')
    (member : TenantWrites.UserOf db (value user.tenantId) (value user.sub))
    (agree : AgreeOn keys (value user.tenantId) cache cache') :
    Agrees keys (value user.tenantId) (route.handle keys reader now user db cache)
      (route.handle keys reader now user db' cache') := by
  have seen : shown (sessionOf user.payload) db = shown (sessionOf user.payload) db' := by
    rw [sessionOf_payload]
    exact abreast.same
  have still : SameAnswers Id (value user.tenantId) (shown (sessionOf user.payload) db')
    (shown (sessionOf user.payload) db') :=
    ⟨fun _ _ => rfl, fun _ _ _ => rfl⟩
  unfold ReadRoute.handle
  rw [seen]
  cases route with
  | getUser id =>
    by_cases self : user.sub = id
    · simp only [if_pos self]
      exact ⟨rfl, agree⟩
    · obtain ⟨answer, after⟩ :=
        @permitted_agrees Id Key _ _ keys now user _ _ cache cache' still agree "user.read"
      simp only [if_neg self]
      rw [answer]
      split
      · exact ⟨rfl, after⟩
      · exact ⟨rfl, after⟩
  | getHierarchy id =>
    refine ⟨?_, agree⟩
    have whole : Hierarchy.getHierarchy reader.collate db reader.rounds id user.tenantId =
        Hierarchy.getHierarchy reader.collate db' reader.rounds id user.tenantId := by
      rw [← getHierarchy_view reader.collate reader.rounds id rfl, abreast.same,
        getHierarchy_view reader.collate reader.rounds id rfl]
    simp only [whole]
  | checkAcl dto =>
    obtain ⟨answer, after⟩ :=
      @aclCheck_agree Id Key _ keys
      (value user.tenantId) _ _ _ cache cache' user.tenantId still rfl agree dto
    exact ⟨by simp only [answer], after⟩
  | getMe =>
    have member' : TenantWrites.UserOf db' (value user.tenantId) (value user.sub) := by
      rw [← userOf_view, ← abreast.same, userOf_view]
      exact member
    refine ⟨?_, agree⟩
    have whole : ReadRoutes.getMe db user.sub = ReadRoutes.getMe db' user.sub := by
      rw [← getMe_view member, abreast.same, getMe_view member']
    simp only [whole]
  | _ => exact ⟨rfl, agree⟩

theorem serve_agrees (route : ReadRoute Id) (abreast : Abreast (value user.tenantId) strange db db')
    (member : TenantWrites.UserOf db (value user.tenantId) (value user.sub))
    (agree : AgreeOn keys (value user.tenantId) cache cache') :
    Agrees keys (value user.tenantId) (route.serve keys reader now user db cache)
      (route.serve keys reader now user db' cache') := by
  obtain ⟨answer, after⟩ :=
    @guards_agree Id Key _ _ _ keys now user db db' cache cache' route (abreast.answers Id) agree
  unfold ReadRoute.serve
  revert answer after
  cases route.guards keys now user db cache with
  | mk result held =>
    cases route.guards keys now user db' cache' with
    | mk result' held' =>
      intro answer after
      cases answer
      cases result with
      | error refused => exact ⟨rfl, after⟩
      | ok _ => exact handle_agrees route abreast member after

omit [DecidableEq Id] [DecidableEq Key] in
/-- In the beginning the two runs have the same state. -/
theorem together_start (keys : KeyScheme Id Key) {tenantId : Uuid} (reached : Reachable db)
    (cache : Cache Key) {steps : List (Step Id Key)} (fresh : Fresh db steps) :
    Together keys tenantId (Strange tenantId steps) steps ({ db, cache } : State Id Key)
      { db, cache } := by
  constructor
  · exact ⟨rfl, fun _ _ => rfl, reached.consistent, reached.consistent⟩
  · exact fun _ _ => rfl
  · rfl
  · exact fun _ _ sent => by cases sent
  · exact fun _ sent => by cases sent
  · exact fun _ sent => by cases sent
  · exact fresh
  · exact fresh
  · exact fun step member left id drawn => ⟨step, member, left, drawn⟩

/-- Whatever a user of the tenant asks for after a run, the answer is that of the run without
the requests of other tenants. -/
theorem reads_undisturbed (keys : KeyScheme Id Key) (env : Environment) {db : Db}
    (reached : Reachable db) (cache : Cache Key) {steps : List (Step Id Key)}
    (fresh : Fresh db steps) (admissible : ∀ step ∈ steps, step.Admissible)
    (user : TenantPrincipal Id)
    (acquainted : EveryStep (Step.next keys env)
      (fun step state =>
        ¬step.NamesStranger (value user.tenantId) (Strange (value user.tenantId) steps) state)
        { db, cache } steps)
    (member : TenantWrites.UserOf (final (Step.next keys env) { db, cache } steps).db
      (value user.tenantId) (value user.sub))
    (reader : Reader) (now : Time) (route : ReadRoute Id) :
    let last := final (Step.next keys env) { db, cache } steps
    let last' :=
      final (Step.next keys env) { db, cache } (steps.filter (Step.kept (value user.tenantId)))
    (route.serve keys reader now user last.db last.cache).1 =
        (route.serve keys reader now user last'.db last'.cache).1 := by
  intro last last'
  have run := unwinding keys env (value user.tenantId) (Strange (value user.tenantId) steps)
  have together := (run.run (acquainted.joined admissible) (together_start keys reached cache fresh)).2
  exact (serve_agrees route together.abreast member together.cache).1

end Agreement

/-! Ada lists the users, and the coming of Cy to Beta does not show. -/

section Example

theorem user_ordinary : IdentityType.USER ≠ .SUPER_ADMIN := by decide

def asAda : TenantPrincipal Uuid := ⟨ada, acme, .USER, user_ordinary⟩

def wholeReader : Reader := ⟨fun _ _ => true, fun _ _ rows => .ok rows, 5⟩

theorem ada_stranger : ¬Strange acme (sharing ada) ada := by
  intro stranger
  obtain ⟨step, member, left, drawn⟩ := stranger
  simp only [sharing, founding, List.cons_append, List.nil_append, List.mem_cons, List.not_mem_nil,
    or_false] at member
  have mine : Drawn (block 1) ada := ⟨1, rfl⟩
  rcases member with rfl | rfl | rfl | rfl | rfl
  · cases left
  · cases left
  · exact drawn_apart (by decide) (by decide) (by decide) ada drawn mine
  · exact drawn_apart (by decide) (by decide) (by decide) ada drawn mine
  · cases left

def listing : Db :=
  (run (engine Uuid .bypassRls) (block 6)
    (seedRoles (fun _ => 0) [⟨"Tenant Admin", "Manages the users", ["user.read"]⟩])
    { db := (run (engine Uuid .bypassRls) (block 5) (seedPermissions ["user.read"]) { db := {} }).2.db
      }).2.db

theorem listing_reachable : Reachable listing :=
  .rolesSeeded _ _ _ (.permissionsSeeded _ _ (.empty .empty))

theorem listing_unused {number : Nat} (small : number < 5) : Unused (Drawn (block number)) listing := by
  have role : ∀ index, ¬Drawn (block number) (block 6 index) := fun index drawn =>
    drawn_apart (by omega) (by decide) (by omega) _ drawn ⟨index, rfl⟩
  have roles : ∀ row ∈ listing.roles.rows, row.id = block 6 0 := by decide
  have mappings : ∀ row ∈ listing.rolePermissions.rows, row.id = block 6 1 ∧
    row.roleId = block 6 0 := by decide
  refine ⟨fun _ member => absurd member List.not_mem_nil, fun _ member =>
    absurd member List.not_mem_nil, ?_, ?_,
    fun _ member => absurd member List.not_mem_nil, fun _ member => absurd member List.not_mem_nil,
    fun _ member => absurd member List.not_mem_nil⟩
  · intro row member
    rw [roles row member]
    exact role 0
  · intro row member
    rw [(mappings row member).1, (mappings row member).2]
    exact ⟨role 1, role 0⟩

theorem listing_fresh : Fresh listing (sharing ada) := by
  refine ⟨?_, (sharing_fresh ada).apart⟩
  intro step member
  simp only [sharing, founding, List.cons_append, List.nil_append, List.mem_cons, List.not_mem_nil,
    or_false] at member
  rcases member with rfl | rfl | rfl | rfl | rfl
  · exact listing_unused (by decide)
  · exact listing_unused (by decide)
  · exact listing_unused (by decide)
  · exact listing_unused (by decide)
  · exact ⟨fun _ _ => id, fun _ _ => ⟨id, id⟩, fun _ _ => id, fun _ _ => ⟨id, id⟩, fun _ _ =>
      id, fun _ _ => id, fun _ _ => id⟩

theorem sharing_acquainted : EveryStep (Step.next tupleKeys plainEnvironment)
    (fun step state => ¬step.NamesStranger acme (Strange acme (sharing ada)) state)
      { db := listing, cache := .empty } (sharing ada) := by
  refine ⟨id, id, ?_, ?_, id, trivial⟩
  · intro named
    exact absurd named.1 (by decide)
  · intro named
    obtain ⟨_, id, own, stranger, _⟩ := named
    have same : id = ada := own
    exact ada_stranger (same ▸ stranger)

theorem sharing_member :
    TenantWrites.UserOf
      (final (Step.next tupleKeys plainEnvironment) { db := listing, cache := .empty } (sharing ada)).db
      acme ada := by
  change ∃ user ∈ (final (Step.next tupleKeys plainEnvironment) { db := listing, cache := .empty }
    (sharing ada)).db.users.rows, _
  decide

/-- She sees herself alone. -/
theorem reads_undisturbed_sharing :
    let last :=
      final (Step.next tupleKeys plainEnvironment) { db := listing, cache := .empty } (sharing ada)
    let last' :=
      final (Step.next tupleKeys plainEnvironment) { db := listing, cache := .empty }
      ((sharing ada).filter (Step.kept acme))
    ((ReadRoute.getUsers none none).serve tupleKeys wholeReader 0 asAda last.db last.cache).1 =
        ((ReadRoute.getUsers none none).serve tupleKeys wholeReader 0 asAda last'.db last'.cache).1 ∧
      ((ReadRoute.getUsers none none).serve tupleKeys wholeReader 0 asAda last.db last.cache).1 =
        .ok (.users ⟨[⟨ada, acme, "ada@acme.io", "Ada", "Ames", true, none⟩], 1, 1, 10⟩) :=
  ⟨reads_undisturbed tupleKeys plainEnvironment listing_reachable .empty listing_fresh
    (sharing_admissible ada) asAda
    sharing_acquainted sharing_member wholeReader 0 (.getUsers none none), by rfl⟩

end Example
end GenericIam.ReadRoutes
