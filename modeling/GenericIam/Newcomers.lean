import GenericIam.ReadRoutes
import GenericIam.References
import GenericIam.ShippedSeeds
import GenericIam.TenantRecords

/-! What a user may do who has just come: the founder of a tenant, a member for whom nobody has
named a role, and one who has been given a role of the system. -/

namespace GenericIam.Newcomers
open Table Database Identifiers CacheKeys AuthorizationCheck PermissionMatcher
open PermissionAlgebra Transaction Handlers AccountServices ReachableStates
open SeededRoles Reseeding ShippedSeeds AccessModel AccessRefinement Races Runs
open AccessRuns Controllers Guards ReadRoutes TenantRecords EffectivePermissions
open Coherence (Coherent check_coherent coherent_filled)

section Invariants
variable {session : Session} {seeds : Seeds} {db db' : Db} {write : Write}

structure Peopled (db : Db) : Prop where
  assigned : ∀ row ∈ db.userRoles, db.hasUser row.userId = true
  overridden : ∀ row ∈ db.userPermissionOverrides, db.hasUser row.userId = true
  shared : ∀ row ∈ db.resourceAcls, db.hasUser row.userId = true

theorem hasUser_of_insertUserRole {row : UserRoleEntity}
    (applied : (Write.insertUserRole row).apply session db = some db') :
    db.hasUser row.userId = true := by
  simp only [Write.apply, Db.insertUserRole, Option.ite_none_right_eq_some, Bool.and_eq_true] at applied
  exact applied.1.1.1.2

theorem peopled_apply (peopled : Peopled db) (applied : write.apply session db = some db') :
    Peopled db' := by
  have stays : ∀ {id}, db.hasUser id = true → db'.hasUser id = true :=
    fun known => (TenantTwins.hasUser_apply applied _).mpr (.inl known)
  constructor
  · intro row present
    rcases mem_userRoles_apply applied present with ⟨old, before, changed⟩ | rfl
    · rw [changed]
      exact stays (peopled.assigned old before)
    · exact stays (hasUser_of_insertUserRole applied)
  · intro row present
    rcases mem_overrides_apply applied present with ⟨old, before, changed⟩ | rfl
    · rw [changed]
      exact stays (peopled.overridden old before)
    · exact stays (References.hasUser_of_insertOverride applied)
  · intro row present
    rcases mem_resourceAcls_apply applied present with before | rfl
    · exact stays (peopled.shared row before)
    · exact stays (References.hasUser_of_insertAcl applied)

/-- Of a user that does not exist nothing is known. -/
theorem blank_of_absent (peopled : Peopled db) {tenantId userId : Uuid}
    (absent : db.hasUser userId = false) :
    (access db).Blank tenantId userId := by
  have other : ∀ {id}, db.hasUser id = true → id ≠ userId := by
    intro id known same
    obtain rfl := same
    rw [absent] at known
    cases known
  constructor
  · intro role
    refine index_none fun row member same => other (peopled.assigned row member) ?_
    exact congrArg (fun at_ => at_.2.1) same
  · intro permission
    refine index_none fun row member same => other (peopled.overridden row member) ?_
    exact congrArg (fun at_ => at_.2.1) same
  · intro object
    refine index_none fun row member same => other (peopled.shared row member) ?_
    exact congrArg (fun at_ => at_.2.1) same

structure Deployed (seeds : Seeds) (db : Db) : Prop where
  defined : AsDefined seeds db
  ownerless : Ownerless db
  tidy : Tidy db
  housed : Housed db
  peopled : Peopled db

theorem deployed_of_bootstrap {hashPassword : String → String} {password : String} {keys : Keys}
    {superAdmins : Table SuperAdminEntity} (sound : ShippedSeeds.Sound seeds)
    (completed : (bootstrap hashPassword password seeds keys { superAdmins }).1 = .ok ()) :
    Deployed seeds (bootstrap hashPassword password seeds keys { superAdmins }).2 := by
  have defined := asDefined_of_bootstrap sound.names completed
  have ownerless : Ownerless (bootstrap hashPassword password seeds keys { superAdmins }).2 :=
    ownerless_of_bootstrap (fun role member => by cases member) completed
  have reached : Reachable
      (seededDb keys.clock keys.roles seeds.rolesData
        (namedDb keys.permissions seeds.permissionsToSeed { superAdmins })) :=
    .rolesSeeded _ _ _ (.permissionsSeeded _ _ (.empty superAdmins))
  have tidy := tidy_of_reachable reached
  have housed := housed_of_reachable reached
  have peopled := reached.invariant (fun _ => ⟨nofun, nofun, nofun⟩) peopled_apply
  -- the super admin is in a table of its own
  obtain ⟨_, _, ⟨others, same⟩, _⟩ := completed_of_bootstrap completed
  rw [same] at defined ownerless ⊢
  exact {
    defined, ownerless, housed
    tidy := ⟨tidy.assigned, tidy.mapped, tidy.overridden, tidy.shared⟩
    peopled := ⟨peopled.assigned, peopled.overridden, peopled.shared⟩ }

theorem deployed_next (deployed : Deployed seeds db) {incoming : Incoming}
    (admissible : incoming.sender.Admissible) :
    Deployed seeds (incoming.next db) where
  defined := invariant_next asDefined_apply deployed.defined admissible
  ownerless := invariant_next ownerless_apply deployed.ownerless admissible
  tidy := (becomes_next incoming deployed.tidy deployed.housed).tidy
  housed := housed_next incoming deployed.housed
  peopled :=
    invariant_next (fun peopled _ applied => peopled_apply peopled applied) deployed.peopled admissible

inductive InService (seeds : Seeds) : Db → Prop where
  | seeded {hashPassword : String → String} {password : String} {keys : Keys}
      {superAdmins : Table SuperAdminEntity}
      (completed : (bootstrap hashPassword password seeds keys { superAdmins }).1 = .ok ()) :
      InService seeds (bootstrap hashPassword password seeds keys { superAdmins }).2
  | served {db : Db} {incoming : Incoming} (before : InService seeds db)
      (admissible : incoming.sender.Admissible) :
      InService seeds (incoming.next db)

theorem deployed_of_inService (sound : ShippedSeeds.Sound seeds) (inService : InService seeds db) :
    Deployed seeds db := by
  induction inService with
  | seeded completed => exact deployed_of_bootstrap sound completed
  | served _ admissible ih => exact deployed_next ih admissible

end Invariants

/-! The requests that bring someone. -/

section Hires
variable {seeds : Seeds} {db : Db} {incoming : Incoming} {tenantId userId : Uuid}
  {roleDef : RoleDefinition}

inductive Hires (db : Db) (roleDef : RoleDefinition) : Incoming → Uuid → Uuid → Prop where
  | founder (named : roleDef.name = tenantAdminRole) (env : Operations.Environment) (actorId : Uuid)
      (dto : CreateTenantDto)
      (ids : Nat → Uuid) (now : Time) :
      Hires db roleDef ⟨.superAdmin env actorId (.createTenantWithAdmin dto), ids, now⟩ (ids 0) (ids 1)
  | member (named : roleDef.name = memberRole) (env : Operations.Environment) (tenantId actorId : Uuid)
      (dto : CreateUserDto Uuid)
      (unnamed : dto.roleId = none) (ids : Nat → Uuid) (now : Time) :
      Hires db roleDef ⟨.tenant env tenantId actorId (.createUser dto), ids, now⟩ tenantId (ids 0)
  | appointed {role : RoleEntity} (found : seededRole db roleDef = some role)
      (env : Operations.Environment) (tenantId actorId : Uuid)
      (dto : CreateUserDto Uuid) (chosen : dto.roleId = some role.id) (ids : Nat → Uuid) (now : Time) :
      Hires db roleDef ⟨.tenant env tenantId actorId (.createUser dto), ids, now⟩ tenantId (ids 0)

theorem absent_of_insert {row : UserEntity} {later : Table UserEntity}
    (inserted : db.users.insert row = some later) :
    db.hasUser row.id = false := by
  rw [Bool.eq_false_iff]
  intro known
  obtain ⟨user, member, same⟩ := any_iff.mp known
  exact (insert_some inserted).1 user member (beq_iff_eq.mp same)

theorem wp_insertUser {session : Session} {ids : Nat → Uuid} {row : UserEntity}
    {tx : Tx (effects Uuid) Db} {post : Unit → Tx (effects Uuid) Db → Prop}
    (added : ∀ after, tx.db.hasUser row.id = false → post () after) :
    wp (engine Uuid session) ids ⟨fun _ _ => True, fun _ _ => True⟩ (persist (.insertUser row)) post
      (fun _ _ => True) tx := by
  refine wp_persist trivial ?_ trivial
  intro db applied
  simp only [Write.apply, Option.ite_none_right_eq_some] at applied
  obtain ⟨_, inserted, _⟩ := insertUser_some applied.2
  exact added _ (absent_of_insert inserted)

theorem absent_of_served {session : Session} {ids : Nat → Uuid} {handler : Handler Uuid Unit}
    (holds : wp (engine Uuid session) ids ⟨fun _ _ => True, fun _ _ => True⟩ handler
      (fun _ _ => db.hasUser userId = false)
      (fun _ _ => True) { db })
    (answered : (serve (engine Uuid session) ids handler db).result.isOk = true) :
    db.hasUser userId = false := by
  have ended := serve_post holds
  cases result : (serve (engine Uuid session) ids handler db).result with
  | ok value =>
    rw [result] at ended
    exact ended.1
  | error error =>
    rw [result] at answered
    cases answered

/-- Whatever is done after the user has been inserted. -/
theorem absent_of_createUser {env : Operations.Environment} {actorId : Uuid}
    {dto : CreateUserDto Uuid} {ids : Nat → Uuid}
    (answered : (serve (engine Uuid (.tenantUser tenantId)) ids
      ((Operations.Operation.createUser dto).handler env tenantId actorId) db).result.isOk = true) :
    db.hasUser (ids 0) = false := by
  refine absent_of_served ?_ answered
  unfold Operations.Operation.handler createUser
  simp only [wp_bind, wp_visible]
  refine wp_refuseIf ?_ fun _ => trivial
  intro _
  simp only [wp_bind, wp_newId]
  exact wp_insertUser fun _ absent => wp_unmonitored _ (fun _ _ => absent) (fun _ _ => trivial) _

theorem absent_of_createTenant {env : Operations.Environment} {actorId : Uuid}
    {dto : CreateTenantDto} {ids : Nat → Uuid}
    (answered : (serve (engine Uuid .bypassRls) ids
      ((SuperAdminRequests.SuperAdminOperation.createTenantWithAdmin dto).handler env actorId)
        db).result.isOk = true) :
    db.hasUser (ids 1) = false := by
  refine absent_of_served ?_ answered
  unfold SuperAdminRequests.SuperAdminOperation.handler createTenantWithAdmin
  simp only [wp_bind, wp_visible]
  refine wp_refuseIf ?_ fun _ => trivial
  intro _
  simp only [wp_bind, wp_newId]
  refine wp_persist trivial ?_ trivial
  intro founded named
  obtain ⟨tenants, _, rfl⟩ := insertTenant_some named
  simp only [wp_bind, wp_newId]
  exact wp_insertUser fun _ absent => wp_unmonitored _ (fun _ _ => absent) (fun _ _ => trivial) _

theorem absent_of_hires (hires : Hires db roleDef incoming tenantId userId)
    (answered : (incoming.served db).result.isOk = true) :
    db.hasUser userId = false := by
  cases hires with
  | founder named env actorId dto ids now => exact absent_of_createTenant answered
  | member named env tenantId actorId dto unnamed ids now => exact absent_of_createUser answered
  | appointed found env tenantId actorId dto chosen ids now => exact absent_of_createUser answered

/-- The role that the seeds have defined is the one that each of the requests assigns. -/
theorem commands_of_hires (deployed : Deployed seeds db)
    (hires : Hires db roleDef incoming tenantId userId)
    (answered : (incoming.served db).result.isOk = true) {role : RoleEntity}
    (found : seededRole db roleDef = some role) :
    incoming.commands db = [.assign (tenantId, userId, role.id) none] := by
  unfold Incoming.commands
  rw [if_pos answered]
  cases hires with
  | founder named env actorId dto ids now =>
    have same : (shown .bypassRls db).roles.findOne (fun role => role.name == tenantAdminRole &&
        role.isSystem) = some role := by
      rw [← found, seen_roles, seededRole, named]
      refine findOne_congr fun other present => ?_
      cases system : other.isSystem with
      | false => simp
      | true => simp [(deployed.ownerless other present).mpr system]
    simp only [Incoming.asks, governed, same, Option.map_some, Option.toList_some]
  | member named env tenantId actorId dto unnamed ids now =>
    have same : employee tenantId db = some role := by
      rw [← found, employee, seededRole, named]
      refine (findOne_select fun other present matched => ?_).trans
        (findOne_congr fun other present => ?_)
      · simp only [Bool.and_eq_true, beq_iff_eq] at matched
        simp [Session.admitsRole, (deployed.ownerless other present).mp matched.2]
      · cases owner : other.tenantId with
        | none => simp [(deployed.ownerless other present).mp owner]
        | some _ => simp
    simp only [Incoming.asks, requested, unnamed, same, Option.map_none, Option.none_or,
      Option.map_some, Option.toList_some]
  | appointed seeded env tenantId actorId dto chosen ids now =>
    cases found.symm.trans seeded
    simp only [Incoming.asks, requested, chosen, Option.map_some, Option.some_or, Option.toList_some]
    rfl

end Hires

/-! What the check answers. -/

section Answers
variable {Id : Type} [Identifier Id] {seeds : Seeds} {db : Db} {incoming : Incoming}
  {tenantId userId : Uuid} {roleDef : RoleDefinition}

/-- With one role and nothing else, a user is granted what the role is mapped to. -/
theorem grants_first (tidy : Tidy db) {now : Time} {dto : CheckAuthzDto Id}
    (blank : (access db).Blank (value dto.tenantId) (value dto.userId)) (roleId : Uuid) :
    Grants ((access db).after [.assign (value dto.tenantId, value dto.userId, roleId) none])
      db.permissions now dto ↔
      hasPermission (roleCodes db roleId) dto.permission = true := by
  have mapped : ∀ permission : PermissionEntity,
      (access db).mapped (roleId, permission.id) = some () ↔ Mapped db roleId permission.id := by
    intro permission
    simp only [access, index_some tidy.mapped, mapping, Prod.mk.injEq, and_true, Mapped]
  have unshared : ∀ object,
    ((access db).after [.assign (value dto.tenantId, value dto.userId, roleId) none]).shared
      (value dto.tenantId, value dto.userId, object) = none := blank.shared
  unfold Grants
  rw [hasPermission_iff_covers]
  constructor
  · intro holds
    rcases holds with ⟨permission, present, permits, covering⟩ | ⟨resource, _, given⟩
    · have first := (blank.permits roleId permission.id).mp permits
      exact ⟨permission.code,
        mem_roleCodes.mpr ⟨permission, present, (mapped permission).mp first, rfl⟩, covering⟩
    · rw [unshared] at given
      cases given
  · intro holds
    obtain ⟨code, member, covering⟩ := holds
    obtain ⟨permission, present, first, rfl⟩ := mem_roleCodes.mp member
    exact .inl ⟨permission, present,
      (blank.permits roleId permission.id).mpr ((mapped permission).mpr first), covering⟩

/-- Until something is done about the user or his role, the answers are those of the definition. -/
theorem decision_newcomer (sound : ShippedSeeds.Sound seeds) (deployed : Deployed seeds db)
    (member : roleDef ∈ seeds.rolesData) (hires : Hires db roleDef incoming tenantId userId)
    (answered : (incoming.served db).result.isOk = true) (run : List Incoming) (now : Time)
    (away : ∀ command ∈ accepted (incoming.next db) run,
      ¬command.Concerns (access (incoming.next db)) now tenantId userId)
    (dto : CheckAuthzDto Id) (tenant : value dto.tenantId = tenantId)
    (user : value dto.userId = userId) :
    decision (final Incoming.next (incoming.next db) run) now dto =
      hasPermission roleDef.permissions dto.permission := by
  obtain ⟨role, found, expanded⟩ := deployed.defined roleDef member
  have begins := becomes_next incoming deployed.tidy deployed.housed
  rw [commands_of_hires deployed hires answered found] at begins
  have continues :=
    @becomes_run (incoming.next db) run begins.tidy (housed_next incoming deployed.housed)
  have blank : (access db).Blank tenantId userId :=
    blank_of_absent deployed.peopled (absent_of_hires hires answered)
  subst tenant user
  -- back from the end of the run to the role that the request has assigned
  have first : decision (final Incoming.next (incoming.next db) run) now dto = true ↔
      hasPermission (roleCodes db role.id) dto.permission = true :=
    calc decision (final Incoming.next (incoming.next db) run) now dto = true
      _ ↔ Grants ((access (incoming.next db)).after (accepted (incoming.next db) run))
          (incoming.next db).permissions now dto := by
          rw [decision_iff continues.tidy dto, continues.access, continues.permissions]
      _ ↔ Grants (access (incoming.next db)) (incoming.next db).permissions now dto :=
        grants_sameFor (sameFor_after away)
      _ ↔ Grants ((access db).after [.assign (value dto.tenantId, value dto.userId, role.id) none])
          db.permissions now dto := by
          rw [begins.access, begins.permissions]
      _ ↔ hasPermission (roleCodes db role.id) dto.permission = true :=
        grants_first deployed.tidy blank role.id
  rw [Bool.eq_iff_iff, first,
    hasPermission_faithful (sound.listed roleDef member) expanded (sound.faithful roleDef member)]

end Answers

/-! The routes. -/

section Routes
variable {request : Controllers.Request Uuid}

def may (db : Db) (now : Time) (user : TenantPrincipal Uuid) (permission : String) : Bool :=
  decision db now (⟨user.sub, user.tenantId, permission, none, none⟩ : CheckAuthzDto Uuid)

theorem identity_user {types : List IdentityType} {user : TenantPrincipal Uuid}
    (ordinary : user.identityType = .USER) (listed : types = [] ∨ .USER ∈ types) :
    identityTypeGuard types user.payload = .ok () := by
  rcases listed with rfl | inside
  · rfl
  · simp [identityTypeGuard, TenantPrincipal.payload, ordinary, inside]

/-- The guards and the check of the handler, for a user of a tenant. -/
theorem guards_user (ordinary : request.user.identityType = .USER) :
    request.guards = .ok () ↔
      (∀ permission ∈ request.route.requiredPermissions, request.granted permission = true) ∧
      ∀ id dto, request.route = .updateUser id dto → id = request.user.sub ∨
        request.granted "user.write" = true := by
  have typed : identityTypeGuard request.route.identityTypes request.user.payload = .ok () := by
    refine identity_user ordinary ?_
    cases request.route <;> simp [Route.identityTypes]
  have permitted :
    iamPermissionGuard request.granted request.route.requiredPermissions request.user.payload = .ok () ↔
      ∀ permission ∈ request.route.requiredPermissions, request.granted permission = true := by
    simp [iamPermissionGuard, TenantPrincipal.payload, ordinary]
  have checked : request.route.selfCheck request.granted request.user.payload = .ok () ↔
      ∀ id dto, request.route = .updateUser id dto → id = request.user.sub ∨
          request.granted "user.write" = true := by
    cases request.route with
    | updateUser id dto =>
      constructor
      · intro passed _ _ holds
        obtain ⟨rfl, rfl⟩ := holds
        by_contra neither
        obtain ⟨other, denied⟩ := not_or.mp neither
        simp [Route.selfCheck, TenantPrincipal.payload, Ne.symm other, denied] at passed
      · intro allowed
        rcases allowed id dto rfl with own | writes
        · simp [Route.selfCheck, TenantPrincipal.payload, own]
        · simp [Route.selfCheck, TenantPrincipal.payload, writes]
    | _ => simp [Route.selfCheck]
  rw [Request.guards, typed]
  cases first :
      iamPermissionGuard request.granted request.route.requiredPermissions request.user.payload with
  | error error =>
    rw [first] at permitted
    refine iff_of_false (fun admitted => by cases admitted) fun both => ?_
    cases permitted.mpr both.1
  | ok _ =>
    rw [first] at permitted
    exact checked.trans (and_iff_right (permitted.mp rfl)).symm

/-- The guards of a reading route ask for its one permission, unless the user asks about himself. -/
theorem guards_reader {Key : Type} [DecidableEq Key] {keys : KeyScheme Uuid Key} {db : Db}
    {now : Time} {cache : Cache Key} (coherent : Coherent keys db now cache)
    {user : TenantPrincipal Uuid} (ordinary : user.identityType = .USER) (route : ReadRoute Uuid) :
    (route.guards keys now user db cache).1 = .ok () ↔
      ∀ permission, route.requiredPermission = some permission → route.self = some user.sub ∨
        may db now user permission = true := by
  have typed : identityTypeGuard route.identityTypes user.payload = .ok () := by
    refine identity_user ordinary ?_
    cases route <;> simp [ReadRoute.identityTypes]
  have asked : ∀ permission,
    (permitted keys now user db cache permission).1 = may db now user permission :=
    fun permission => check_coherent coherent _
  unfold ReadRoute.guards
  rw [typed]
  cases required : route.requiredPermission with
  | none => simp
  | some permission =>
    by_cases own : route.self = some user.sub
    · simp [own]
    · simp only [own, if_false, asked]
      cases answer : may db now user permission <;> simp [answer]

/-- What the shipped roles permit of what the routes require. -/
theorem permits_administration : ∀ roleDef ∈ rolesData,
    ∀ permission ∈ ["role.write", "role.assign", "acl.*", "user.write", "user.read", "role.read"],
      hasPermission roleDef.permissions permission =
        (roleDef.name == "Super Admin" || roleDef.name == tenantAdminRole) := by
  decide +kernel

theorem permits_tenant : ∀ roleDef ∈ rolesData,
    (∀ permission ∈ ["tenant.read", "tenant.write"],
      hasPermission roleDef.permissions permission = (roleDef.name == "Super Admin")) ∧
      hasPermission roleDef.permissions "audit.read" =
        (roleDef.name == "Super Admin" || roleDef.name == "Auditor") := by
  decide +kernel

variable {roleDef : RoleDefinition}

theorem guards_writer (member : roleDef ∈ rolesData) (ordinary : request.user.identityType = .USER)
    (granted : ∀ permission,
      request.granted permission = hasPermission roleDef.permissions permission) :
    request.guards = .ok () ↔ roleDef.name = "Super Admin" ∨
      (roleDef.name = tenantAdminRole ∧ ∀ id dto, request.route ≠ .updateTenant id dto) ∨
        request.route = .logout ∨ ∃ dto, request.route = .updateUser request.user.sub dto := by
  have listed : ∀ permission ∈ ["role.write", "role.assign", "acl.*", "user.write"],
    request.granted permission =
      (roleDef.name == "Super Admin" || roleDef.name == tenantAdminRole) := by
    intro permission inside
    rw [granted]
    refine permits_administration roleDef member permission ?_
    simp only [List.mem_cons, List.not_mem_nil, or_false] at inside ⊢
    tauto
  have tenants : request.granted "tenant.write" = (roleDef.name == "Super Admin") := by
    rw [granted]
    exact (permits_tenant roleDef member).1 _ (.tail _ (.head _))
  simp only [List.forall_mem_cons] at listed
  obtain ⟨roles, assigns, acls, users, _⟩ := listed
  rw [guards_user ordinary]
  cases request.route with
  | updateUser id dto =>
    simp [Route.requiredPermissions, users, or_assoc, or_comm, or_left_comm]
  | _ => simp [Route.requiredPermissions, roles, assigns, acls, users, tenants]

theorem guards_shippedReader {Key : Type} [DecidableEq Key] {keys : KeyScheme Uuid Key}
    (member : roleDef ∈ rolesData) {db : Db} {now : Time} {cache : Cache Key}
    (coherent : Coherent keys db now cache) {user : TenantPrincipal Uuid}
    (ordinary : user.identityType = .USER)
    (granted : ∀ permission, may db now user permission = hasPermission roleDef.permissions permission)
    (route : ReadRoute Uuid) :
    (route.guards keys now user db cache).1 = .ok () ↔ roleDef.name = "Super Admin" ∨
      roleDef.name = tenantAdminRole ∨
      route.requiredPermission = none ∨ route.self = some user.sub := by
  rw [guards_reader coherent ordinary route]
  cases required : route.requiredPermission with
  | none => simp
  | some permission =>
    have inside : permission ∈ ["role.write", "role.assign", "acl.*", "user.write", "user.read",
        "role.read"] := by
      cases route <;> simp_all [ReadRoute.requiredPermission]
    simp [granted, permits_administration roleDef member permission inside, or_assoc,
      or_comm, or_left_comm]

/-- The record of the tenant and its audit logs. -/
theorem guards_tenant (member : roleDef ∈ rolesData) {user : TenantPrincipal Uuid}
    (ordinary : user.identityType = .USER) {allowed : String → Bool}
    (granted : ∀ permission, allowed permission = hasPermission roleDef.permissions permission)
    (asked : TenantRequest Uuid) :
    iamPermissionGuard allowed [asked.permission] user.payload = .ok () ↔ roleDef.name = "Super Admin" ∨
      (roleDef.name = "Auditor" ∧ ∃ id query, asked = .getAuditLogs id query) := by
  obtain ⟨records, audits⟩ := permits_tenant roleDef member
  simp only [List.forall_mem_cons] at records
  obtain ⟨reads, writes, _⟩ := records
  cases asked with
  | getAuditLogs id query =>
    simp [iamPermissionGuard, TenantRequest.permission, TenantPrincipal.payload, ordinary, granted,
      audits, or_iff_not_imp_left]
  | _ =>
    simp [iamPermissionGuard, TenantRequest.permission, TenantPrincipal.payload, ordinary,
      granted, reads, writes]

end Routes

/-! The results. -/

section Results
variable {seeds : Seeds} {db : Db} {incoming : Incoming} {tenantId userId : Uuid}
  {roleDef : RoleDefinition}

/-- Whatever has happened before, who comes to a service is allowed what the definition of the
role permits, no more and no less, until a request is accepted that is about him or his role. -/
theorem newcomers_as_defined {Id : Type} [Identifier Id] (sound : ShippedSeeds.Sound seeds)
    (inService : InService seeds db) (member : roleDef ∈ seeds.rolesData)
    (hires : Hires db roleDef incoming tenantId userId)
    (answered : (incoming.served db).result.isOk = true) (run : List Incoming) (now : Time)
    (away : ∀ command ∈ accepted (incoming.next db) run,
      ¬command.Concerns (access (incoming.next db)) now tenantId userId)
    (dto : CheckAuthzDto Id) (tenant : value dto.tenantId = tenantId)
    (user : value dto.userId = userId) :
    decision (final Incoming.next (incoming.next db) run) now dto =
      hasPermission roleDef.permissions dto.permission :=
  decision_newcomer sound (deployed_of_inService sound inService) member hires answered run now
    away dto tenant user

/-- What the guards make of a newcomer where the service has its own seeds. The users, roles and
shared objects of a tenant are for its admins, and only those in the role of a super admin come
to its record; its audit logs are for auditors too. What requires nothing is for everybody.
The guards may find anything in the cache that agrees with the database. -/
theorem newcomers_admitted {Key : Type} [DecidableEq Key] (keys : KeyScheme Uuid Key)
    {email : Option String} (inService : InService (shippedSeeds email) db)
    (member : roleDef ∈ rolesData) {user : TenantPrincipal Uuid}
    (hires : Hires db roleDef incoming user.tenantId user.sub)
    (answered : (incoming.served db).result.isOk = true) (run : List Incoming) (now : Time)
    (away : ∀ command ∈ accepted (incoming.next db) run,
      ¬command.Concerns (access (incoming.next db)) now user.tenantId user.sub)
    (ordinary : user.identityType = .USER) :
    let later := final Incoming.next (incoming.next db) run
    (∀ (route : Controllers.Route Uuid) (ids : Nat → Uuid),
      Controllers.Request.guards ⟨user, may later now user, route, ids⟩ = .ok () ↔
        roleDef.name = "Super Admin" ∨
          (roleDef.name = tenantAdminRole ∧ ∀ id dto, route ≠ .updateTenant id dto) ∨
          route = .logout ∨ ∃ dto, route = .updateUser user.sub dto) ∧
      (∀ (cache : Cache Key), Coherent keys later now cache → ∀ route : ReadRoute Uuid,
        (route.guards keys now user later cache).1 = .ok () ↔ roleDef.name = "Super Admin" ∨
          roleDef.name = tenantAdminRole ∨
          route.requiredPermission = none ∨ route.self = some user.sub) ∧
      ∀ asked : TenantRequest Uuid,
        iamPermissionGuard (may later now user) [asked.permission] user.payload = .ok () ↔
        roleDef.name = "Super Admin" ∨
            (roleDef.name = "Auditor" ∧ ∃ id query, asked = .getAuditLogs id query) := by
  intro later
  have sound := sound_shippedSeeds email
  have granted : ∀ permission,
      may later now user permission = hasPermission roleDef.permissions permission := fun permission =>
    decision_newcomer sound (deployed_of_inService sound inService) member hires answered run
      now away _ rfl rfl
  exact ⟨fun route ids => guards_writer member ordinary granted, fun _ coherent =>
    guards_shippedReader member coherent ordinary granted,
    guards_tenant member ordinary granted⟩

end Results

/-! A service is opened, Ada founds Acme there and brings in Bob. -/

section Example

def startup : Seeds :=
  ⟨["user.*", "user.read", "payroll.read"],
    [⟨tenantAdminRole, "", ["user.*"]⟩, ⟨memberRole, "", ["payroll.read"]⟩],
    "root@iam.io"⟩

def opened : Db := (bootstrap id "secret" startup (keysFrom 1) {}).2

def founding : Incoming :=
  ⟨.superAdmin Coherence.plainEnvironment 9
    (.createTenantWithAdmin ⟨"Acme", "acme", none, "ada@acme.io", "secret", "Ada", "Ames"⟩),
    countedFrom 4001, 1⟩

def hiring : Incoming :=
  ⟨.tenant Coherence.plainEnvironment 4001 4002
    (.createUser ⟨"bob@acme.io", "secret", "Bob", "Bell", none, none⟩),
    countedFrom 5001, 2⟩

def since : List Incoming :=
  [⟨.tenant Coherence.plainEnvironment 4001 4002 (.addOverride 4002 ⟨3, .grant, none⟩),
    countedFrom 6001, 3⟩]

def bobs (permission : String) : CheckAuthzDto Uuid := ⟨5001, 4001, permission, none, none⟩

theorem sound_startup : ShippedSeeds.Sound startup := by
  refine sound_of_exact (by decide) (by decide) ?_ ?_
  · decide +kernel
  · decide +kernel

theorem newcomers_as_defined_bob :
    accepted (hiring.next (founding.next opened)) since = [.override (4001, 4002, 3) .grant] ∧
    decision (final Incoming.next (hiring.next (founding.next opened)) since) 7
      (bobs "payroll.read") = true ∧
      decision (final Incoming.next (hiring.next (founding.next opened)) since) 7
        (bobs "user.read") = false := by
  have completed : (bootstrap id "secret" startup (keysFrom 1) {}).1 = .ok () := by rfl
  have inService : InService startup (founding.next opened) := .served (.seeded completed) trivial
  have answered : (hiring.served (founding.next opened)).result.isOk = true := by decide
  have listed : accepted (hiring.next (founding.next opened)) since =
    [.override (4001, 4002, 3) .grant] := by decide
  have away : ∀ command ∈ accepted (hiring.next (founding.next opened)) since,
      ¬command.Concerns (access (hiring.next (founding.next opened))) 7 4001 5001 := by
    rw [listed]
    intro command member
    rw [List.mem_singleton.mp member]
    exact (by decide : ¬((4001 : Uuid) = 4001 ∧ (4002 : Uuid) = 5001))
  have hires : Hires (founding.next opened) ⟨memberRole, "", ["payroll.read"]⟩ hiring 4001 5001 :=
    .member rfl _ _ _ _ rfl _ _
  have answers := fun permission =>
    newcomers_as_defined sound_startup inService (.tail _ (.head _)) hires answered since 7 away
      (bobs permission) rfl rfl
  refine ⟨listed, (answers "payroll.read").trans ?_, (answers "user.read").trans ?_⟩
  · decide +kernel
  · decide +kernel

def shipped : Except HttpException Unit × Db :=
  bootstrap id "secret" (shippedSeeds none) ⟨countedFrom 1, countedFrom 1001, 3001, fun _ => 1⟩ {}

def ada : TenantPrincipal Uuid := ⟨4002, 4001, .USER, user_ordinary⟩

def remembered : Cache CacheKey :=
  Store.empty.put (tupleKeys.perms 4001 4002)
    (.codes (effectiveCodes (founding.next shipped.2) 2 4002 4001))

/-- Ada may add roles to Acme and list its users, but not read its audit logs. -/
theorem newcomers_admitted_ada :
    Controllers.Request.guards ⟨ada, may (founding.next shipped.2) 2 ada, .createRole 3 ⟨"Clerk", none⟩,
      countedFrom 5001⟩ = .ok () ∧
      ((ReadRoute.getUsers none none).guards tupleKeys 2 ada (founding.next shipped.2) remembered).1 =
        .ok () ∧
        iamPermissionGuard (may (founding.next shipped.2) 2 ada)
          ["audit.read"] ada.payload ≠ .ok () := by
  obtain ⟨completed, answered⟩ : shipped.1 = .ok () ∧
    (founding.served shipped.2).result.isOk = true := by decide +kernel
  have inService : InService (shippedSeeds none) shipped.2 := .seeded completed
  obtain ⟨roleDef, member, named⟩ : ∃ roleDef ∈ rolesData, roleDef.name = tenantAdminRole :=
    ⟨_, .tail _ (.head _), rfl⟩
  have hires : Hires shipped.2 roleDef founding ada.tenantId ada.sub := .founder named _ _ _ _ _
  have undisturbed : ∀ command ∈ accepted (founding.next shipped.2) [],
      ¬command.Concerns (access (founding.next shipped.2)) 2 ada.tenantId ada.sub :=
        fun command member => by cases member
  obtain ⟨writes, reads, records⟩ :=
    newcomers_admitted tupleKeys inService member hires answered [] 2 undisturbed rfl
  have start : final Incoming.next (founding.next shipped.2) [] = founding.next shipped.2 := List.foldl_nil
  have agrees : Coherent tupleKeys (founding.next shipped.2) 2 remembered :=
    coherent_filled (Store.coherent_empty _) 4001 4002
  rw [start] at writes reads records
  refine ⟨(writes _ _).mpr
    (.inr (.inl
    ⟨named, by simp⟩)), (reads remembered agrees _).mpr (.inr (.inl named)), fun admitted => ?_⟩
  rcases (records (.getAuditLogs 4001 {})).mp admitted with super | ⟨auditor, _⟩
  · exact absurd (named.symm.trans super) (by decide)
  · exact absurd (named.symm.trans auditor) (by decide)

end Example

end GenericIam.Newcomers
