import GenericIam.Delegation
import GenericIam.ReadRoutes
import GenericIam.Reactivation

/-! What users may do grows only through requests of users who were allowed at the start what
these requests ask for: a tenant in which nobody may assign or write roles, share resources or
create users keeps its permissions, whatever its users and those of other tenants try. -/

namespace GenericIam.Privileges
open Table Database PermissionMatcher EffectivePermissions Identifiers CacheKeys
open AuthorizationCheck Transaction Handlers RbacServices AccountServices
open TenantWrites Operations Footprint ReachableStates TenantEvents TenantRequests
open SuperAdminRequests Guards Controllers ReadRoutes Runs Delegation Reactivation
open Coherence (plainEnvironment Coherent)

/-! Databases that give a tenant no more. -/

section Databases
variable {tenantId : Uuid} {db middle db' : Db}

/-- The second database gives no user of the tenant a permission or an entry that the first
does not give. -/
structure NoMore (tenantId : Uuid) (db db' : Db) : Prop where
  codes : ∀ now userId code, code ∈ effectiveCodes db' now userId tenantId →
    code ∈ effectiveCodes db now userId tenantId
  entries : ∀ dto : CheckAclDto Uuid, aclExists db' tenantId dto = true →
    aclExists db tenantId dto = true

theorem NoMore.refl (tenantId : Uuid) (db : Db) : NoMore tenantId db db :=
  ⟨fun _ _ _ held => held, fun _ listed => listed⟩

theorem NoMore.trans (first : NoMore tenantId db middle) (second : NoMore tenantId middle db') :
    NoMore tenantId db db' :=
  ⟨fun now userId code held => first.codes now userId code (second.codes now userId code held),
    fun dto listed => first.entries dto (second.entries dto listed)⟩

theorem noMore_of_answers (same : SameAnswers Uuid tenantId db' db) : NoMore tenantId db db' where
  codes := by
    intro now userId code held
    rw [← same.codes now userId]
    exact held
  entries := by
    intro dto listed
    rw [← same.acls tenantId dto rfl]
    exact listed

/-- The same permissions and overrides, and no row of the other tables that was not there. -/
structure Fewer (db db' : Db) : Prop where
  permissions : db'.permissions = db.permissions
  overrides : db'.userPermissionOverrides = db.userPermissionOverrides
  userRoles : ∀ row ∈ db'.userRoles, row ∈ db.userRoles
  rolePermissions : ∀ row ∈ db'.rolePermissions, row ∈ db.rolePermissions
  resourceAcls : ∀ row ∈ db'.resourceAcls, row ∈ db.resourceAcls

theorem Fewer.refl (db : Db) : Fewer db db :=
  ⟨rfl, rfl, fun _ row => row, fun _ row => row, fun _ row => row⟩

theorem Fewer.trans (first : Fewer db middle) (second : Fewer middle db') : Fewer db db' where
  permissions := second.permissions.trans first.permissions
  overrides := second.overrides.trans first.overrides
  userRoles row member := first.userRoles row (second.userRoles row member)
  rolePermissions row member := first.rolePermissions row (second.rolePermissions row member)
  resourceAcls row member := first.resourceAcls row (second.resourceAcls row member)

theorem Fewer.noMore (fewer : Fewer db db') (tenantId : Uuid) : NoMore tenantId db db' where
  codes := by
    intro now userId code held
    rw [mem_effectiveCodes] at held ⊢
    obtain ⟨p, member, granted, free, same⟩ := held
    rw [fewer.permissions] at member
    simp only [Overrides, fewer.overrides] at granted free
    refine ⟨p, member, granted.imp ?_ id, free, same⟩
    intro holds
    obtain ⟨ur, assigned, active, rp, mapped, maps⟩ := holds
    exact ⟨ur, fewer.userRoles ur assigned, active, rp, fewer.rolePermissions rp mapped, maps⟩
  entries := by
    intro dto listed
    rw [aclExists_iff] at listed ⊢
    obtain ⟨acl, present, asked⟩ := listed
    exact ⟨acl, fewer.resourceAcls acl present, asked⟩

theorem fewer_of_sameBut {changed : List Relation} (same : SameBut changed db db')
    (permissions : .permissions ∉ changed) (overrides : .userPermissionOverrides ∉ changed)
    (userRoles : .userRoles ∉ changed) (rolePermissions : .rolePermissions ∉ changed)
    (resourceAcls : .resourceAcls ∉ changed) : Fewer db db' where
  permissions := same.permissions permissions
  overrides := same.userPermissionOverrides overrides
  userRoles := by simp [same.userRoles userRoles]
  rolePermissions := by simp [same.rolePermissions rolePermissions]
  resourceAcls := by simp [same.resourceAcls resourceAcls]

def Sparing : Write → Prop
  | .insertPermission _ | .insertRolePermission _ | .insertUserRole _ | .updateUserRole _
  | .insertOverride _ | .updateOverride _
  | .deleteOverride _ | .insertAcl _ => False
  | _ => True

theorem fewer_apply {session : Session} {write : Write} (sparing : Sparing write)
    (applied : write.apply session db = some db') :
    Fewer db db' := by
  have frame := sameBut_apply applied
  cases write with
  | deleteRole row =>
    cases applied
    rcases deleteRole_eq session db row.id with same | changed
    · rw [same]
      exact .refl db
    · rw [changed]
      exact ⟨rfl, rfl, fun _ kept => (mem_select.mp kept).1, fun _ kept =>
        (mem_select.mp kept).1, fun _ row => row⟩
  | deleteRolePermission row =>
    cases applied
    exact ⟨rfl, rfl, fun _ row => row, fun _ kept => (mem_select.mp kept).1, fun _ row => row⟩
  | deleteUserRole row | deleteExpiredUserRoles now =>
    cases applied
    exact ⟨rfl, rfl, fun _ kept => (mem_select.mp kept).1, fun _ row => row, fun _ row => row⟩
  | deleteAcl row =>
    cases applied
    exact ⟨rfl, rfl, fun _ row => row, fun _ row => row, fun _ kept => (mem_select.mp kept).1⟩
  | insertPermission row | insertRolePermission row | insertUserRole row | updateUserRole row
  | insertOverride row | updateOverride row
  | deleteOverride row | insertAcl row => exact sparing.elim
  | _ =>
    apply fewer_of_sameBut frame <;> simp [Write.changes]

theorem fewer_sent {session : Session} {write : Write} (sparing : Sparing write)
    (sent : send session write middle = .ok db') (before : Fewer db middle) : Fewer db db' :=
  before.trans (fewer_apply sparing (send_ok sent))

end Databases

/-! What a request can give. -/

section Routes
variable {Id : Type}

def power : Route Id → Option String
  | .assignPermissions _ _ => some "role.write"
  | .updateUserRoles _ _ | .addOverride _ _ | .removeOverride _ _ => some "role.assign"
  | .createAcl _ => some "acl.*"
  | .createUser _ => some "user.write"
  | _ => none

def operation : Route Id → Option (Operation Id)
  | .createRole now dto => some (.createCustomRole now dto)
  | .updateRole now id dto => some (.updateCustomRole now id dto)
  | .deleteRole id => some (.deleteCustomRole id)
  | .assignPermissions roleId dto => some (.updateRolePermissions roleId dto)
  | .updateUserRoles targetUserId dto => some (.updateUserRoles targetUserId dto)
  | .addOverride targetUserId dto => some (.addOverride targetUserId dto)
  | .removeOverride targetUserId overrideId => some (.removeOverride overrideId targetUserId)
  | .createAcl dto => some (.createAcl dto)
  | .deleteAcl id => some (.deleteAcl id)
  | .createUser dto => some (.createUser dto)
  | .updateUser id dto => some (.updateUser id dto)
  | .updateStatus id isActive => some (.setActivation id isActive)
  | .updateTenant _ _ | .logout => none

variable [Identifier Id] [DecidableEq Id]

theorem handler_eq (env : Environment) (user : TenantPrincipal Id) {route : Route Id}
    {op : Operation Id} (operates : operation route = some op) :
    route.handler env user = op.handler env user.tenantId user.sub := by
  cases route <;> cases operates <;> rfl

omit [Identifier Id] [DecidableEq Id] in
theorem power_required {route : Route Id} {permission : String}
    (powerful : power route = some permission) :
    permission ∈ route.requiredPermissions := by
  cases route <;> cases powerful <;> simp [Route.requiredPermissions]

/-- Requests that send nothing but statements that spare. -/
theorem fewer_sends {request : Request Id} (env : Environment) (db : Db)
    (sends : Sends Sparing (fun _ => False) (request.route.handler env request.user)) :
    Fewer db (request.serve env db).2 := by
  cases admitted : request.guards with
  | error refused =>
    rw [Request.serve_refused admitted]
    exact .refl db
  | ok _ =>
    rw [Request.serve_admitted admitted]
    exact serve_sends sends (Fewer.refl db) (fun sparing before sent =>
      fewer_sent sparing sent before) fun impossible => impossible.elim

/-- A route without power gives nothing to anybody. -/
theorem fewer_serve (env : Environment) (request : Request Id) (db : Db)
    (weak : power request.route = none) :
    Fewer db (request.serve env db).2 := by
  have frame := sameBut_serve env request db
  cases route : request.route with
  | deleteRole id =>
    apply fewer_sends
    rw [route]
    exact sends_deleteCustomRole id _ _ fun _ => trivial
  | deleteAcl id =>
    apply fewer_sends
    rw [route]
    exact sends_deleteAcl id _ _ fun _ => trivial
  | assignPermissions _ _ | updateUserRoles _ _ | addOverride _ _ | removeOverride _ _ | createAcl _
  | createUser _ =>
    rw [route] at weak
    cases weak
  | _ =>
    rw [route] at frame
    apply fewer_of_sameBut frame <;> simp [Route.changes]

end Routes

/-! The tenant stays, its roles are held at home, and others give its users nothing. -/

section Requests
variable {Id : Type} [Identifier Id] {tenantId : Uuid} {ids : Nat → Uuid} {db db' : Db}

def Here (tenantId : Uuid) (db : Db) : Prop := ∃ tenant ∈ db.tenants, tenant.id = tenantId

theorem here_send {session : Session} {write : Write} (here : Here tenantId db)
    (sent : send session write db = .ok db') :
    Here tenantId db' := by
  obtain ⟨tenant, member, same⟩ := here
  obtain ⟨later, present, kept⟩ := tenants_kept (send_ok sent) member
  exact ⟨later, present, kept.trans same⟩

/-- What the runs keep to: the tenant is there, and a custom role is held in its own tenant only. -/
structure Standing (tenantId : Uuid) (db : Db) : Prop where
  here : Here tenantId db
  consistent : Consistent db

theorem standing_request [DecidableEq Id] (env : Environment) (request : Request Id)
    (admissible : ∀ op, operation request.route = some op → op.Admissible)
    (standing : Standing tenantId db) :
    Standing tenantId (request.serve env db).2 := by
  cases admitted : request.guards with
  | error refused =>
    rw [Request.serve_refused admitted]
    exact standing
  | ok _ =>
    have frame := sameBut_serve env request db
    rw [Request.serve_admitted admitted] at frame ⊢
    dsimp only at frame ⊢
    refine ⟨serve_keeps here_send here_send _ standing.here, ?_⟩
    cases operates : operation request.route with
    | some op =>
      rw [handler_eq env request.user operates]
      exact consistent_operation env request.user.tenantId request.user.sub
        (admissible op operates) standing.consistent
    | none =>
      have userRoles : Relation.userRoles ∉ request.route.changes := by
        cases route : request.route <;> simp_all [operation, Route.changes]
      have roles : Relation.roles ∉ request.route.changes := by
        cases route : request.route <;> simp_all [operation, Route.changes]
      have resourceAcls : Relation.resourceAcls ∉ request.route.changes := by
        cases route : request.route <;> simp_all [operation, Route.changes]
      constructor
      · rw [frame.userRoles userRoles]
        intro ur assigned
        rw [UsableRole, frame.roles roles]
        exact standing.consistent.held ur assigned
      · rw [frame.resourceAcls resourceAcls]
        exact standing.consistent.filled

/-- Whatever a principal of another tenant asks for. -/
theorem noMore_foreign [DecidableEq Id] (env : Environment) (request : Request Id)
    (foreign : value request.user.tenantId ≠ tenantId)
    (admissible : ∀ op, operation request.route = some op → op.Admissible)
    (standing : Standing tenantId db) :
    NoMore tenantId db (request.serve env db).2 := by
  cases operates : operation request.route with
  | none =>
    have weak : power request.route = none := by
      cases route : request.route <;> simp_all [operation, power]
    exact (fewer_serve env request db weak).noMore tenantId
  | some op =>
    cases admitted : request.guards with
    | error refused =>
      rw [Request.serve_refused admitted]
      exact .refl tenantId db
    | ok _ =>
      have alone : Abreast tenantId (fun _ => True) db db :=
        ⟨rfl, fun _ _ => rfl, standing.consistent, standing.consistent⟩
      rw [Request.serve_admitted admitted, handler_eq env request.user operates]
      apply noMore_of_answers
      exact (abreast_foreign env request.user.tenantId request.user.sub foreign
          (admissible op operates) alone fun _ =>
        trivial).answers Uuid

/-- What a super admin sends for a new tenant. -/
def Elsewhere (tenantId : Uuid) (write : Write) : Prop :=
  Sparing write ∨ ∃ row, write = .insertUserRole row ∧ row.tenantId ≠ tenantId

def elsewhere (Id : Type) (tenantId : Uuid) : Monitor (effects Id) Db :=
  ⟨fun _ write => Elsewhere tenantId write, fun _ _ => False⟩

theorem noMore_sent {middle : Db} {session : Session} {write : Write}
    (away : Elsewhere tenantId write) (sent : send session write middle = .ok db')
    (before : NoMore tenantId db middle) : NoMore tenantId db db' := by
  apply before.trans
  rcases away with sparing | ⟨row, rfl, foreign⟩
  · exact (fewer_apply sparing (send_ok sent)).noMore tenantId
  · obtain ⟨userRoles, inserted, rfl⟩ := insertUserRole_some (send_ok sent)
    constructor
    · intro now userId code held
      have same : SameRows now tenantId userId middle { middle with userRoles } := by
        refine ⟨rfl, ?_, fun _ _ _ _ _ _ => Iff.rfl, fun _ _ _ => Iff.rfl⟩
        intro ur tenant _ _
        refine mem_insert_away inserted ?_
        intro same
        obtain rfl := same
        exact foreign tenant
      exact (same.codes code).mp held
    · exact fun _ listed => listed

theorem elsewhere_createTenantWithAdmin (hashPassword : String → String) (dto : CreateTenantDto)
    (actorId : Id) (here : Here tenantId db) :
    wp (engine Id .bypassRls) ids (elsewhere Id tenantId)
      (createTenantWithAdmin hashPassword dto actorId) (fun _ _ => True)
      (fun _ _ => True) { db } := by
  unfold createTenantWithAdmin
  simp only [wp_bind, wp_visible]
  refine wp_refuseIf ?_ fun _ => trivial
  intro _
  simp only [wp_bind, wp_newId]
  refine wp_persist (.inl trivial) ?_ trivial
  intro founded applied
  -- the key of the new tenant is not that of one which is there
  have fresh : ids 0 ≠ tenantId := by
    obtain ⟨tenant, member, same⟩ := here
    obtain ⟨tenants, inserted, rfl⟩ := insertTenant_some applied
    intro taken
    exact (insert_some inserted).1 tenant member (same.trans taken.symm)
  simp only [wp_bind, wp_newId]
  refine wp_persist (.inl trivial) ?_ trivial
  intro _ _
  simp only [wp_bind, wp_visible]
  split
  · trivial
  · simp only [wp_bind, wp_newId]
    exact wp_persist (.inr ⟨_, rfl, fresh⟩) (fun _ _ => trivial) trivial

theorem noMore_superAdmin (env : Environment) (actorId : Id) (op : SuperAdminOperation Id)
    (here : Here tenantId db) :
    NoMore tenantId db (serve (engine Id .bypassRls) ids (op.handler env actorId) db).db := by
  have records : ∀ {handler : Handler Id Unit}, Sends Sparing (fun _ => False) handler →
      NoMore tenantId db (serve (engine Id .bypassRls) ids handler db).db := by
    intro handler sends
    have fewer : Fewer db (serve (engine Id .bypassRls) ids handler db).db :=
      serve_sends sends (Fewer.refl db) (fun sparing before sent =>
        fewer_sent sparing sent before) fun impossible => impossible.elim
    exact fewer.noMore tenantId
  cases op with
  | createTenantWithAdmin dto =>
    have holds : wp (engine Id .bypassRls) ids (elsewhere Id tenantId)
      ((SuperAdminOperation.createTenantWithAdmin dto).handler env actorId)
        (fun _ _ => True) (fun _ _ => True) { db } := by
      simp only [SuperAdminOperation.handler, wp_bind]
      exact elsewhere_createTenantWithAdmin env.hashPassword dto actorId here
    apply serve_invariant holds (NoMore.refl tenantId db)
    · intro _ _ _ _ stmt _ before away sent
      exact noMore_sent away sent before
    · intro _ _ _ _ impossible
      exact impossible.elim
  | updateTenant id dto =>
    apply records
    exact sends_bind (sends_updateTenant _ _ _ (fun _ => trivial) fun _ _ => trivial) fun _ => trivial
  | deactivateTenant id =>
    apply records
    refine sends_bind (sends_findTenant _) ?_
    intro tenant
    exact sends_bind (sends_saveTenant _ trivial fun _ => trivial) fun _ => trivial

omit [Identifier Id] in
theorem fewer_purge (now : Time) (db : Db) :
    Fewer db (serve (engine Id .bypassRls) ids (purgeExpiredRoles now) db).db := by
  have sends : Sends Sparing (fun _ => False) (purgeExpiredRoles now : Handler Id Unit) :=
    sends_persist trivial
  exact serve_sends sends (Fewer.refl db) (fun sparing before sent =>
    fewer_sent sparing sent before) fun impossible => impossible.elim

theorem standing_superAdmin (env : Environment) (actorId : Id) (op : SuperAdminOperation Id)
    (standing : Standing tenantId db) :
    Standing tenantId (serve (engine Id .bypassRls) ids (op.handler env actorId) db).db := by
  refine ⟨serve_keeps here_send here_send _ standing.here, ?_⟩
  have recorded : ∀ {handler : Handler Id Unit},
    Sends (fun write => ∀ there, Keeps there write) (fun _ => False) handler →
      Consistent (serve (engine Id .bypassRls) ids handler db).db := by
    intro handler sends
    apply serve_sends sends standing.consistent
    · intro _ _ _ keeps before sent
      exact consistent_apply before (keeps _) (send_ok sent)
    · exact fun impossible => impossible.elim
  cases op with
  | createTenantWithAdmin dto =>
    exact consistent_serve (keeps_founding env dto actorId) standing.consistent
  | updateTenant id dto =>
    apply recorded
    exact sends_bind (sends_updateTenant _ _ _ (fun _ _ => trivial) fun _ _ _ => trivial) fun _ => trivial
  | deactivateTenant id =>
    apply recorded
    refine sends_bind (sends_findTenant _) ?_
    intro tenant
    exact sends_bind (sends_saveTenant _ (fun _ => trivial) fun _ _ => trivial) fun _ => trivial

omit [Identifier Id] in
theorem standing_purge (now : Time) (standing : Standing tenantId db) :
    Standing tenantId (serve (engine Id .bypassRls) ids (purgeExpiredRoles now) db).db :=
  ⟨serve_keeps here_send here_send _ standing.here,
    consistent_serve (keeps_persist trivial) standing.consistent⟩

end Requests

/-! Rights of the users of a tenant: permissions, entries, and what a check allows. A stale
entry of the cache gives a right as well. -/

section Rights
variable {tenantId : Uuid} {since : Time} {db db' : Db} {cache cache' : Cache CacheKey}

def HoldsCode (tenantId : Uuid) (since : Time) (db : Db) (cache : Cache CacheKey) (userId : Uuid)
    (code : String) : Prop :=
  (∃ now, since ≤ now ∧ code ∈ effectiveCodes db now userId tenantId) ∨
    ∃ codes, getPermissions tupleKeys cache tenantId userId = some codes ∧ code ∈ codes

def HoldsEntry (tenantId : Uuid) (db : Db) (cache : Cache CacheKey) (dto : CheckAclDto Uuid) : Prop :=
  aclExists db tenantId dto = true ∨ ∃ cached, cache (tupleKeys.acl tenantId dto) = some cached ∧
    cached.truthy = true

def May (tenantId : Uuid) (since : Time) (db : Db) (cache : Cache CacheKey)
    (dto : CheckAuthzDto Uuid) : Prop :=
  (∃ cached, cache (tupleKeys.authz dto) = some cached ∧ cached.truthy = true) ∨
    (∃ code, HoldsCode tenantId since db cache dto.userId code ∧ covers code dto.permission = true) ∨
      ∃ resource, dto.resource = some resource ∧ HoldsEntry tenantId db cache (aclDto dto resource)

structure Within (tenantId : Uuid) (since : Time) (db : Db) (cache : Cache CacheKey) (db' : Db)
    (cache' : Cache CacheKey) : Prop where
  codes : ∀ userId code, HoldsCode tenantId since db' cache' userId code →
    HoldsCode tenantId since db cache userId code
  entries : ∀ dto, HoldsEntry tenantId db' cache' dto → HoldsEntry tenantId db cache dto
  decisions : ∀ dto, dto.tenantId = tenantId → May tenantId since db' cache' dto →
    May tenantId since db cache dto

theorem Within.refl : Within tenantId since db cache db cache :=
  ⟨fun _ _ held => held, fun _ held => held, fun _ _ allowed => allowed⟩

theorem Within.trans {middle : Db} {held : Cache CacheKey}
    (first : Within tenantId since db cache middle held)
    (second : Within tenantId since middle held db' cache') :
    Within tenantId since db cache db' cache' where
  codes userId code there := first.codes userId code (second.codes userId code there)
  entries dto there := first.entries dto (second.entries dto there)
  decisions dto own allowed := first.decisions dto own (second.decisions dto own allowed)

theorem May.widen {dto : CheckAuthzDto Uuid}
    (codes : ∀ userId code, HoldsCode tenantId since db' cache' userId code →
      HoldsCode tenantId since db cache userId code)
    (entries : ∀ dto, HoldsEntry tenantId db' cache' dto → HoldsEntry tenantId db cache dto)
    (cached : ∀ cached, cache' (tupleKeys.authz dto) = some cached → cached.truthy = true →
      May tenantId since db cache dto)
    (may : May tenantId since db' cache' dto) : May tenantId since db cache dto := by
  rcases may with ⟨decided, stored, allows⟩ | ⟨code, held, covered⟩ | ⟨resource, asked, listed⟩
  · exact cached decided stored allows
  · exact .inr (.inl ⟨code, codes dto.userId code held, covered⟩)
  · exact .inr (.inr ⟨resource, asked, entries _ listed⟩)

theorem within_noMore (less : NoMore tenantId db db') : Within tenantId since db cache db' cache := by
  have codes : ∀ userId code, HoldsCode tenantId since db' cache userId code →
      HoldsCode tenantId since db cache userId code := by
    intro userId code holds
    rcases holds with ⟨now, later, held⟩ | cached
    · exact .inl ⟨now, later, less.codes now userId code held⟩
    · exact .inr cached
  have entries : ∀ dto, HoldsEntry tenantId db' cache dto → HoldsEntry tenantId db cache dto :=
    fun dto held => held.imp_left (less.entries dto)
  exact ⟨codes, entries, fun dto own may => may.widen codes entries fun cached stored allows =>
    .inl ⟨cached, stored, allows⟩⟩

/-- Entries of the tenant that are gone, or as they were. -/
theorem within_forgotten
    (fewer : ∀ key, OfTenant tupleKeys tenantId key → ∀ cached, cache' key = some cached →
      cache key = some cached) :
    Within tenantId since db cache db cache' := by
  have codes : ∀ userId code, HoldsCode tenantId since db cache' userId code →
      HoldsCode tenantId since db cache userId code := by
    intro userId code holds
    rcases holds with held | ⟨codes, read, member⟩
    · exact .inl held
    · obtain ⟨cached, stored, parsed⟩ := Option.bind_eq_some_iff.mp read
      exact .inr ⟨codes,
        Option.bind_eq_some_iff.mpr ⟨cached, fewer _ (.perms userId rfl) cached stored, parsed⟩, member⟩
  have entries : ∀ dto, HoldsEntry tenantId db cache' dto → HoldsEntry tenantId db cache dto := by
    intro dto holds
    rcases holds with listed | ⟨cached, stored, allows⟩
    · exact .inl listed
    · exact .inr ⟨cached, fewer _ (.acl dto rfl) cached stored, allows⟩
  refine ⟨codes, entries, fun dto own may => may.widen codes entries ?_⟩
  intro cached stored allows
  exact .inl ⟨cached, fewer _ (.authz own) cached stored, allows⟩

/-- An entry that gives rights of the first state only. -/
theorem within_put {held : Cache CacheKey} (before : Within tenantId since db cache db' held)
    {key : CacheKey} {cached : CacheValue}
    (perms : ∀ userId codes, key = tupleKeys.perms tenantId userId → cached.permissions = some codes →
      ∀ code ∈ codes, HoldsCode tenantId since db cache userId code)
    (acl : ∀ dto, key = tupleKeys.acl tenantId dto → cached.truthy = true →
      HoldsEntry tenantId db cache dto)
    (authz : ∀ dto, dto.tenantId = tenantId → key = tupleKeys.authz dto → cached.truthy = true →
      May tenantId since db cache dto) :
    Within tenantId since db cache db' (held.put key cached) := by
  have codes : ∀ userId code, HoldsCode tenantId since db' (held.put key cached) userId code →
    HoldsCode tenantId since db cache userId code := by
    intro userId code holds
    rcases holds with computed | ⟨codes, read, member⟩
    · exact before.codes userId code (.inl computed)
    · by_cases same : tupleKeys.perms tenantId userId = key
      · rw [getPermissions, same, Store.put_self, Option.bind_some] at read
        exact perms userId codes same.symm read code member
      · rw [getPermissions, Store.put_other _ _ same] at read
        exact before.codes userId code (.inr ⟨codes, read, member⟩)
  have entries : ∀ dto, HoldsEntry tenantId db' (held.put key cached) dto →
      HoldsEntry tenantId db cache dto := by
    intro dto holds
    rcases holds with listed | ⟨found, stored, allows⟩
    · exact before.entries dto (.inl listed)
    · by_cases same : tupleKeys.acl tenantId dto = key
      · rw [same, Store.put_self] at stored
        cases stored
        exact acl dto same.symm allows
      · rw [Store.put_other _ _ same] at stored
        exact before.entries dto (.inr ⟨found, stored, allows⟩)
  refine ⟨codes, entries, fun dto own may => may.widen codes entries ?_⟩
  intro found stored allows
  by_cases same : tupleKeys.authz dto = key
  · rw [same, Store.put_self] at stored
    cases stored
    exact authz dto own same.symm allows
  · rw [Store.put_other _ _ same] at stored
    exact before.decisions dto own (.inl ⟨found, stored, allows⟩)

theorem within_putPerms {userId : Uuid} {codes : List String}
    (computed : ∀ code ∈ codes, HoldsCode tenantId since db cache userId code) :
    Within tenantId since db cache db (cache.put (tupleKeys.perms tenantId userId) (.codes codes)) := by
  apply within_put .refl
  · intro other read same parsed
    cases same
    cases parsed
    exact computed
  · intro dto same
    cases same
  · intro dto _ same
    cases same

theorem within_putAcl {dto : CheckAclDto Uuid} {allowed : Bool}
    (listed : allowed = true → HoldsEntry tenantId db cache dto) :
    Within tenantId since db cache db (cache.put (tupleKeys.acl tenantId dto) (.decision allowed)) := by
  apply within_put .refl
  · intro userId codes same
    cases same
  · intro other same allows
    have asked : other = dto := by
      simp only [tupleKeys, CacheKey.acl.injEq, true_and] at same
      cases other
      cases dto
      simp_all
    rw [asked]
    exact listed allows
  · intro other _ same
    cases same

theorem within_putAuthz {held : Cache CacheKey} (before : Within tenantId since db cache db held)
    {dto : CheckAuthzDto Uuid} {allowed : Bool}
    (may : allowed = true → May tenantId since db cache dto) :
    Within tenantId since db cache db (held.put (tupleKeys.authz dto) (.decision allowed)) := by
  apply within_put before
  · intro userId codes same
    cases same
  · intro other same
    cases same
  · intro other _ same allows
    have given := may allows
    -- the key has all that the right depends on
    have fields := same
    simp only [tupleKeys, CacheKey.authz.injEq] at fields
    obtain ⟨_, user, permission, type, id⟩ := fields
    have resource : other.resource = dto.resource := by
      rw [CheckAuthzDto.resource, CheckAuthzDto.resource, type, id]
    have asked : ∀ resource, aclDto other resource = aclDto dto resource := by
      intro resource
      rw [aclDto, aclDto, user, permission]
    unfold May at given ⊢
    rw [← same, resource, ← user, ← permission]
    simp only [asked]
    exact given

/-! A check allows what the user may, and adds no right. -/

theorem aclCheck_within (dto : CheckAclDto Uuid) :
    ((aclCheck tupleKeys db cache tenantId dto).1.allowed = true → HoldsEntry tenantId db cache dto) ∧
      Within tenantId since db cache db (aclCheck tupleKeys db cache tenantId dto).2 := by
  cases stored : cache (tupleKeys.acl tenantId dto) with
  | some cached =>
    simp only [aclCheck, stored]
    exact ⟨fun allows => .inr ⟨cached, stored, allows⟩, .refl⟩
  | none =>
    simp only [aclCheck, stored]
    exact ⟨fun listed => .inl listed, within_putAcl fun listed => .inl listed⟩

theorem answer_within {held : Cache CacheKey} (before : Within tenantId since db cache db held)
    {dto : CheckAuthzDto Uuid} {effectiveSet : List String} (own : dto.tenantId = tenantId)
    (effective : ∀ code ∈ effectiveSet, HoldsCode tenantId since db cache dto.userId code) :
    ((answer tupleKeys db dto effectiveSet held).1.allowed = true → May tenantId since db cache dto) ∧
      Within tenantId since db cache db (answer tupleKeys db dto effectiveSet held).2 := by
  subst own
  by_cases granted : hasPermission effectiveSet dto.permission = true
  · obtain ⟨code, member, covered⟩ := (hasPermission_iff_covers _ _).mp granted
    have may : May dto.tenantId since db cache dto := .inr (.inl ⟨code, effective code member, covered⟩)
    simp only [answer, granted, if_true]
    exact ⟨fun _ => may, within_putAuthz before fun _ => may⟩
  · cases asked : dto.resource with
    | none =>
      simp only [answer, granted, asked, if_false, Bool.false_eq_true]
      exact ⟨fun impossible => impossible.elim, within_putAuthz before fun impossible =>
        (Bool.false_ne_true impossible).elim⟩
    | some resource =>
      obtain ⟨listed, looked⟩ := @aclCheck_within dto.tenantId since db held (aclDto dto resource)
      have may : (aclCheck tupleKeys db held dto.tenantId (aclDto dto resource)).1.allowed = true →
        May dto.tenantId since db cache dto :=
        fun allows => .inr (.inr ⟨resource, asked, before.entries _ (listed allows)⟩)
      simp only [answer, granted, asked, if_false, Bool.false_eq_true]
      exact ⟨may, within_putAuthz (before.trans looked) may⟩

theorem check_within {now : Time} {dto : CheckAuthzDto Uuid} (own : dto.tenantId = tenantId)
    (later : since ≤ now) :
    ((check tupleKeys db now cache dto).1.allowed = true → May tenantId since db cache dto) ∧
      Within tenantId since db cache db (check tupleKeys db now cache dto).2 := by
  subst own
  have computed : ∀ code ∈ effectiveCodes db now (value dto.userId) (value dto.tenantId),
    HoldsCode dto.tenantId since db cache dto.userId code :=
    fun code member => .inl ⟨now, later, member⟩
  cases stored : cache (tupleKeys.authz dto) with
  | some cachedDecision =>
    simp only [check, stored]
    exact ⟨fun allows => .inl ⟨cachedDecision, stored, allows⟩, .refl⟩
  | none =>
    cases read : getPermissions tupleKeys cache dto.tenantId dto.userId with
    | some effectiveSet =>
      simp only [check, stored, read]
      exact answer_within .refl rfl fun code member => .inr ⟨effectiveSet, read, member⟩
    | none =>
      simp only [check, stored, read]
      exact answer_within (within_putPerms computed) rfl computed

/-! At the start, when the cache is right, only what the database decides is allowed. -/

theorem active_earlier {now : Time} (passed : since ≤ now) {ur : UserRoleEntity}
    (active : activeAt now ur = true) :
    activeAt since ur = true := by
  unfold activeAt at active ⊢
  cases expiry : ur.expiresAt with
  | none => rfl
  | some expiresAt =>
    simp only [expiry, decide_eq_true_eq] at active ⊢
    exact Nat.lt_of_le_of_lt passed active

theorem codes_earlier {now : Time} (passed : since ≤ now) {userId : Uuid} {code : String}
    (held : code ∈ effectiveCodes db now userId tenantId) :
    code ∈ effectiveCodes db since userId tenantId := by
  rw [mem_effectiveCodes] at held ⊢
  obtain ⟨p, member, granted, free, same⟩ := held
  refine ⟨p, member, granted.imp ?_ id, free, same⟩
  intro holds
  obtain ⟨ur, assigned, ⟨user, tenant, active⟩, mapped⟩ := holds
  exact ⟨ur, assigned, ⟨user, tenant, active_earlier passed active⟩, mapped⟩

theorem decision_of_may (coherent : Coherent tupleKeys db since cache) {dto : CheckAuthzDto Uuid}
    (may : May dto.tenantId since db cache dto) :
    decision db since dto = true := by
  rcases may with ⟨cached, stored, allows⟩ | ⟨code, held, covered⟩ | ⟨resource, asked, held⟩
  · have right := (coherent _ cached stored).authz dto rfl
    rw [right] at allows
    exact allows
  · have effective : code ∈ effectiveCodes db since (value dto.userId) (value dto.tenantId) := by
      rcases held with ⟨now, later, computed⟩ | ⟨codes, read, member⟩
      · exact codes_earlier later computed
      · obtain ⟨cached, stored, parsed⟩ := Option.bind_eq_some_iff.mp read
        obtain ⟨codes', same, right⟩ := (coherent _ cached stored).perms dto.tenantId dto.userId rfl
        rw [same] at parsed
        cases parsed
        exact (right code).mp member
    rw [decision, Bool.or_eq_true]
    exact .inl ((hasPermission_iff_covers _ _).mpr ⟨code, effective, covered⟩)
  · have listed : aclExists db dto.tenantId (aclDto dto resource) = true := by
      rcases held with listed | ⟨cached, stored, allows⟩
      · exact listed
      · have right := (coherent _ cached stored).acl dto.tenantId (aclDto dto resource) rfl
        rw [right] at allows
        exact allows
    rw [decision, Bool.or_eq_true, asked]
    exact .inr listed

end Rights

/-! Runs. -/

section Runs
variable {tenantId : Uuid} {since : Time} {env : Environment}

/-- Requests, whose guards ask the check and its cache, and purges are taken one at a time.
Entries may leave the cache at any time, whether an event, its loss or their age is why. -/
inductive Step where
  | request (ids : Nat → Uuid) (now : Time) (user : TenantPrincipal Uuid) (route : Route Uuid)
  | superAdmin (ids : Nat → Uuid) (actorId : Uuid) (operation : SuperAdminOperation Uuid)
  | purge (ids : Nat → Uuid) (now : Time)
  | check (now : Time) (dto : CheckAuthzDto Uuid)
  | aclCheck (tenantId : Uuid) (dto : CheckAclDto Uuid)
  | forget (gone : CacheKey → Bool)

structure State where
  db : Db
  cache : Cache CacheKey

def asks (user : TenantPrincipal Uuid) : Route Uuid → Option String
  | .updateUser id _ => if user.sub = id then none else some "user.write"
  | route => route.requiredPermissions.head?

def State.request (state : State) (ids : Nat → Uuid) (now : Time) (user : TenantPrincipal Uuid)
    (route : Route Uuid) : Request Uuid where
  user
  granted permission := (permitted tupleKeys now user state.db state.cache permission).1
  route
  ids

def State.asked (state : State) (now : Time) (user : TenantPrincipal Uuid)
    (route : Route Uuid) : Cache CacheKey :=
  match identityTypeGuard route.identityTypes user.payload, asks user route with
  | .ok (), some permission => (permitted tupleKeys now user state.db state.cache permission).2
  | _, _ => state.cache

def Step.next (env : Environment) : Step → State → State
  | .request ids now user route, state =>
      { db := ((state.request ids now user route).serve env state.db).2, cache :=
        state.asked now user route }
  | .superAdmin ids actorId operation, state =>
      { state with db :=
        (serve (engine Uuid .bypassRls) ids (operation.handler env actorId) state.db).db }
  | .purge ids now, state =>
    { state with db := (serve (engine Uuid .bypassRls) ids (purgeExpiredRoles now) state.db).db }
  | .check now dto, state =>
    { state with cache := (AuthorizationCheck.check tupleKeys state.db now state.cache dto).2 }
  | .aclCheck tenantId dto, state =>
    { state with cache := (AuthorizationCheck.aclCheck tupleKeys state.db state.cache tenantId dto).2 }
  | .forget gone, state => { state with cache := state.cache.removeWhere gone }

/-- Checks are made from the start of the run on, and bodies have passed validation; those of
role updates stay with the columns of their type. -/
def Step.Sound (since : Time) : Step → Prop
  | .request _ now _ route => since ≤ now ∧ ∀ op, operation route = some op → op.Admissible
  | .check now _ => since ≤ now
  | _ => True

/-- A user of the tenant sends a request that may give more to somebody, and what it asks for. -/
def Step.Wields (tenantId : Uuid) : Step → CheckAuthzDto Uuid → Prop
  | .request _ _ user route, dto =>
      user.tenantId = tenantId ∧ ∃ permission, power route = some permission ∧
        dto = ⟨user.sub, user.tenantId, permission, none, none⟩
  | _, _ => False

inductive Right where
  | code (userId : Uuid) (code : String)
  | entry (dto : CheckAclDto Uuid)
  | decision (dto : CheckAuthzDto Uuid)

def State.Has (tenantId : Uuid) (since : Time) (state : State) : Right → Prop
  | .code userId code => HoldsCode tenantId since state.db state.cache userId code
  | .entry dto => HoldsEntry tenantId state.db state.cache dto
  | .decision dto => dto.tenantId = tenantId ∧ May tenantId since state.db state.cache dto

theorem has_within {state state' : State}
    (within : Within tenantId since state.db state.cache state'.db state'.cache) {right : Right}
    (has : state'.Has tenantId since right) : state.Has tenantId since right := by
  cases right with
  | code userId code => exact within.codes userId code has
  | entry dto => exact within.entries dto has
  | decision dto => exact ⟨has.1, within.decisions dto has.1 has.2⟩

theorem check_elsewhere {db : Db} {cache : Cache CacheKey} {now : Time} {dto : CheckAuthzDto Uuid}
    (foreign : dto.tenantId ≠ tenantId) :
    Within tenantId since db cache db (check tupleKeys db now cache dto).2 := by
  apply within_forgotten
  intro key entry cached stored
  rw [check_foreign foreign entry] at stored
  exact stored

theorem within_asked {state : State} {now : Time} (later : since ≤ now)
    (user : TenantPrincipal Uuid) (route : Route Uuid) :
    Within tenantId since state.db state.cache state.db (state.asked now user route) := by
  unfold State.asked
  split
  · by_cases own : user.tenantId = tenantId
    · exact (check_within own later).2
    · exact check_elsewhere own
  · exact .refl

/-- A request of the tenant that gives more has been granted what it asks for. -/
theorem own_request {state : State} {ids : Nat → Uuid} {now : Time} {user : TenantPrincipal Uuid}
    {route : Route Uuid} (own : user.tenantId = tenantId) (later : since ≤ now) :
    NoMore tenantId state.db ((state.request ids now user route).serve env state.db).2 ∨
      ∃ permission, power route = some permission ∧
        May tenantId since state.db state.cache ⟨user.sub, user.tenantId, permission, none, none⟩ := by
  cases powerful : power route with
  | none =>
    exact .inl ((fewer_serve env (state.request ids now user route) state.db powerful).noMore tenantId)
  | some permission =>
    cases admitted : (state.request ids now user route).guards with
    | error refused =>
      rw [Request.serve_refused admitted]
      exact .inl (.refl tenantId state.db)
    | ok _ =>
      have granted := Request.granted_of_guards admitted (power_required powerful)
      exact .inr ⟨permission, rfl, (check_within own later).1 granted⟩

theorem delegates (env : Environment) (tenantId : Uuid) (since : Time) :
    Delegates (Step.next env) (Step.Sound since) (fun state => Standing tenantId state.db)
      (State.Has tenantId since)
      (fun step right => ∃ dto, step.Wields tenantId dto ∧ right = .decision dto) where
  kept := by
    intro step state sound standing
    cases step with
    | request ids now user route => exact standing_request env _ sound.2 standing
    | superAdmin ids actorId operation => exact standing_superAdmin env actorId operation standing
    | purge ids now => exact @standing_purge Uuid tenantId ids state.db now standing
    | check now dto => exact standing
    | aclCheck owner dto => exact standing
    | forget gone => exact standing
  grown := by
    intro step state right sound standing has
    cases step with
    | request ids now user route =>
      have asked : Within tenantId since state.db state.cache state.db (state.asked now user route) :=
        within_asked sound.1 user route
      by_cases own : user.tenantId = tenantId
      · rcases @own_request tenantId since env state ids now user route own
          sound.1 with less | ⟨permission, powerful, may⟩
        · refine .inl (has_within ?_ has)
          exact asked.trans (within_noMore less)
        · exact .inr ⟨_, ⟨_, ⟨own, permission, powerful, rfl⟩, rfl⟩, own, may⟩
      · refine .inl (has_within ?_ has)
        exact asked.trans
          (within_noMore (noMore_foreign env (state.request ids now user route) own sound.2 standing))
    | superAdmin ids actorId operation =>
      refine .inl (has_within ?_ has)
      exact within_noMore (noMore_superAdmin env actorId operation standing.here)
    | purge ids now =>
      refine .inl (has_within ?_ has)
      exact within_noMore ((@fewer_purge Uuid ids now state.db).noMore tenantId)
    | check now dto =>
      refine .inl (has_within ?_ has)
      by_cases own : dto.tenantId = tenantId
      · exact (check_within own sound).2
      · exact check_elsewhere own
    | aclCheck owner dto =>
      refine .inl (has_within ?_ has)
      by_cases own : owner = tenantId
      · subst own
        exact (aclCheck_within dto).2
      · apply within_forgotten
        intro key entry cached stored
        have kept : (AuthorizationCheck.aclCheck tupleKeys state.db state.cache owner dto).2 key =
          state.cache key :=
          aclCheck_foreign own entry
        exact kept.symm.trans stored
    | forget gone =>
      refine .inl (has_within ?_ has)
      apply within_forgotten
      intro key _ cached stored
      exact (Store.removeWhere_some.mp stored).2

/-- What a check allows after a run and did not allow at the start, somebody has given who was
allowed to from the start: a request of the run asks for a permission that its sender held. -/
theorem gained_from_held (env : Environment) {db : Db} (reached : Reachable db)
    (here : Here tenantId db) {cache : Cache CacheKey}
    (coherent : Coherent tupleKeys db since cache) {steps : List Step}
    (sound : ∀ step ∈ steps, step.Sound since) {now : Time} (later : since ≤ now)
    {dto : CheckAuthzDto Uuid} (own : dto.tenantId = tenantId)
    (denied : decision db since dto = false) :
    let last := final (Step.next env) ⟨db, cache⟩ steps
    (check tupleKeys last.db now last.cache dto).1.allowed = true →
      ∃ step ∈ steps, ∃ held, step.Wields tenantId held ∧ decision db since held = true := by
  intro last allowed
  have may : last.Has tenantId since (.decision dto) := ⟨own, (check_within own later).1 allowed⟩
  rcases (delegates env tenantId since).run
      (⟨here, reached.consistent⟩ : Standing tenantId db) sound may with
    before | ⟨step, member, right, ⟨held, wields, rfl⟩, before⟩
  · obtain ⟨rfl, before⟩ := before
    rw [decision_of_may coherent before] at denied
    cases denied
  · obtain ⟨rfl, before⟩ := before
    exact ⟨step, member, held, wields, decision_of_may coherent before⟩

end Runs

/-! Cy, whom Ada creates as a second admin, may manage users, and so might Ada. -/

section Example

def promotion : List Step := [.request (countedFrom 41) 0 ⟨22, 21, .USER, user_ordinary⟩
  (.createUser ⟨"cy@acme.io", "hidden", "Cy", "Cole", none, some 11⟩)]

theorem gained_from_held_promotion :
    ∃ step ∈ promotion, ∃ held, step.Wields 21 held ∧ decision office 0 held = true := by
  have sound : ∀ step ∈ promotion, step.Sound 0 := by
    intro step member
    rw [List.mem_singleton.mp member]
    refine ⟨Nat.le_refl 0, ?_⟩
    intro op operates
    cases operates
    trivial
  have here : Here 21 office := by
    change ∃ tenant ∈ office.tenants.rows, tenant.id = 21
    decide
  have denied : decision office 0 (⟨41, 21, "user.write", none, none⟩ : CheckAuthzDto Uuid) =
    false := by decide
  exact gained_from_held plainEnvironment office_reachable here (Store.coherent_empty _) sound
    (Nat.le_refl 0) rfl denied (by decide)

end Example
end GenericIam.Privileges
