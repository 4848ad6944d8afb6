import GenericIam.DenyOverride
import GenericIam.Guards
import Mathlib.Data.List.Sort

/-! Who reads and changes the records of a tenant: the guards, the handlers and the
policies of `GET /tenants/:id`, `PATCH /tenants/:id` and `GET /tenants/:id/audit-logs`
taken together. -/

namespace GenericIam.TenantRecords
open Table Database PermissionMatcher Identifiers CacheKeys
open AuthorizationCheck Transaction Handlers AccountServices Guards

variable {Id : Type} [Identifier Id]

section AuditService

structure AuditQueryDto (Id : Type) where
  tenantId : Option Id := none
  actorId : Option Id := none
  eventType : Option String := none
  resourceType : Option String := none
  correlationId : Option String := none
  dateFrom : Option Time := none
  dateTo : Option Time := none
  page : Option Nat := none
  limit : Option Nat := none
  deriving DecidableEq

structure AuditPage where
  data : List AuditLogEntity
  total : Nat
  page : Nat
  limit : Nat
  deriving DecidableEq

def orDefault (given : Option Nat) (fallback : Nat) : Nat :=
  match given with
  | some (number + 1) => number + 1
  | _ => fallback

def AuditQueryDto.admits (query : AuditQueryDto Id) (audit : AuditLogEntity) : Bool :=
  (query.tenantId.all fun tenantId => audit.tenantId == some (value tenantId)) &&
  (query.actorId.all fun actorId => audit.actorId == some (value actorId)) &&
  ((truthy query.eventType).all fun eventType => audit.eventType == eventType) &&
  ((truthy query.resourceType).all fun resourceType => audit.resourceType == some resourceType) &&
  ((truthy query.correlationId).all fun correlationId => audit.correlationId == some correlationId) &&
  (query.dateFrom.all fun dateFrom => decide (dateFrom ≤ audit.createdAt)) &&
  (query.dateTo.all fun dateTo => decide (audit.createdAt ≤ dateTo))

def queryLogs (db : Db) (query : AuditQueryDto Id) : AuditPage :=
  let page := orDefault query.page 1
  let limit := orDefault query.limit 100
  let found := (db.auditLogs.find query.admits).mergeSort fun first second =>
    decide (second.createdAt ≤ first.createdAt)
  ⟨(found.drop ((page - 1) * limit)).take limit, found.length, page, limit⟩

end AuditService

section TenantController

inductive TenantRequest (Id : Type) where
  | findOne (id : Id)
  | update (id : Id) (dto : UpdateTenantDto)
  | getAuditLogs (id : Id) (query : AuditQueryDto Id)

def TenantRequest.id : TenantRequest Id → Id
  | .findOne id | .update id _ | .getAuditLogs id _ => id

def TenantRequest.permission : TenantRequest Id → String
  | .findOne _ => "tenant.read"
  | .update _ _ => "tenant.write"
  | .getAuditLogs _ _ => "audit.read"

inductive TenantResponse where
  | tenant (row : TenantEntity)
  | audit (page : AuditPage)

structure Outcome where
  result : Except HttpException TenantResponse
  db : Db

def Outcome.ofServed (served : Served (effects Id) Db TenantEntity) : Outcome :=
  ⟨served.result.map .tenant, served.db⟩

def TenantRequest.handle [DecidableEq Id] (user : JwtPayload Id) (ids : Nat → Uuid) (db : Db) :
    TenantRequest Id → Outcome
  | .findOne id => .ofServed (serve (engine Id (sessionOf user)) ids (findTenant id) db)
  | .update id dto =>
    .ofServed (serve (engine Id (sessionOf user)) ids (updateTenant id dto user.sub) db)
  | .getAuditLogs id query =>
      if user.identityType ≠ .SUPER_ADMIN ∧ user.tenantId ≠ some id then
        ⟨.error (.forbidden "Cannot access audit logs of another tenant"), db⟩
      else ⟨.ok (.audit (queryLogs db { query with tenantId := some id })), db⟩

/-- A request from the guards on, for a caller with the given effective permissions. -/
def TenantRequest.run [DecidableEq Id] (effectivePermissions : List String) (user : JwtPayload Id)
    (ids : Nat → Uuid) (db : Db) (request : TenantRequest Id) : Outcome :=
  match identityTypeGuard [.SUPER_ADMIN, .USER] user with
  | .error refused => ⟨.error refused, db⟩
  | .ok () =>
    match iamPermissionGuard (hasPermission effectivePermissions) [request.permission] user with
    | .error refused => ⟨.error refused, db⟩
    | .ok () => request.handle user ids db

end TenantController

/-! What the callers may see and change. -/

def TenantResponse.BelongsTo (tenantId : Option Uuid) : TenantResponse → Prop
  | .tenant row => some row.id = tenantId
  | .audit page => ∀ audit ∈ page.data, audit.tenantId = tenantId

/-- The records of other tenants are neither shown nor changed, and a request for one
of them fails. -/
structure Isolated (user : JwtPayload Id) (request : TenantRequest Id) (db : Db)
    (outcome : Outcome) : Prop where
  shown : ∀ response, outcome.result = .ok response → response.BelongsTo (user.tenantId.map value)
  kept : ∀ row ∈ db.tenants, some row.id ≠ user.tenantId.map value → row ∈ outcome.db.tenants
  refused : user.tenantId.map value ≠ some (value request.id) →
    (∃ error, outcome.result = .error error) ∧ outcome.db.tenants = db.tenants

def UpdateRefused (db : Db) (id : Uuid) (dto : UpdateTenantDto) : Prop :=
  dto.nullsColumn = true ∨ ∀ tenant ∈ db.tenants, tenant.id = id →
    db.takenTenant id (changedTenantColumns tenant (mergeTenant tenant dto)) = true

def TenantRequest.Closed (db : Db) : TenantRequest Id → Prop
  | .findOne id => db.hasTenant (value id) = false
  | .update id dto => UpdateRefused db (value id) dto
  | .getAuditLogs _ _ => True

/-- The conditions under which nothing of another tenant is reached: the id in the path
is the caller's own, the route compares the two itself, a guard refuses the caller, or
the database has no such tenant or takes no such change. -/
def Shielded (effectivePermissions : List String) (user : JwtPayload Id) (db : Db)
    (request : TenantRequest Id) : Prop :=
  user.tenantId.map value = some (value request.id) ∨ user.identityType = .IMPERSONATION ∨
    hasPermission effectivePermissions request.permission = false ∨ request.Closed db

/-! The handlers alone. -/

section Handlers
variable {session : Session} {ids : Nat → Uuid} {db : Db}

def unwatched (Id : Type) : Monitor (effects Id) Db := ⟨fun _ _ => True, fun _ _ => True⟩

theorem hasTenant_iff {id : Uuid} : db.hasTenant id = true ↔ ∃ tenant ∈ db.tenants, tenant.id = id := by
  simp [Db.hasTenant, any_iff]

theorem wp_findTenant {id : Id} {tx : Tx (effects Id) Db}
    {post : TenantEntity → Tx (effects Id) Db → Prop}
    {fail : HttpException → Tx (effects Id) Db → Prop}
    (found : ∀ tenant ∈ tx.db.tenants, tenant.id = value id → post tenant tx)
    (absent : tx.db.hasTenant (value id) = false → fail (.notFound "Entity not found") tx) :
    wp (engine Id session) ids (unwatched Id) (findTenant id) post fail tx := by
  unfold findTenant
  rw [wp_bind, wp_visible]
  apply wp_orThrow
  · intro tenant present
    obtain ⟨member, matched⟩ := findOne_some present
    exact found tenant member (by simpa using matched)
  · intro missing
    apply absent
    rw [← Bool.not_eq_true, hasTenant_iff]
    intro present
    obtain ⟨tenant, member, same⟩ := present
    have differs := findOne_none.mp missing tenant member
    simp [same] at differs

/-- The handler refuses, or it answers with the row of the given id and leaves all
others alone. -/
def Settled (refuses : Prop) (id : Id) (db : Db)
    (served : Served (effects Id) Db TenantEntity) : Prop :=
  (¬refuses ∧ ∃ row, row.id = value id ∧ served.result = .ok row ∧
    ∀ tenant ∈ db.tenants, tenant.id ≠ value id → tenant ∈ served.db.tenants) ∨
      refuses ∧ (∃ error, served.result = .error error) ∧ served.db = db

theorem settled_of_wp {refuses : Prop} {id : Id} {handler : Handler Id TenantEntity}
    (holds : wp (engine Id session) ids (unwatched Id) handler
      (fun row after => ¬refuses ∧ row.id = value id ∧
        ∀ tenant ∈ db.tenants, tenant.id ≠ value id → tenant ∈ after.db.tenants)
      (fun _ after => refuses ∧ after.outside = []) { db }) :
    Settled refuses id db (serve (engine Id session) ids handler db) := by
  have ended := serve_post holds
  cases result : (serve (engine Id session) ids handler db).result with
  | ok row =>
    rw [result] at ended
    obtain ⟨⟨accepts, same, others⟩, committed⟩ := ended
    rw [← committed] at others
    exact .inl ⟨accepts, row, same, result, others⟩
  | error error =>
    rw [result] at ended
    obtain ⟨⟨refused, nothing⟩, undone⟩ := ended
    rw [nothing] at undone
    exact .inr ⟨refused, ⟨error, result⟩, undone⟩

theorem settled_findTenant (id : Id) :
    Settled (db.hasTenant (value id) = false) id db
      (serve (engine Id session) ids (findTenant id) db) := by
  apply settled_of_wp
  apply wp_findTenant
  · intro tenant member same
    have present : db.hasTenant (value id) = true := hasTenant_iff.mpr ⟨tenant, member, same⟩
    exact ⟨by simp [present], same, fun _ there _ => there⟩
  · intro missing
    exact ⟨missing, rfl⟩

theorem updateTenant_others {id : Uuid} {change : TenantChange} {after : Db}
    (applied : db.updateTenant id change = some after) {other : TenantEntity}
    (there : other ∈ db.tenants) (differ : other.id ≠ id) : other ∈ after.tenants := by
  rw [updateTenant_some applied, mem_modify]
  exact .inl ⟨there, by simpa using differ⟩

theorem settled_updateTenant (id : Id) (dto : UpdateTenantDto) (actorId : Id) :
    Settled (UpdateRefused db (value id) dto) id db
      (serve (engine Id session) ids (updateTenant id dto actorId) db) := by
  apply settled_of_wp
  unfold updateTenant
  rw [wp_bind]
  apply wp_findTenant
  · intro tenant member same
    rw [wp_bind]
    apply wp_refuseIf
    · intro plain
      have seen : (db.seenBy session).tenants.findOne (fun row =>
          row.id == value id) = some tenant := by
        apply findOne_of_mem member
        · simpa using same
        · intro other hit
          have found : other.id = value id := by simpa using hit
          exact found.trans same.symm
      have target : (mergeTenant tenant dto).id = value id := same
      unfold saveTenant
      simp only [wp_bind, wp_visible, target, seen]
      cases taken : db.takenTenant (value id)
          (changedTenantColumns tenant (mergeTenant tenant dto)) with
      | false =>
        have accepted : ∃ after,
          db.updateTenant (value id) (changedTenantColumns tenant (mergeTenant tenant dto)) =
            some after := by
          simp [Db.updateTenant, taken]
        obtain ⟨after, applied⟩ := accepted
        refine wp_persist_applied trivial applied ⟨?_, target, fun other => updateTenant_others applied⟩
        intro refused
        rcases refused with nulls | all
        · rw [plain] at nulls
          cases nulls
        · have clash := all tenant member same
          rw [taken] at clash
          cases clash
      | true =>
        have present : db.hasTenant (value id) = true := hasTenant_iff.mpr ⟨tenant, member, same⟩
        refine wp_persist trivial ?_ ⟨.inr ?_, rfl⟩
        · intro after applied
          simp [Write.apply, Db.updateTenant, taken, present] at applied
        · intro other there key
          have whole : other = tenant := eq_of_key_eq there member (key.trans same.symm)
          rw [whole]
          exact taken
    · intro nulls
      exact ⟨.inl nulls, rfl⟩
  · intro missing
    refine ⟨.inr ?_, rfl⟩
    intro tenant member same
    have present := hasTenant_iff.mpr ⟨tenant, member, same⟩
    rw [missing] at present
    cases present

end Handlers

/-! All layers together. -/

section Layers
variable {user : JwtPayload Id} {db : Db} {request : TenantRequest Id}

theorem isolated_of_error {error : HttpException} {db' : Db} (same : db' = db) :
    Isolated user request db ⟨.error error, db'⟩ := by
  subst same
  refine ⟨?_, fun _ member _ => member, fun _ => ⟨⟨error, rfl⟩, rfl⟩⟩
  intro response is
  cases is

/-- A settled handler isolates the tenants exactly if it refuses or serves the own one. -/
theorem isolated_settled {refuses : Prop} {served : Served (effects Id) Db TenantEntity}
    (settled : Settled refuses request.id db served) :
    Isolated user request db (.ofServed served) ↔
      user.tenantId.map value = some (value request.id) ∨ refuses := by
  rcases settled with ⟨accepts, row, same, result, others⟩ | ⟨refused, ⟨error, result⟩, unchanged⟩
  · have answer : (Outcome.ofServed served).result = .ok (.tenant row) := by
      rw [Outcome.ofServed, result]
      rfl
    refine ⟨?_, ?_⟩
    · intro isolated
      have own := isolated.shown _ answer
      rw [TenantResponse.BelongsTo, same] at own
      exact .inl own.symm
    · intro condition
      have own := condition.resolve_right accepts
      refine ⟨?_, ?_, fun differ => absurd own differ⟩
      · intro response is
        rw [answer] at is
        cases is
        rw [TenantResponse.BelongsTo, same, own]
      · intro tenant member foreign
        apply others tenant member
        intro key
        rw [own, key] at foreign
        exact foreign rfl
  · have answer : Outcome.ofServed served = ⟨.error error, served.db⟩ := by
      rw [Outcome.ofServed, result]
      rfl
    rw [answer]
    exact ⟨fun _ => .inr refused, fun _ => isolated_of_error unchanged⟩

theorem isolated_auditLogs [DecidableEq Id] (ids : Nat → Uuid) (id : Id) (query : AuditQueryDto Id)
    (tenant : user.identityType ≠ .SUPER_ADMIN) :
    Isolated user (.getAuditLogs id query) db
      ((TenantRequest.getAuditLogs id query).handle user ids db) := by
  simp only [TenantRequest.handle]
  split
  · exact isolated_of_error rfl
  · next passed =>
    have own : user.tenantId = some id := by
      by_contra differ
      exact passed ⟨tenant, differ⟩
    refine ⟨?_, fun _ member _ => member, ?_⟩
    · intro response is
      cases is
      intro audit member
      have found := List.mem_of_mem_take member
      have kept := List.mem_mergeSort.mp (List.mem_of_mem_drop found)
      have admitted := (mem_find.mp kept).2
      simp only [AuditQueryDto.admits, Bool.and_eq_true, Option.all_some, beq_iff_eq,
        and_assoc] at admitted
      rw [own]
      exact admitted.1
    · intro differ
      rw [own] at differ
      exact absurd rfl differ

/-- For a caller that is no super admin, the records of other tenants are isolated
exactly if the request is shielded. -/
theorem isolated_iff [DecidableEq Id] (effectivePermissions : List String) (ids : Nat → Uuid)
    (tenant : user.identityType ≠ .SUPER_ADMIN) :
    Isolated user request db (request.run effectivePermissions user ids db) ↔
      Shielded effectivePermissions user db request := by
  unfold TenantRequest.run identityTypeGuard iamPermissionGuard Shielded
  cases type : user.identityType with
  | SUPER_ADMIN => exact absurd type tenant
  | IMPERSONATION =>
    simp only [List.isEmpty_cons, Bool.false_or]
    exact ⟨fun _ => .inr (.inl trivial), fun _ => isolated_of_error rfl⟩
  | USER =>
    cases granted : hasPermission effectivePermissions request.permission with
    | false =>
      simp only [List.all_cons, granted, Bool.false_and]
      exact ⟨fun _ => .inr (.inr (.inl trivial)), fun _ => isolated_of_error rfl⟩
    | true =>
      have passed : Isolated user request db (request.handle user ids db) ↔
          user.tenantId.map value = some (value request.id) ∨ request.Closed db := by
        cases request with
        | findOne id => exact isolated_settled (settled_findTenant id)
        | update id dto => exact isolated_settled (settled_updateTenant id dto user.sub)
        | getAuditLogs id query =>
          exact ⟨fun _ => .inr trivial, fun _ => isolated_auditLogs ids id query tenant⟩
      simp [granted, passed]

end Layers

/-! A user of one tenant with `tenant.*` and the record of another. -/

def acme : TenantEntity := { id := 1, name := "Acme", slug := "acme" }
def globex : TenantEntity := { id := 2, name := "Globex", slug := "globex" }
def tenantsDb : Db := { tenants := ⟨[acme, globex], by decide⟩ }
def clerk : JwtPayload Uuid := { sub := 5, tenantId := some 1, identityType := .USER }

theorem foreign_tenant_reached :
    ¬Isolated clerk (.findOne 2) tenantsDb
      ((TenantRequest.findOne 2).run ["tenant.*"] clerk (fun _ => 0) tenantsDb) ∧
      ¬Isolated clerk (.update 2 { name := .value "Initech" }) tenantsDb
        ((TenantRequest.update 2 { name := .value "Initech" }).run ["tenant.*"] clerk
          (fun _ => 0) tenantsDb) := by
  refine ⟨?_, ?_⟩
  · intro isolated
    have shown : some (2 : Uuid) = some 1 := isolated.shown (.tenant globex) rfl
    revert shown
    decide
  · intro isolated
    have shown : some (2 : Uuid) = some 1 :=
      isolated.shown (.tenant { globex with name := "Initech" }) rfl
    revert shown
    decide

theorem isolated_own : Isolated clerk (.findOne 1) tenantsDb
    ((TenantRequest.findOne 1).run ["tenant.*"] clerk (fun _ => 0) tenantsDb) :=
  (isolated_iff ["tenant.*"] (fun _ => 0) (by decide)).mpr (.inl rfl)

end GenericIam.TenantRecords
