import GenericIam.ReachableStates

/-! A cache that agrees with the database keeps agreeing when a request changes the
database and its events are handled. -/

namespace GenericIam.Coherence
open Table Database PermissionMatcher EffectivePermissions Identifiers
open CacheKeys AuthorizationCheck Events Transaction Handlers RbacServices
open AccountServices TenantWrites Operations Footprint ReachableStates

section Entries
variable {Id Key : Type} [Identifier Id]

/-- The entry is the answer that the database gives: the same permission codes, the
same decision, the same existence of an ACL row. -/
structure EntryCoherent (keys : KeyScheme Id Key) (db : Db) (now : Time) (key : Key)
    (cached : CacheValue) : Prop where
  perms : ∀ tenantId userId, key = keys.perms tenantId userId → ∃ codes, cached = .codes codes ∧
    ∀ code, code ∈ codes ↔ code ∈ effectiveCodes db now (value userId) (value tenantId)
  authz : ∀ dto, key = keys.authz dto → cached = .decision (decision db now dto)
  acl : ∀ tenantId dto, key = keys.acl tenantId dto → cached = .decision (aclExists db tenantId dto)

def Coherent (keys : KeyScheme Id Key) (db : Db) (now : Time) (cache : Cache Key) : Prop :=
  Store.Coherent (EntryCoherent keys db now) cache

theorem decision_congr {db db' : Db} {now : Time} {dto : CheckAuthzDto Id}
    (codes : ∀ code, code ∈ effectiveCodes db' now (value dto.userId) (value dto.tenantId) ↔
      code ∈ effectiveCodes db now (value dto.userId) (value dto.tenantId))
    (acls : ∀ resource, dto.resource = some resource →
      aclExists db' dto.tenantId (aclDto dto resource) =
        aclExists db dto.tenantId (aclDto dto resource)) :
    decision db' now dto = decision db now dto := by
  unfold decision
  rw [hasPermission_congr codes]
  cases asked : dto.resource with
  | none => rfl
  | some resource => simp only [acls resource asked]

/-- An entry stays right while everything that it stands for is left alone. -/
theorem EntryCoherent.keep {keys : KeyScheme Id Key} {db db' : Db} {now : Time} {key : Key}
    {cached : CacheValue} (right : EntryCoherent keys db now key cached)
    (perms : ∀ tenantId userId, key = keys.perms tenantId userId →
      ∀ code, code ∈ effectiveCodes db' now (value userId) (value tenantId) ↔
        code ∈ effectiveCodes db now (value userId) (value tenantId))
    (authz : ∀ dto, key = keys.authz dto → decision db' now dto = decision db now dto)
    (acl : ∀ tenantId dto, key = keys.acl tenantId dto →
      aclExists db' tenantId dto = aclExists db tenantId dto) :
    EntryCoherent keys db' now key cached where
  perms tenantId userId is := by
    obtain ⟨codes, stored, same⟩ := right.perms tenantId userId is
    exact ⟨codes, stored, fun code => (same code).trans (perms tenantId userId is code).symm⟩
  authz dto is := by rw [authz dto is, right.authz dto is]
  acl tenantId dto is := by rw [acl tenantId dto is, right.acl tenantId dto is]

end Entries

/-! What a check answers from a cache that agrees with the database. -/

section Check
variable {Id Key : Type} [Identifier Id] [DecidableEq Key] {keys : KeyScheme Id Key} {db : Db}
  {now : Time} {cache : Cache Key}

theorem aclCheck_coherent (coherent : Coherent keys db now cache) (tenantId : Id)
    (dto : CheckAclDto Id) :
    (aclCheck keys db cache tenantId dto).1.allowed = aclExists db tenantId dto := by
  cases cached : cache (keys.acl tenantId dto) with
  | none => simp [aclCheck, cached]
  | some entry =>
    simp [aclCheck, cached, (coherent _ entry cached).acl tenantId dto rfl, CacheValue.truthy]

theorem coherent_filled (coherent : Coherent keys db now cache) (tenantId userId : Id) :
    Coherent keys db now
      (cache.put (keys.perms tenantId userId)
      (.codes (effectiveCodes db now (value userId) (value tenantId)))) := by
  refine Store.Coherent.put coherent ⟨?_, fun dto same => absurd same keys.perms_ne_authz,
    fun t dto same => absurd same keys.perms_ne_acl⟩
  intro t u same
  obtain ⟨rfl, rfl⟩ := keys.perms_inj same
  exact ⟨_, rfl, fun code => Iff.rfl⟩

theorem answer_coherent (coherent : Coherent keys db now cache) {dto : CheckAuthzDto Id}
    {codes : List String}
    (same : ∀ code, code ∈ codes ↔
      code ∈ effectiveCodes db now (value dto.userId) (value dto.tenantId)) :
    (answer keys db dto codes cache).1.allowed = decision db now dto := by
  unfold answer decision
  rw [hasPermission_congr same]
  by_cases granted :
    hasPermission (effectiveCodes db now (value dto.userId) (value dto.tenantId)) dto.permission = true
  · simp [granted]
  · cases asked : dto.resource with
    | none => simp [granted]
    | some resource => simp [granted, aclCheck_coherent coherent]

/-- On entries that are right, the answer is that of the database. -/
theorem check_coherent (coherent : Coherent keys db now cache) (dto : CheckAuthzDto Id) :
    (check keys db now cache dto).1.allowed = decision db now dto := by
  unfold check
  cases decided : cache (keys.authz dto) with
  | some entry =>
    rw [(coherent _ entry decided).authz dto rfl]
    rfl
  | none =>
    cases held : cache (keys.perms dto.tenantId dto.userId) with
    | none =>
      simp only [getPermissions, held, Option.bind_none]
      exact answer_coherent (coherent_filled coherent dto.tenantId dto.userId) fun code => Iff.rfl
    | some entry =>
      obtain ⟨codes, rfl, same⟩ := (coherent _ entry held).perms _ _ rfl
      simp only [getPermissions, held, Option.bind_some, CacheValue.permissions]
      exact answer_coherent coherent same

end Check

/-! An announced statement changes no answer whose entry its event does not reach. -/

section Announced
variable {Id Key : Type} [Identifier Id] [DecidableEq Key] {keys : KeyScheme Id Key}
  {events : List (Event Id)}
  {owner : Uuid} {scope : Scope} {write : Write} {tenantId userId : Id} {key : Key}

def Missed (keys : KeyScheme Id Key) (events : List (Event Id)) (key : Key) : Prop :=
  ∀ event ∈ events, ∀ deletion ∈ handle event, deletion.reaches keys key = false

omit [Identifier Id] in
theorem missed_iff :
    Missed keys events key ↔
      ((events.flatMap handle).any fun deletion => deletion.reaches keys key) = false := by
  simp only [Missed, List.any_eq_false, List.mem_flatMap, Bool.not_eq_true]
  refine ⟨?_, ?_⟩
  · intro missed deletion member
    obtain ⟨event, emitted, handled⟩ := member
    exact missed event emitted deletion handled
  · intro missed event emitted deletion handled
    exact missed deletion ⟨event, emitted, handled⟩

structure Spelled (events : List (Event Id)) (tenantId userId : Id) : Prop where
  tenant : ∀ event ∈ events, ∀ t, handle event = invalidateTenantPermissionCache t →
    value t = value tenantId → t = tenantId
  user : ∀ event ∈ events, ∀ t u, handle event = invalidateUserPermissionCache t u →
    value t = value tenantId → value u = value userId →
    t = tenantId ∧ u = userId
  acl : ∀ event ∈ events, ∀ t u resourceType resourceId permission,
    handle event = invalidateAclCache t u resourceType resourceId permission ++
      invalidateAuthzDecision t u permission resourceType resourceId →
      value t = value tenantId → value u = value userId → t = tenantId ∧ u = userId

/-- Where identifiers have one spelling only. -/
theorem spelled_uuid (events : List (Event Uuid)) (tenantId userId : Uuid) :
    Spelled events tenantId userId :=
  ⟨fun _ _ _ _ same => same, fun _ _ _ _ _ same same' => ⟨same, same'⟩,
    fun _ _ _ _ _ _ _ _ same same' => ⟨same, same'⟩⟩

def Holds (keys : KeyScheme Id Key) (tenantId userId : Id) (key : Key) : Prop :=
  key = keys.perms tenantId userId ∨ ∃ dto, key = keys.authz dto ∧ dto.tenantId = tenantId ∧
    dto.userId = userId

theorem user_uncovered (spelled : Spelled events tenantId userId) (missed : Missed keys events key)
    (holds : Holds keys tenantId userId key) :
    ¬∃ event ∈ events, CoversUser (value tenantId) (value userId) event := by
  intro covered
  obtain ⟨event, emitted, t, u, sameTenant, sameUser, handled⟩ := covered
  obtain ⟨rfl, rfl⟩ := spelled.user event emitted t u handled sameTenant sameUser
  have deletions := missed event emitted
  rw [handled] at deletions
  rcases holds with same | ⟨dto, same, tenant, user⟩
  · have reached := deletions (.perms t u) (by simp [invalidateUserPermissionCache])
    rw [same] at reached
    simp [Invalidation.reaches] at reached
  · have reached := deletions (.authzOfUser t u) (by simp [invalidateUserPermissionCache])
    rw [same] at reached
    have matched := keys.authzOfUser_authz.mpr ⟨tenant, user⟩
    rw [Invalidation.reaches, ← Bool.not_eq_true] at reached
    exact reached matched

theorem tenant_uncovered (spelled : Spelled events tenantId userId)
    (missed : Missed keys events key) (holds : Holds keys tenantId userId key) :
    ¬∃ event ∈ events, CoversTenant (value tenantId) event := by
  intro covered
  obtain ⟨event, emitted, t, sameTenant, handled⟩ := covered
  obtain rfl := spelled.tenant event emitted t handled sameTenant
  have deletions := missed event emitted
  rw [handled] at deletions
  rcases holds with same | ⟨dto, same, tenant, _⟩
  · have reached := deletions (.permsOfTenant t) (by simp [invalidateTenantPermissionCache])
    rw [same] at reached
    have matched : keys.permsOfTenant t (keys.perms t userId) = true := keys.permsOfTenant_perms.mpr rfl
    rw [Invalidation.reaches, matched] at reached
    cases reached
  · have reached := deletions (.authzOfTenant t) (by simp [invalidateTenantPermissionCache])
    rw [same] at reached
    have matched : keys.authzOfTenant t (keys.authz dto) = true := keys.authzOfTenant_authz.mpr tenant
    rw [Invalidation.reaches, matched] at reached
    cases reached

/-- A statement that affects a user is announced to all entries of that user. -/
theorem unaffected_of_missed (announced : Announced owner events write)
    (spelled : Spelled events tenantId userId) (missed : Missed keys events key)
    (holds : Holds keys tenantId userId key) :
    ¬Affects owner (value tenantId) (value userId) write := by
  intro affects
  cases write with
  | insertUserRole row | updateUserRole row | deleteUserRole row | insertOverride row
  | updateOverride row
  | deleteOverride row =>
    obtain ⟨tenant, user⟩ := affects
    simp only [Announced, tenant, user] at announced
    exact user_uncovered spelled missed holds announced
  | insertRolePermission row | deleteRolePermission row =>
    simp only [Affects] at affects
    subst affects
    exact tenant_uncovered spelled missed holds announced
  | _ => exact affects

def Lists (keys : KeyScheme Id Key) (tenantId : Id) (dto : CheckAclDto Id) (key : Key) : Prop :=
  key = keys.acl tenantId dto ∨
    key = keys.authz ⟨dto.userId, tenantId, dto.permission, some dto.resourceType, some dto.resourceId⟩

variable {dto : CheckAclDto Id}

theorem acl_uncovered {row : ResourceAclEntity} (spelled : Spelled events tenantId dto.userId)
    (missed : Missed keys events key) (answers : Answers tenantId dto row)
    (filled : row.resourceType ≠ "" ∧ row.resourceId ≠ "" ∧ row.permission ≠ "")
    (lists : Lists keys tenantId dto key) : ¬∃ event ∈ events, CoversAcl row event := by
  intro covered
  obtain ⟨event, emitted, covers⟩ := covered
  obtain ⟨t, u, tenant, user, handled⟩ := covers filled.1 filled.2.1 filled.2.2
  obtain ⟨ofTenant, ofUser, type, id, permission⟩ := answers
  have deletions := missed event emitted
  obtain ⟨sameTenant, sameUser⟩ :=
    spelled.acl event emitted t u _ _ _ handled (tenant.trans ofTenant) (user.trans ofUser)
  rw [handled, type, id, permission, sameTenant, sameUser] at deletions
  rcases lists with same | same
  · have reached := deletions (.acl tenantId dto) (by simp [invalidateAclCache])
    rw [same] at reached
    simp [Invalidation.reaches] at reached
  · have reached := deletions
      (.authzDecision tenantId dto.userId dto.permission dto.resourceType dto.resourceId)
        (by simp [invalidateAuthzDecision])
    rw [type] at filled
    rw [id] at filled
    rw [same] at reached
    simp [Invalidation.reaches, keys.authzDecision_eq filled.1 filled.2.1] at reached

theorem acl_unaffected_of_missed {db : Db} (consistent : Consistent db)
    (allowed : TenantWrite owner scope db write) (announced : Announced owner events write)
    (spelled : Spelled events tenantId dto.userId) (missed : Missed keys events key)
    (lists : Lists keys tenantId dto key) : ¬AffectsAcl tenantId dto write := by
  intro affects
  cases write with
  | insertAcl row => exact acl_uncovered spelled missed affects allowed.2.2 lists announced
  | deleteAcl row =>
    exact acl_uncovered spelled missed affects (consistent.filled row allowed.2) lists announced
  | _ => exact affects

omit [Identifier Id] [DecidableEq Key] in
/-- A request with a resource has the fields of that resource. -/
theorem lists_of_resource {dto : CheckAuthzDto Id} {resource : String × String}
    (asked : dto.resource = some resource) :
    Lists keys dto.tenantId (aclDto dto resource) (keys.authz dto) := by
  obtain ⟨user, tenant, permission, resourceType, resourceId⟩ := dto
  have text : ∀ {field : Option String} {given : String}, truthy field = some given →
      field = some given := by
    intro field given present
    exact (Option.filter_eq_some_iff.mp present).1
  simp only [CheckAuthzDto.resource] at asked
  split at asked
  · next type id =>
    cases asked
    refine .inr ?_
    rw [text type, text id]
    rfl
  · cases asked

/-- What the entries of a user stand for, as far as no event reaches them, is the same in
both databases. -/
structure Unmoved (keys : KeyScheme Id Key) (events : List (Event Id)) (now : Time)
    (tenantId userId : Id) (db db' : Db) : Prop where
  codes : Missed keys events (keys.perms tenantId userId) →
    ∀ code, code ∈ effectiveCodes db' now (value userId) (value tenantId) ↔
    code ∈ effectiveCodes db now (value userId) (value tenantId)
  decisions : ∀ dto, dto.tenantId = tenantId → dto.userId = userId →
    Missed keys events (keys.authz dto) →
    decision db' now dto = decision db now dto
  lists : ∀ dto, dto.userId = userId → Missed keys events (keys.acl tenantId dto) →
    aclExists db' tenantId dto = aclExists db tenantId dto

theorem Unmoved.refl (keys : KeyScheme Id Key) (events : List (Event Id)) (now : Time)
    (tenantId userId : Id) (db : Db) :
    Unmoved keys events now tenantId userId db db :=
  ⟨fun _ _ => Iff.rfl, fun _ _ _ _ => rfl, fun _ _ _ => rfl⟩

theorem Unmoved.trans {now : Time} {db mid db' : Db}
    (first : Unmoved keys events now tenantId userId db mid)
    (second : Unmoved keys events now tenantId userId mid db') :
    Unmoved keys events now tenantId userId db db' where
  codes missed code := (second.codes missed code).trans (first.codes missed code)
  decisions dto tenant user missed :=
    (second.decisions dto tenant user missed).trans (first.decisions dto tenant user missed)
  lists dto user missed := (second.lists dto user missed).trans (first.lists dto user missed)

/-- One announced statement. -/
theorem unmoved_of_tenantWrite {session : Session} {db db' : Db} {now : Time}
    (consistent : Consistent db) (allowed : TenantWrite owner scope db write)
    (applied : write.apply session db = some db') (announced : Announced owner events write)
    (spelled : Spelled events tenantId userId) : Unmoved keys events now tenantId userId db db' := by
  have rows : ∀ {key}, Missed keys events key → Holds keys tenantId userId key →
    SameRows now (value tenantId) (value userId) db db' :=
    fun missed holds =>
      sameRows_of_tenantWrite consistent allowed applied
      (unaffected_of_missed announced spelled missed holds)
  have acls : ∀ {key} {dto : CheckAclDto Id}, dto.userId = userId → Missed keys events key →
    Lists keys tenantId dto key →
      aclExists db' tenantId dto = aclExists db tenantId dto := by
    intro key dto user missed lists
    subst user
    exact aclExists_of_tenantWrite allowed applied
      (acl_unaffected_of_missed consistent allowed announced spelled missed lists)
  constructor
  · intro missed
    exact (rows missed (.inl rfl)).codes
  · intro dto tenant user missed
    subst tenant
    subst user
    apply decision_congr (rows missed (.inr ⟨dto, rfl, rfl, rfl⟩)).codes
    intro resource asked
    exact acls rfl missed (lists_of_resource asked)
  · intro dto user missed
    exact acls user missed (.inl rfl)

end Announced

theorem unmoved_of_revocation {Id Key : Type} [Identifier Id] [DecidableEq Key]
    (keys : KeyScheme Id Key) (events : List (Event Id)) (now : Time) (tenantId userId : Id)
    (db : Db) (revoked : Uuid) :
    Unmoved keys events now tenantId userId db (db.deleteRefreshTokensOf revoked) :=
  ⟨fun _ => (SameRows.of_tables rfl rfl rfl rfl).codes, fun _ _ _ _ => rfl, fun _ _ _ => rfl⟩

/-! Requests and the purge. -/

/-- Whatever changes the permissions of a tenant: a request of one of its principals, or
the hourly purge. -/
inductive Mutation where
  | request (env : Environment) (tenantId actorId : Uuid) (operation : Operation Uuid)
  | purge

def Mutation.Admissible : Mutation → Prop
  | .request _ _ _ operation => operation.Admissible
  | .purge => True

def Mutation.serve (ids : Nat → Uuid) (now : Time) (db : Db) : Mutation → Served (effects Uuid) Db Unit
  | .request env tenantId actorId operation =>
      Transaction.serve (engine Uuid (.tenantUser tenantId)) ids
        (operation.handler env tenantId actorId) db
  | .purge => Transaction.serve (engine Uuid .bypassRls) ids (purgeExpiredRoles now) db

/-- What a request has kept on its way from one database to another: consistent tables,
and whatever the entries stand for that its events will miss. -/
structure Kept {Id Key : Type} [Identifier Id] [DecidableEq Key] (keys : KeyScheme Id Key)
    (events : List (Event Id)) (now : Time) (db db' : Db) :
    Prop where
  consistent : Consistent db'
  unmoved : ∀ tenantId userId, Spelled events tenantId userId →
    Unmoved keys events now tenantId userId db db'

theorem kept_request {Id Key : Type} [Identifier Id] [DecidableEq Id] [DecidableEq Key]
    (keys : KeyScheme Id Key) {db : Db} (consistent : Consistent db) (env : Environment)
    (ids : Nat → Uuid) (now : Time) (tenantId actorId : Id) {operation : Operation Id}
    (admissible : operation.Admissible) :
    let served :=
      serve (engine Id (.tenantUser (value tenantId))) ids (operation.handler env tenantId actorId) db
    Kept keys served.tx.events now db served.db := by
  intro served
  have holds : Ensures tenantId operation.mentions ids (operation.handler env tenantId actorId)
      (fun _ after => AllAnnounced (value tenantId) after.events after.log) { db } :=
    ensures_operation env actorId admissible rfl
  have start : Kept keys served.tx.events now db db :=
    ⟨consistent, fun t u _ => .refl keys _ now t u db⟩
  apply serve_invariant holds start
  · intro _ announced _ _ stmt sent before allowed applied
    have went := send_ok applied
    refine ⟨consistent_apply before.consistent (keeps_of_tenantWrite allowed.1) went, ?_⟩
    intro t u spelled
    exact (before.unmoved t u spelled).trans
      (unmoved_of_tenantWrite before.consistent allowed.1 went (announced stmt sent) spelled)
  · intro _ _ _ _ allowed before applied
    obtain ⟨revoked, rfl⟩ := detached_applied allowed applied
    refine ⟨⟨before.consistent.held, before.consistent.filled⟩, ?_⟩
    intro t u spelled
    exact (before.unmoved t u spelled).trans (unmoved_of_revocation keys _ now t u _ revoked)

theorem coherent_request {Key : Type} [DecidableEq Key] {keys : KeyScheme Uuid Key} {db : Db}
    (consistent : Consistent db) (env : Environment) (ids : Nat → Uuid) (now : Time)
    (tenantId actorId : Uuid) {operation : Operation Uuid} (admissible : operation.Admissible)
    {cache : Cache Key} (coherent : Coherent keys db now cache) :
    let served :=
      serve (engine Uuid (.tenantUser tenantId)) ids (operation.handler env tenantId actorId) db
    Coherent keys served.db now (deliver keys served.tx.events cache) := by
  intro served
  have kept := kept_request keys consistent env ids now tenantId actorId admissible
  have unmoved : ∀ t u, Unmoved keys served.tx.events now t u db served.db := fun t u =>
    kept.unmoved t u (spelled_uuid _ t u)
  rw [deliver_eq]
  refine Store.Coherent.removeWhere coherent ?_
  intro key cached missed right
  rw [← missed_iff] at missed
  apply right.keep
  · intro t u same
    obtain rfl := same
    exact (unmoved t u).codes missed
  · intro dto same
    obtain rfl := same
    exact (unmoved dto.tenantId dto.userId).decisions dto rfl rfl missed
  · intro t dto same
    obtain rfl := same
    exact (unmoved t dto.userId).lists dto rfl missed

theorem coherent_purge {Key : Type} [DecidableEq Key] {keys : KeyScheme Uuid Key} (db : Db) (now : Time)
    {cache : Cache Key} (coherent : Coherent keys db now cache) :
    Coherent keys (db.deleteExpiredUserRoles .bypassRls now) now (deliver keys [] cache) := by
  rw [deliver_eq]
  refine Store.Coherent.removeWhere coherent ?_
  intro key cached _ right
  exact right.keep (fun _ _ _ => sameRows_deleteExpired.codes) (fun dto _ =>
    decision_congr sameRows_deleteExpired.codes fun _ _ => rfl)
    fun _ _ _ => rfl

/-- From any database the service can be in and any cache that agrees with it, a
mutation and the handling of its events lead to a cache that agrees again. -/
theorem mutation_coherent {db : Db} (reached : Reachable db) (ids : Nat → Uuid) (now : Time)
    {mutation : Mutation} (admissible : mutation.Admissible) {cache : Cache CacheKey}
    (coherent : Coherent tupleKeys db now cache) :
    Coherent tupleKeys (mutation.serve ids now db).db now
      (deliver tupleKeys (mutation.serve ids now db).tx.events cache) := by
  cases mutation with
  | request env tenantId actorId operation =>
    exact coherent_request reached.consistent env ids now tenantId actorId admissible coherent
  | purge => exact coherent_purge db now coherent

/-! A new tenant whose admin is given access to a document. -/

def plainEnvironment : Environment where
  hashPassword password := "$2b$10$" ++ password
  driver := ⟨fun _ => none, Json.asString, fun _ => none, fun _ => none⟩

def acmeTenant : Db :=
  (serve (engine Uuid .bypassRls) (fun index => BitVec.ofNat 128 (index + 1))
    (createTenantWithAdmin plainEnvironment.hashPassword ⟨"Acme", "acme", none, "a@acme.io", "secret",
      "Ada", "Ames"⟩ 9) {}).db

def sharing : Mutation := .request plainEnvironment 1 2 (.createAcl ⟨2, "doc", "7", "doc:read"⟩)

theorem sharing_admissible : sharing.Admissible := ⟨by decide, by decide, by decide⟩

def refusedCache : Cache CacheKey := Store.put .empty (.acl 1 2 "doc" "7" "doc:read") (.decision false)

theorem refusedCache_coherent : Coherent tupleKeys acmeTenant 0 refusedCache := by
  refine Store.Coherent.put (Store.coherent_empty _) ⟨?_, ?_, ?_⟩
  · intro tenantId userId is
    cases is
  · intro dto is
    cases is
  · intro tenantId dto _
    have absent : ¬aclExists acmeTenant tenantId dto = true := by
      rw [aclExists_iff]
      intro present
      obtain ⟨acl, member, _⟩ := present
      cases member
    rw [Bool.not_eq_true] at absent
    rw [absent]

theorem mutation_coherent_sharing :
    Coherent tupleKeys (sharing.serve (fun index => BitVec.ofNat 128 (index + 50)) 0 acmeTenant).db 0
        (deliver tupleKeys
          (sharing.serve (fun index => BitVec.ofNat 128 (index + 50)) 0 acmeTenant).tx.events
          refusedCache) ∧
      refusedCache (.acl 1 2 "doc" "7" "doc:read") = some (.decision false) ∧
        aclExists (sharing.serve (fun index => BitVec.ofNat 128 (index + 50)) 0 acmeTenant).db (1 : Uuid)
          ⟨2, "doc", "7", "doc:read"⟩ = true :=
  ⟨mutation_coherent (.tenantCreated plainEnvironment _ _ 9 (.empty .empty)) _ 0 sharing_admissible
    refusedCache_coherent,
    rfl, by decide⟩

end GenericIam.Coherence
