import GenericIam.CacheCollisions
import GenericIam.CacheTransparency
import GenericIam.Coherence
import GenericIam.TenantEvents

/-! Whether the entries of a user are still right after a change that spells the id of the
user in another way. The database reads both spellings alike, the cache does not. -/

namespace GenericIam.Spellings
open Table Database EffectivePermissions Identifiers CacheKeys AuthorizationCheck
open CacheTransparency Events Transaction Handlers RbacServices AccountServices
open TenantWrites Operations Footprint TenantEvents ReachableStates Coherence

/-! The entries that a call fills. -/

section Entries
variable {Id Key : Type} [Identifier Id] {keys : KeyScheme Id Key} {db : Db} {now : Time}

def tenantOf : Call Id → Id
  | .authz dto => dto.tenantId
  | .acl tenantId _ => tenantId

def userOf : Call Id → Id
  | .authz dto => dto.userId
  | .acl _ dto => dto.userId

/-- Whatever is left of the entries that the call fills is what the database answers. -/
structure Current (keys : KeyScheme Id Key) (db : Db) (now : Time) (call : Call Id)
    (cache : Cache Key) : Prop where
  perms : ∀ dto, call = .authz dto →
    ∀ cached, cache (keys.perms dto.tenantId dto.userId) = some cached →
    ∃ codes, cached = .codes codes ∧
    ∀ code, code ∈ codes ↔ code ∈ effectiveCodes db now (value dto.userId) (value dto.tenantId)
  authz : ∀ dto, call = .authz dto → ∀ cached, cache (keys.authz dto) = some cached →
    cached = .decision (decision db now dto)
  acl : ∀ row ∈ lookup call, ∀ cached, cache (keys.acl row.1 row.2) = some cached →
    cached = .decision (aclExists db row.1 row.2)

theorem current_empty (call : Call Id) : Current keys db now call Store.empty :=
  ⟨fun _ _ _ => nofun, fun _ _ _ => nofun, fun _ _ _ => nofun⟩

variable [DecidableEq Key] {cache : Cache Key}

theorem Current.put_acl {call : Call Id} (current : Current keys db now call cache)
    {row : Id × CheckAclDto Id} (own : row ∈ lookup call) :
    Current keys db now call
      (cache.put (keys.acl row.1 row.2) (.decision (aclExists db row.1 row.2))) where
  perms dto is cached held := by
    rw [Store.put_other _ _ keys.perms_ne_acl] at held
    exact current.perms dto is cached held
  authz dto is cached held := by
    rw [Store.put_other _ _ keys.authz_ne_acl] at held
    exact current.authz dto is cached held
  acl other member cached held := by
    obtain rfl : other = row := Option.some.inj (member.symm.trans own)
    rw [Store.put_self] at held
    exact (Option.some.inj held).symm

theorem Current.put_perms {dto : CheckAuthzDto Id} (current : Current keys db now (.authz dto) cache) :
    Current keys db now (.authz dto)
      (cache.put (keys.perms dto.tenantId dto.userId)
        (.codes (effectiveCodes db now (value dto.userId) (value dto.tenantId)))) where
  perms other is cached held := by
    cases is
    rw [Store.put_self] at held
    exact ⟨_, (Option.some.inj held).symm, fun _ => Iff.rfl⟩
  authz other is cached held := by
    rw [Store.put_other _ _ keys.perms_ne_authz.symm] at held
    exact current.authz other is cached held
  acl row member cached held := by
    rw [Store.put_other _ _ keys.perms_ne_acl.symm] at held
    exact current.acl row member cached held

theorem Current.put_authz {dto : CheckAuthzDto Id}
    (current : Current keys db now (.authz dto) cache) {allowed : Bool}
    (right : allowed = decision db now dto) :
    Current keys db now (.authz dto) (cache.put (keys.authz dto) (.decision allowed)) where
  perms other is cached held := by
    rw [Store.put_other _ _ keys.perms_ne_authz] at held
    exact current.perms other is cached held
  authz other is cached held := by
    cases is
    rw [Store.put_self] at held
    rw [← right]
    exact (Option.some.inj held).symm
  acl row member cached held := by
    rw [Store.put_other _ _ keys.authz_ne_acl.symm] at held
    exact current.acl row member cached held

/-- The lookup of an ACL entry answers right and leaves right entries behind. -/
theorem current_aclCheck {call : Call Id} (current : Current keys db now call cache)
    {row : Id × CheckAclDto Id} (own : row ∈ lookup call) :
    (aclCheck keys db cache row.1 row.2).1.allowed = aclExists db row.1 row.2 ∧
      Current keys db now call (aclCheck keys db cache row.1 row.2).2 := by
  unfold aclCheck
  dsimp only
  split
  · next cached held =>
    rw [current.acl row own cached held]
    exact ⟨rfl, current⟩
  · exact ⟨rfl, current.put_acl own⟩

theorem current_answer {dto : CheckAuthzDto Id} (current : Current keys db now (.authz dto) cache)
    {effectiveSet : List String}
    (right : ∀ code, code ∈ effectiveSet ↔
      code ∈ effectiveCodes db now (value dto.userId) (value dto.tenantId)) :
    Current keys db now (.authz dto) (answer keys db dto effectiveSet cache).2 := by
  have granted := PermissionMatcher.hasPermission_congr right dto.permission
  unfold answer
  split
  next allowed source later computed =>
  split at computed
  · next hit =>
    cases computed
    refine current.put_authz ?_
    simp [decision, ← granted, hit]
  · next refused =>
    rw [Bool.not_eq_true] at refused
    split at computed
    · next resource asked =>
      have own : (dto.tenantId, aclDto dto resource) ∈ lookup (.authz dto) := by simp [lookup, asked]
      obtain ⟨found, kept⟩ := current_aclCheck current own
      cases computed
      refine kept.put_authz (found.trans ?_)
      simp [decision, ← granted, refused, asked]
    · next asked =>
      cases computed
      refine current.put_authz ?_
      simp [decision, ← granted, refused, asked]

/-- A call leaves right entries behind. -/
theorem current_run (call : Call Id) (current : Current keys db now call cache) :
    Current keys db now call (call.run keys db now cache).2 := by
  cases call with
  | acl tenantId dto => exact (@current_aclCheck _ _ _ _ _ _ _ _ _ current (tenantId, dto) rfl).2
  | authz dto =>
    simp only [Call.run, check]
    split
    · exact current
    · cases held : getPermissions keys cache dto.tenantId dto.userId with
      | some effectiveSet =>
        obtain ⟨cached, stored, codes⟩ := Option.bind_eq_some_iff.mp held
        obtain ⟨known, rfl, right⟩ := current.perms dto rfl cached stored
        cases codes
        exact current_answer current right
      | none => exact current_answer current.put_perms fun _ => Iff.rfl

/-- Deletes leave right entries behind wherever they miss nothing that has changed. -/
theorem current_deliver {events : List (Event Id)} {db' : Db} {call : Call Id}
    (unmoved : Unmoved keys events now (tenantOf call) (userOf call) db db')
    (current : Current keys db now call cache) :
    Current keys db' now call (deliver keys events cache) := by
  have left : ∀ {key cached}, deliver keys events cache key = some cached → Missed keys events key ∧
      cache key = some cached := by
    intro key cached held
    rw [deliver_eq] at held
    obtain ⟨missed, stored⟩ := Store.removeWhere_some.mp held
    exact ⟨missed_iff.mpr missed, stored⟩
  constructor
  · rintro dto rfl cached held
    obtain ⟨missed, stored⟩ := left held
    obtain ⟨codes, rfl, right⟩ := current.perms dto rfl cached stored
    exact ⟨codes, rfl, fun code => (right code).trans (unmoved.codes missed code).symm⟩
  · rintro dto rfl cached held
    obtain ⟨missed, stored⟩ := left held
    rw [unmoved.decisions dto rfl rfl missed]
    exact current.authz dto rfl cached stored
  · intro row own cached held
    obtain ⟨missed, stored⟩ := left held
    have same : row.1 = tenantOf call ∧ row.2.userId = userOf call := by
      cases call with
      | acl tenantId dto =>
        cases own
        exact ⟨rfl, rfl⟩
      | authz dto =>
        obtain ⟨resource, _, rfl⟩ := Option.map_eq_some_iff.mp own
        exact ⟨rfl, rfl⟩
    rw [same.1] at missed ⊢
    rw [unmoved.lists row.2 same.2 missed, ← same.1]
    exact current.acl row own cached stored

end Entries

/-! The same spelling. -/

section Same
variable {Id Key : Type} [Identifier Id] [DecidableEq Id] [DecidableEq Key]

def SpelledLike (userId other : Id) : Prop := value other = value userId → other = userId

omit [DecidableEq Id] in
theorem spelled_of_addressed {events : List (Event Id)} {tenantId userId : Id}
    (addressed : ∀ event ∈ events, Addressed tenantId (SpelledLike userId) event) :
    Spelled events tenantId userId := by
  constructor
  · intro event emitted t handled _
    exact addressed event emitted (.permsOfTenant t)
      (by simp [handled, invalidateTenantPermissionCache])
  · intro event emitted t u handled _ same
    have names :=
      addressed event emitted (.perms t u) (by simp [handled, invalidateUserPermissionCache])
    exact ⟨names.1, names.2 same⟩
  · intro event emitted t u resourceType resourceId permission handled _ same
    have names :=
      addressed event emitted (.acl t ⟨u, resourceType, resourceId, permission⟩)
      (by simp [handled, invalidateAclCache])
    exact ⟨names.1, names.2 same⟩

/-- After any change whose events spell the user in one way, what is left of the entries that a
call has filled for the user in one spelling or the other is right. -/
def Invalidates (keys : KeyScheme Id Key) (tenantId checked changed : Id) : Prop :=
  ∀ db, Reachable db →
    ∀ (env : Environment) (ids : Nat → Uuid) (now : Time) (actorId : Id) (operation : Operation Id),
    operation.Admissible → Told (SpelledLike changed) operation →
      ∀ call : Call Id, tenantOf call = tenantId → userOf call = checked ∨ userOf call = changed →
        ∀ cache, Current keys db now call cache →
        let served :=
          serve (engine Id (.tenantUser (value tenantId))) ids
          (operation.handler env tenantId actorId) db
        Current keys served.db now call (deliver keys served.tx.events (call.run keys db now cache).2)

theorem invalidates_self (keys : KeyScheme Id Key) (tenantId userId : Id) :
    Invalidates keys tenantId userId userId := by
  intro db reached env ids now actorId operation admissible told call tenant user cache current served
  have kept := kept_request keys reached.consistent env ids now tenantId actorId admissible
  have spelled : Spelled served.tx.events (tenantOf call) (userOf call) := by
    rw [tenant, user.elim id id]
    exact spelled_of_addressed (serve_emits (stays_operation env actorId told))
  exact current_deliver (kept.unmoved _ _ spelled) (current_run call current)

end Same

/-! Two spellings. -/

section Other
variable {Id Key : Type} [Identifier Id] [DecidableEq Key] {keys : KeyScheme Id Key}

omit [Identifier Id] in
/-- Events that do not name the user leave the entries of the access list alone. -/
theorem missed_of_addressed {events : List (Event Id)} {tenantId t : Id} {users : Id → Prop}
    {dto : CheckAclDto Id} (addressed : ∀ event ∈ events, Addressed tenantId users event)
    (absent : ¬users dto.userId) : Missed keys events (keys.acl t dto) := by
  intro event emitted deletion handled
  have names := addressed event emitted deletion handled
  cases deletion with
  | perms t' u => simp [Invalidation.reaches, keys.perms_ne_acl.symm]
  | authzOfUser t' u => exact keys.authzOfUser_acl
  | permsOfTenant t' => exact keys.permsOfTenant_acl
  | authzOfTenant t' => exact keys.authzOfTenant_acl
  | acl t' dto' =>
    refine beq_eq_false_iff_ne.mpr fun same => absent ?_
    rw [(keys.acl_ids same).2]
    exact names.2
  | authzDecision t' u permission resourceType resourceId =>
    refine beq_eq_false_iff_ne.mpr fun same => ?_
    rw [keys.authzDecision_eq names.2.2.1 names.2.2.2] at same
    exact keys.authz_ne_acl same.symm

def founded (tenantId : Uuid) : Db where
  tenants := ⟨[⟨tenantId, "Acme", "acme", true, some "{}"⟩], List.nodup_singleton _⟩

def home (tenantId userId : Uuid) : Db :=
  { founded tenantId with
    users := ⟨[⟨userId, tenantId, "a@acme.io", plainEnvironment.hashPassword "secret", "Ada", "Ames",
      true, none⟩], List.nodup_singleton _⟩ }

def homeIds (tenantId userId : Uuid) : Nat → Uuid
  | 0 => tenantId
  | _ => userId

def founding : CreateTenantDto := ⟨"Acme", "acme", none, "a@acme.io", "secret", "Ada", "Ames"⟩

theorem founding_home (tenantId userId : Uuid) :
    wp (engine Uuid .bypassRls) (homeIds tenantId userId) ⟨fun _ _ => True, fun _ _ => True⟩
      (createTenantWithAdmin plainEnvironment.hashPassword founding 9)
      (fun _ after => after.db = home tenantId userId) (fun _ _ => False) { db := {} } := by
  unfold createTenantWithAdmin
  simp only [wp_bind, wp_visible]
  apply wp_refuseIf _ fun found => absurd found Bool.false_ne_true
  intro _
  simp only [wp_bind, wp_newId]
  refine @wp_persist_applied _ _ _ _ _ _ _ (founded tenantId) _ trivial rfl ?_
  simp only [wp_bind, wp_newId]
  refine @wp_persist_applied _ _ _ _ _ _ _ (home tenantId userId) _ trivial ?_ ?_
  · simp [Write.apply, homeIds, Db.insertUser, Db.hasTenant, founded, Table.any, Session.admits]
    exact ⟨fun _ impossible => absurd impossible List.not_mem_nil, _, rfl, rfl⟩
  · rfl

theorem home_reachable (tenantId userId : Uuid) : Reachable (home tenantId userId) := by
  have reached : Reachable (serve (engine Uuid .bypassRls) (homeIds tenantId userId)
      (createTenantWithAdmin plainEnvironment.hashPassword founding 9) {}).db :=
    .tenantCreated plainEnvironment _ founding 9 (.empty .empty)
  have ended := serve_post (founding_home tenantId userId)
  split at ended
  · rw [ended.2, ended.1] at reached
    exact reached
  · exact ended.1.elim

def sharing (userId : Id) : Operation Id := .createAcl ⟨userId, "doc", "7", "doc:read"⟩

def sought (userId : Id) : CheckAclDto Id := ⟨userId, "doc", "7", "doc:read"⟩

theorem unlisted (tenantId userId : Id) (t u : Uuid) :
    aclExists (home t u) tenantId (sought userId) = false := by
  rw [← Bool.not_eq_true, aclExists_iff]
  intro holds
  obtain ⟨acl, impossible, _⟩ := holds
  exact not_mem_empty _ impossible

variable [DecidableEq Id]

theorem sharing_run (tenantId actorId changed : Id) (ids : Nat → Uuid) :
    wp (engine Id (.tenantUser (value tenantId))) ids ⟨fun _ _ => True, fun _ _ => True⟩
      ((sharing changed).handler plainEnvironment tenantId actorId) (fun _ after =>
        aclExists after.db tenantId (sought changed) = true)
      (fun _ _ => False) { db := home (value tenantId) (value changed) } := by
  unfold sharing Operation.handler createAcl
  simp only [wp_bind, wp_visible]
  split
  · next found => exact absurd (findOne_some found).1 (not_mem_empty _)
  · simp only [wp_bind, wp_newId]
    apply wp_attempt trivial
    · intro db answer
      obtain ⟨resourceAcls, inserted, rfl⟩ := insertAcl_some (send_ok answer)
      simp only [wp_bind, wp_emit, wp_pure]
      rw [aclExists_iff]
      exact ⟨_, (mem_insert inserted).mpr (.inr rfl), rfl, rfl, rfl, rfl, rfl⟩
    · intro why answer
      have accepted : ∃ db,
        (Write.insertAcl ⟨ids 0, value tenantId, value changed, "doc", "7", "doc:read"⟩).apply
          (.tenantUser (value tenantId)) (home (value tenantId) (value changed)) = some db := by
        simp [Write.apply, Db.insertAcl, home, founded, Db.hasTenant, Db.hasUser,
          Table.any, Session.admits]
        exact ⟨_, rfl⟩
      obtain ⟨db, applied⟩ := accepted
      simp only [engine, send, applied] at answer
      cases answer

def shared (tenantId changed : Id) : Served (effects Id) Db Unit :=
  serve (engine Id (.tenantUser (value tenantId))) (fun _ => 1)
    ((sharing changed).handler plainEnvironment tenantId changed)
    (home (value tenantId) (value changed))

theorem shared_listed (tenantId changed : Id) :
    aclExists (shared tenantId changed).db tenantId (sought changed) = true := by
  have ended := serve_post (sharing_run tenantId changed changed fun _ => 1)
  unfold shared
  split at ended
  · rw [ended.2]
    exact ended.1
  · exact ended.1.elim

/-- The entry of a lookup under one spelling outlives the creation under another. -/
theorem outlived {tenantId checked changed : Id} (same : value checked = value changed)
    (other : checked ≠ changed) :
    ¬Invalidates keys tenantId checked changed := by
  intro invalidates
  have admissible : (sharing changed).Admissible := by simp [sharing, Operation.Admissible, NonEmpty]
  have named : Told (fun userId => userId = changed) (sharing changed) := rfl
  have right :=
    invalidates (home (value tenantId) (value changed)) (home_reachable _ _) plainEnvironment
    (fun _ => 1) 0 changed
    (sharing changed) admissible (fun _ => rfl) (.acl tenantId (sought checked)) rfl
      (.inl rfl) Store.empty (current_empty _)
  have missed : Missed keys (shared tenantId changed).tx.events (keys.acl tenantId (sought checked)) :=
    missed_of_addressed (serve_emits (stays_operation plainEnvironment changed named)) other
  have filled :
    ((Call.acl tenantId (sought checked)).run keys
    (home (value tenantId) (value changed)) 0 Store.empty).2
      (keys.acl tenantId (sought checked)) = some (.decision false) := by
    simp [Call.run, aclCheck, Store.put_self, unlisted]
  have left : deliver keys (shared tenantId changed).tx.events
      ((Call.acl tenantId (sought checked)).run keys
        (home (value tenantId) (value changed)) 0 Store.empty).2
      (keys.acl tenantId (sought checked)) = some (.decision false) := by
    rw [deliver_eq]
    exact Store.removeWhere_some.mpr ⟨missed_iff.mp missed, filled⟩
  have answer : CacheValue.decision false =
    .decision (aclExists (shared tenantId changed).db tenantId (sought checked)) :=
    right.acl (tenantId, sought checked) rfl _ left
  have alike : aclExists (shared tenantId changed).db tenantId (sought checked) =
    aclExists (shared tenantId changed).db tenantId (sought changed) := by
    have ids : value (sought checked).userId = value (sought changed).userId := same
    unfold aclExists
    rw [ids]
    rfl
  rw [alike, shared_listed] at answer
  cases answer

/-- Entries of a user are right after every change of which the events spell the user as the
check did, and after no others in general. -/
theorem invalidates_iff {tenantId checked changed : UuidText} (same : value checked = value changed) :
    Invalidates textKeys tenantId checked changed ↔ checked = changed := by
  constructor
  · intro invalidates
    by_contra other
    exact outlived same other invalidates
  · intro same
    obtain rfl := same
    exact invalidates_self textKeys tenantId checked

end Other

/-! Alice, in small and in capital letters. -/

section Example
open CacheCollisions (acme alice)

def capitalAlice : UuidText := ⟨"7C9E6679-7425-40DE-944B-E07FC1F90AE7", by decide⟩

theorem alice_alike : value capitalAlice = value alice := by decide +kernel

theorem spellings_matter :
    ¬∀ tenantId checked changed : UuidText, value checked = value changed →
      Invalidates textKeys tenantId checked changed :=
  fun all => outlived alice_alike (by decide) (all acme capitalAlice alice alice_alike)

theorem invalidates_alice :
    Invalidates textKeys acme capitalAlice alice ↔ capitalAlice = alice := invalidates_iff alice_alike

end Example
end GenericIam.Spellings
