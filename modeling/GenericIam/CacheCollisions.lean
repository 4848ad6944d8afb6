import GenericIam.CacheTransparency

/-! Keys that do collide, and what a collision costs: for two requests that share a
key and ask different things there is a database on which one of them, asked
second, gets the answer of the other. -/

namespace GenericIam.CacheCollisions
open Table Database PermissionMatcher EffectivePermissions Identifiers
open CacheKeys AuthorizationCheck Interleaving CacheTransparency

variable {Id Key : Type}

/-! A cache in which nothing is allowed. -/

section Negative
variable {keys : KeyScheme Id Key}

def Negative (keys : KeyScheme Id Key) (cache : Cache Key) : Prop :=
  cache.Coherent fun key cached =>
    cached = .decision false ∨ ∃ tenantId userId, key = keys.perms tenantId userId ∧ cached = .codes []

theorem Negative.refuse [DecidableEq Key] {cache : Cache Key} (negative : Negative keys cache)
    (key : Key) :
    Negative keys (cache.put key (.decision false)) := Store.Coherent.put negative (.inl rfl)

theorem Negative.acl {cache : Cache Key} (negative : Negative keys cache) {tenantId : Id}
    {dto : CheckAclDto Id} {cached : CacheValue}
    (held : cache (keys.acl tenantId dto) = some cached) : cached = .decision false := by
  rcases negative _ _ held with refused | ⟨t, u, same, _⟩
  · exact refused
  · exact absurd same.symm keys.perms_ne_acl

theorem Negative.authz {cache : Cache Key} (negative : Negative keys cache) {dto : CheckAuthzDto Id}
    {cached : CacheValue} (held : cache (keys.authz dto) = some cached) : cached = .decision false := by
  rcases negative _ _ held with refused | ⟨t, u, same, _⟩
  · exact refused
  · exact absurd same.symm keys.perms_ne_authz

theorem Negative.getPermissions {cache : Cache Key} (negative : Negative keys cache)
    {tenantId userId : Id} {effectiveSet : List String}
    (held : getPermissions keys cache tenantId userId = some effectiveSet) :
    effectiveSet = [] := by
  obtain ⟨cached, stored, codes⟩ := Option.bind_eq_some_iff.mp held
  rcases negative _ _ stored with rfl | ⟨_, _, _, rfl⟩
  · cases codes
  · cases codes
    rfl

theorem negative_empty : Negative keys Store.empty := Store.coherent_empty _

end Negative

variable [Identifier Id]

/-! Calls that run one after another. -/

section Sequential
variable [DecidableEq Key] {keys : KeyScheme Id Key} {db : Db} {now : Time} {calls : Set (Call Id)}

/-- In a transparent system a call that follows another still answers as if alone. -/
theorem second_answer
    (transparent : ∀ state, (checks keys db now calls).Reaches initial state →
      Transparent keys db now state)
    {call call' : Call Id} (asked : call ∈ calls) (asked' : call' ∈ calls) :
    (call'.run keys db now (call.run keys db now Store.empty).2).1.allowed = uncached db now call' := by
  have first : (checks keys db now calls).Reaches initial _ := reaches_call asked Store.empty []
  have run := first.trans (reaches_call asked' _ _)
  rw [← run_empty keys db now call']
  exact transparent _ run call' _ (by simp)

theorem check_stored {cache : Cache Key} {dto : CheckAuthzDto Id}
    (missing : cache (keys.authz dto) = none) :
    (check keys db now cache dto).2 (keys.authz dto) =
      some (.decision (check keys db now cache dto).1.allowed) := by
  simp only [check, missing, answer, Store.put_self]

theorem authz_agree
    (transparent : ∀ state, (checks keys db now calls).Reaches initial state →
      Transparent keys db now state)
    {dto dto' : CheckAuthzDto Id} (asked : .authz dto ∈ calls) (asked' : .authz dto' ∈ calls)
    (same : keys.authz dto = keys.authz dto') : decision db now dto = decision db now dto' := by
  have answered := second_answer transparent asked asked'
  have stored : (check keys db now Store.empty dto).2 (keys.authz dto) = _ := check_stored rfl
  rw [check_empty, same] at stored
  simp only [Call.run, uncached] at answered
  rw [← answered, check, stored]
  rfl

/-! Calls on a cache in which nothing is allowed. -/

/-- A lookup in such a cache is refused when its row is missing or its key is taken. -/
theorem aclCheck_negative {cache : Cache Key} (negative : Negative keys cache) {tenantId : Id}
    {dto : CheckAclDto Id}
    (refused : aclExists db tenantId dto = false ∨ cache (keys.acl tenantId dto) ≠ none) :
    (aclCheck keys db cache tenantId dto).1.allowed = false ∧
      Negative keys (aclCheck keys db cache tenantId dto).2 ∧
        (aclCheck keys db cache tenantId dto).2 (keys.acl tenantId dto) ≠ none := by
  cases held : cache (keys.acl tenantId dto) with
  | some cached =>
    have denied := negative.acl held
    subst denied
    simp only [aclCheck, held]
    exact ⟨rfl, negative, Option.some_ne_none _⟩
  | none =>
    have missing : aclExists db tenantId dto = false := refused.resolve_right (not_not_intro held)
    simp only [aclCheck, held, missing]
    exact ⟨trivial, negative.refuse _, by simp [Store.put_self]⟩

theorem answer_negative {cache : Cache Key} (negative : Negative keys cache)
    {dto : CheckAuthzDto Id}
    (refused : ∀ row ∈ lookup (.authz dto), aclExists db row.1 row.2 = false ∨
      cache (keys.acl row.1 row.2) ≠ none) :
    (answer keys db dto [] cache).1.allowed = false ∧ Negative keys (answer keys db dto [] cache).2 ∧
      ∀ row ∈ lookup (.authz dto), (answer keys db dto [] cache).2 (keys.acl row.1 row.2) ≠ none := by
  cases asked : dto.resource with
  | none =>
    simp only [answer, hasPermission_nil, asked]
    exact ⟨rfl, negative.refuse _, by simp [lookup, asked]⟩
  | some resource =>
    simp only [lookup, asked, Option.map_some, Option.mem_some_iff, forall_eq'] at refused ⊢
    obtain ⟨denied, kept, stored⟩ := aclCheck_negative negative refused
    simp only [answer, hasPermission_nil, asked, denied]
    refine ⟨rfl, kept.refuse _, ?_⟩
    rw [Store.put_other _ _ (Ne.symm keys.authz_ne_acl)]
    exact stored

/-- With no permission granted to anyone, a call whose lookup is refused is refused
and leaves nothing allowed behind. -/
theorem run_negative (nobody : ∀ userId tenantId, effectiveCodes db now userId tenantId = [])
    {cache : Cache Key} (negative : Negative keys cache) {call : Call Id}
    (refused : ∀ row ∈ lookup call, aclExists db row.1 row.2 = false ∨
      cache (keys.acl row.1 row.2) ≠ none) :
    (call.run keys db now cache).1.allowed = false ∧
      (cache = Store.empty → Negative keys (call.run keys db now cache).2 ∧
        ∀ row ∈ lookup call, (call.run keys db now cache).2 (keys.acl row.1 row.2) ≠ none) := by
  cases call with
  | acl tenantId dto =>
    simp only [lookup, Option.mem_some_iff, forall_eq'] at refused ⊢
    obtain ⟨denied, kept, stored⟩ := aclCheck_negative negative refused
    exact ⟨denied, fun _ => ⟨kept, stored⟩⟩
  | authz dto =>
    simp only [Call.run, check]
    cases cached : cache (keys.authz dto) with
    | some cachedDecision =>
      rw [negative.authz cached]
      exact ⟨rfl, fun empty => by rw [empty] at cached; cases cached⟩
    | none =>
      cases held : getPermissions keys cache dto.tenantId dto.userId with
      | some effectiveSet =>
        rw [negative.getPermissions held]
        obtain ⟨denied, kept, stored⟩ := answer_negative negative refused
        exact ⟨denied, fun _ => ⟨kept, stored⟩⟩
      | none =>
        simp only [nobody]
        have filled : Negative keys (cache.put (keys.perms dto.tenantId dto.userId) (.codes [])) :=
          Store.Coherent.put negative (.inr ⟨_, _, rfl, rfl⟩)
        have later : ∀ row ∈ lookup (.authz dto), aclExists db row.1 row.2 = false ∨
            cache.put (keys.perms dto.tenantId dto.userId) (.codes [])
                (keys.acl row.1 row.2) ≠ none := by
          intro row own
          rw [Store.put_other _ _ (Ne.symm keys.perms_ne_acl)]
          exact refused row own
        obtain ⟨denied, kept, stored⟩ := answer_negative filled later
        exact ⟨denied, fun _ => ⟨kept, stored⟩⟩

end Sequential

/-! Databases that tell two requests apart. -/

def aclDb (tenantId : Id) (dto : CheckAclDto Id) : Db where
  tenants := ⟨[⟨value tenantId, "tenant", "tenant", true, none⟩], List.nodup_singleton _⟩
  users := ⟨[⟨value dto.userId, value tenantId, "user", "", "", "", true, none⟩],
    List.nodup_singleton _⟩
  resourceAcls :=
    ⟨[⟨0, value tenantId, value dto.userId, dto.resourceType, dto.resourceId, dto.permission⟩],
    List.nodup_singleton _⟩

def grantDb (tenantId userId : Id) (code : String) : Db where
  tenants := ⟨[⟨value tenantId, "tenant", "tenant", true, none⟩], List.nodup_singleton _⟩
  users := ⟨[⟨value userId, value tenantId, "user", "", "", "", true, none⟩], List.nodup_singleton _⟩
  permissions := ⟨[⟨0, code, "service", none, none⟩], List.nodup_singleton _⟩
  userPermissionOverrides :=
    ⟨[⟨1, value tenantId, value userId, 0, .grant, ""⟩], List.nodup_singleton _⟩

theorem aclDb_codes (tenantId : Id) (dto : CheckAclDto Id) (now : Time) (userId t : Uuid) :
    effectiveCodes (aclDb tenantId dto) now userId t = [] := by
  rw [List.eq_nil_iff_forall_not_mem]
  intro code held
  obtain ⟨p, member, _⟩ := mem_effectiveCodes.mp held
  exact not_mem_empty p member

theorem aclDb_exists (tenantId : Id) (dto : CheckAclDto Id) :
    aclExists (aclDb tenantId dto) tenantId dto = true :=
  aclExists_iff.mpr ⟨_, List.mem_singleton_self _, rfl, rfl, rfl, rfl, rfl⟩

theorem aclDb_fields {tenantId tenantId' : Id} {dto dto' : CheckAclDto Id}
    (held : aclExists (aclDb tenantId dto) tenantId' dto' = true) :
    dto.resourceType = dto'.resourceType ∧ dto.resourceId = dto'.resourceId ∧
      dto.permission = dto'.permission := by
  obtain ⟨acl, member, _, _, fields⟩ := aclExists_iff.mp held
  rw [List.mem_singleton.mp member] at fields
  exact fields

theorem grantDb_codes (tenantId userId : Id) (code : String) (now : Time) (held : String) :
    held ∈ effectiveCodes (grantDb tenantId userId code) now (value userId) (value tenantId) ↔
      held = code := by
  rw [mem_effectiveCodes]
  constructor
  · intro holds
    obtain ⟨p, member, _, _, rfl⟩ := holds
    rw [List.mem_singleton.mp member]
  · intro same
    obtain rfl := same
    refine ⟨⟨0, held, "service", none, none⟩, List.mem_singleton_self _, .inr ?_, ?_, rfl⟩
    · exact ⟨_, List.mem_singleton_self _, rfl, rfl, rfl, rfl⟩
    · intro holds
      obtain ⟨o, member, _, _, denied, _⟩ := holds
      rw [List.mem_singleton.mp member] at denied
      cases denied

theorem grantDb_decision {tenantId userId : Id} {code : String} {now : Time} {dto : CheckAuthzDto Id}
    (tenant : dto.tenantId = tenantId) (user : dto.userId = userId) :
    decision (grantDb tenantId userId code) now dto = covers code dto.permission := by
  subst tenant user
  have rbac :
    hasPermission (effectiveCodes (grantDb dto.tenantId dto.userId code) now (value dto.userId)
      (value dto.tenantId)) dto.permission = covers code dto.permission :=
    hasPermission_congr (fun held => by rw [grantDb_codes, List.mem_singleton]) _
  have acl : ∀ (t : Id) a, aclExists (grantDb dto.tenantId dto.userId code) t a = false := by
    intro t a
    rw [← Bool.not_eq_true, aclExists_iff]
    intro holds
    obtain ⟨row, member, _⟩ := holds
    exact not_mem_empty row member
  unfold decision
  rw [rbac]
  cases dto.resource <;> simp [acl]

theorem aclDb_decision {tenantId : Id} {acl : CheckAclDto Id} {now : Time} {dto : CheckAuthzDto Id} :
    decision (aclDb tenantId acl) now dto = match dto.resource with
      | some resource => aclExists (aclDb tenantId acl) dto.tenantId (aclDto dto resource)
      | none => false := by
  cases asked : dto.resource <;> simp [decision, aclDb_codes, asked]

/-! What two requests that always agree must share. -/

section Agree
variable {keys : KeyScheme Id Key}

theorem resource_of_agree {dto dto' : CheckAuthzDto Id} {resource : String × String}
    (agree : ∀ db now, decision db now dto = decision db now dto')
    (asked : dto.resource = some resource) :
    dto'.resource = some resource := by
  have here := agree (aclDb dto.tenantId (aclDto dto resource)) 0
  rw [aclDb_decision, aclDb_decision, asked] at here
  simp only [aclDb_exists] at here
  cases asked' : dto'.resource with
  | none => simp [asked'] at here
  | some resource' =>
    simp only [asked'] at here
    obtain ⟨type, id, _⟩ := aclDb_fields here.symm
    exact congrArg some (Prod.ext type id).symm

theorem resources_agree {dto dto' : CheckAuthzDto Id}
    (agree : ∀ db now, decision db now dto = decision db now dto') : dto.resource = dto'.resource := by
  cases asked : dto.resource with
  | some resource => exact (resource_of_agree agree asked).symm
  | none =>
    cases asked' : dto'.resource with
    | none => rfl
    | some resource =>
      have back := resource_of_agree (fun db now => (agree db now).symm) asked'
      rw [asked] at back
      cases back

/-- Two texts of which one goes on after a colon: the longer one never covers the
shorter one, so a grant of the longer one tells the requests apart. -/
theorem permission_not_longer {dto dto' : CheckAuthzDto UuidText} {rest : List Char}
    (ids : dto.tenantId = dto'.tenantId ∧ dto.userId = dto'.userId)
    (longer : dto'.permission.toList = dto.permission.toList ++ ':' :: rest)
    (agree : ∀ db now, decision db now dto = decision db now dto') : False := by
  have here := agree (grantDb dto'.tenantId dto'.userId dto'.permission) 0
  rw [grantDb_decision ids.1 ids.2, grantDb_decision rfl rfl, covers_self] at here
  have fewer : covers dto'.permission dto.permission = false := by
    apply covers_of_more_colons
    simp only [countColons, longer, List.count_append, List.count_cons_self]
    omega
  rw [fewer] at here
  cases here

theorem permissions_agree {dto dto' : CheckAuthzDto UuidText} (same : authzKey dto = authzKey dto')
    (agree : ∀ db now, decision db now dto = decision db now dto') :
    dto.permission = dto'.permission := by
  have ids := textKeys.authz_ids same
  have lists := congrArg String.toList same
  rw [authzKey_toList, authzKey_toList] at lists
  obtain ⟨_, _, rests⟩ := ids_inj lists
  by_contra differ
  rcases Separator.head_split rests (fun equal => differ (String.toList_inj.mp equal)) with
    ⟨rest, longer⟩ | ⟨rest, longer⟩
  · exact permission_not_longer ids longer agree
  · exact permission_not_longer ⟨ids.1.symm, ids.2.symm⟩ longer fun db now => (agree db now).symm

end Agree

theorem uncached_of_lookup {call : Call Id} {row : Id × CheckAclDto Id} (own : row ∈ lookup call) :
    uncached (aclDb row.1 row.2) 0 call = true := by
  cases call with
  | acl tenantId dto =>
    cases own
    exact aclDb_exists _ _
  | authz dto =>
    obtain ⟨resource, found, same⟩ := Option.map_eq_some_iff.mp own
    subst same
    rw [uncached, aclDb_decision, found]
    exact aclDb_exists _ _

/-- Two calls whose lookups share a key: on the database that holds only the first
row, the second call leaves a refusal behind that the first one finds. -/
theorem lookups_agree [DecidableEq Key] {keys : KeyScheme Id Key} {calls : Set (Call Id)}
    (transparent : ∀ db now state, (checks keys db now calls).Reaches initial state →
      Transparent keys db now state)
    {call call' : Call Id} (asked : call ∈ calls) (asked' : call' ∈ calls)
    {row row' : Id × CheckAclDto Id} (own : row ∈ lookup call) (own' : row' ∈ lookup call')
    (same : keys.acl row.1 row.2 = keys.acl row'.1 row'.2) :
    aclExists (aclDb row.1 row.2) row'.1 row'.2 = true := by
  by_contra missing
  rw [Bool.not_eq_true] at missing
  have nobody := aclDb_codes row.1 row.2 0
  have refused : ∀ other ∈ lookup call', aclExists (aclDb row.1 row.2) other.1 other.2 = false ∨
      (Store.empty : Cache Key) (keys.acl other.1 other.2) ≠ none := by
    intro other found
    rw [Option.mem_unique found own']
    exact .inl missing
  have first := run_negative nobody (negative_empty : Negative keys Store.empty) refused
  obtain ⟨kept, stored⟩ := first.2 rfl
  have taken : ∀ other ∈ lookup call, aclExists (aclDb row.1 row.2) other.1 other.2 = false ∨
      (call'.run keys (aclDb row.1 row.2) 0 Store.empty).2 (keys.acl other.1 other.2) ≠ none := by
    intro other found
    rw [Option.mem_unique found own, same]
    exact .inr (stored row' own')
  have denied := (run_negative nobody kept taken).1
  rw [second_answer (transparent _ _) asked' asked, uncached_of_lookup own] at denied
  cases denied

theorem lookup_ext {row row' : Id × CheckAclDto Id}
    (ids : row.1 = row'.1 ∧ row.2.userId = row'.2.userId)
    (held : aclExists (aclDb row.1 row.2) row'.1 row'.2 = true) : row = row' := by
  obtain ⟨type, id, permission⟩ := aclDb_fields held
  obtain ⟨tenantId, dto⟩ := row
  obtain ⟨tenantId', dto'⟩ := row'
  cases dto
  cases dto'
  simp only at ids type id permission
  obtain ⟨tenant, user⟩ := ids
  subst tenant user type id permission
  rfl

/-- Every run of a set of calls is transparent on every database exactly when no
two of them that ask different things share a key string. -/
theorem transparent_iff (calls : Set (Call UuidText)) :
    (∀ db now state, (checks textKeys db now calls).Reaches initial state →
      Transparent textKeys db now state) ↔
      CollisionFree textKeys calls := by
  constructor
  · intro transparent
    refine ⟨fun dto dto' asked asked' same => ?_,
      fun call asked call' asked' row own row' own' same => ?_⟩
    · have agree : ∀ db now, decision db now dto = decision db now dto' :=
        fun db now => authz_agree (transparent db now) asked asked' same
      exact ⟨permissions_agree same agree, resources_agree agree⟩
    · exact lookup_ext (textKeys.acl_ids same) (lookups_agree transparent asked asked' own own' same)
  · intro free db now state run
    exact transparent_of_collisionFree free run

/-! A user who is granted `doc:read` asks for it on `x:1`, and then for `doc` on
the resource `x:1` of type `read`. -/

def acme : UuidText := ⟨"0f8fad5b-d9cb-469f-a165-70867728950e", by decide⟩

def alice : UuidText := ⟨"7c9e6679-7425-40de-944b-e07fc1f90ae7", by decide⟩

def grantedCheck : CheckAuthzDto UuidText := ⟨alice, acme, "doc:read", some "x", some "1"⟩

def deniedCheck : CheckAuthzDto UuidText := ⟨alice, acme, "doc", some "read", some "x:1"⟩

/-- The second request is allowed from the entry of the first. -/
theorem shared_key_allows :
    ¬∀ state, (checks textKeys (grantDb acme alice "doc:read") 0
        {.authz grantedCheck, .authz deniedCheck}).Reaches initial state →
      Transparent textKeys (grantDb acme alice "doc:read") 0 state := by
  intro transparent
  have shared : textKeys.authz grantedCheck = textKeys.authz deniedCheck := by decide
  have agreed := authz_agree transparent (.inl rfl) (.inr rfl) shared
  have granted : decision (grantDb acme alice "doc:read") 0 grantedCheck =
    covers "doc:read" "doc:read" :=
    grantDb_decision rfl rfl
  have denied : decision (grantDb acme alice "doc:read") 0 deniedCheck = covers "doc:read" "doc" :=
    grantDb_decision rfl rfl
  rw [granted, denied] at agreed
  revert agreed
  decide

end GenericIam.CacheCollisions
