import GenericIam.CacheCollisions
import GenericIam.Json

/-! The authorization client of the SDK. It reads the two caches of the service
itself, in its own order, and asks over HTTP only when they do not settle the
request. -/

namespace GenericIam.SdkAuthorization
open Table Database PermissionMatcher EffectivePermissions Identifiers
open CacheKeys AuthorizationCheck Interleaving CacheTransparency
  CacheCollisions

inductive Reading where
  | failed
  | missing
  | parsed (json : Json)

/-- `new Set(Array.isArray(parsed) ? parsed : (parsed?.value ?? []))`; `none` is the
type error for a value that cannot be iterated. -/
def permsOf (parsed : Json) : Option (List String) :=
  match parsed with
  | .array items => some (Json.strings items)
  | _ => match Json.orElse (parsed.property "value") (some (.array [])) with
    | some (.array items) => some (Json.strings items)
    | some (.string text) => some (text.toList.map fun letter => String.ofList [letter])
    | _ => none

def tierOne {Id : Type} (dto : CheckAuthzDto Id) : Reading → Option Bool
  | .failed | .missing => none
  | .parsed permsRaw => match permsOf permsRaw with
    | none => none
    | some perms =>
        let allowed := hasPermission perms dto.permission
        if allowed || dto.resource.isNone then some allowed else none

def tierTwo : Reading → Option Bool
  | .failed | .missing => none
  | .parsed parsed =>
      let value := match parsed with
        | .object _ | .array _ => parsed.property "value"
        | plain => some plain
      match value with
      | some (.bool true) => some true
      | _ => some false

def getAuthzKey (userId tenantId : UuidText) (permission : String)
    (resourceType resourceId : Option String) :
    String :=
  "authz:" ++ tenantId.text ++ ":" ++ userId.text ++ ":" ++ permission ++ ":" ++
    orStar resourceType ++ ":" ++
    orStar resourceId

def getPermsKey (userId tenantId : UuidText) : String := "perms:" ++ tenantId.text ++ ":" ++ userId.text

/-- `IamAuthzService.isAllowed`. The two reads may see the cache at different times. -/
def isAllowed (readPerms readAuthz : String → Reading)
    (checkAuthorization : CheckAuthzDto UuidText → Bool) (dto : CheckAuthzDto UuidText) : Bool :=
  match tierOne dto (readPerms (getPermsKey dto.userId dto.tenantId)) with
  | some allowed => allowed
  | none => match tierTwo
      (readAuthz
      (getAuthzKey dto.userId dto.tenantId dto.permission dto.resourceType dto.resourceId)) with
    | some allowed => allowed
    | none => checkAuthorization dto

/-! The SDK spells the keys of the service out once more. -/

theorem getAuthzKey_eq (dto : CheckAuthzDto UuidText) :
    getAuthzKey dto.userId dto.tenantId dto.permission dto.resourceType dto.resourceId =
      textKeys.authz dto := rfl

theorem getPermsKey_eq (tenantId userId : UuidText) :
    getPermsKey userId tenantId = textKeys.perms tenantId userId :=
  rfl

variable {Id Key : Type}

/-! The HTTP call. -/

inductive HttpResponse where
  | unreachable
  | notOk
  | ok (body : Json)

def checkAuthorization : HttpResponse → Bool
  | .unreachable | .notOk => false
  | .ok body =>
      match Json.orElse ((body.property "data").bind (Json.property "allowed"))
        (body.property "allowed") with
      | some (.bool true) => true
      | _ => false

/-- The answer of `POST /authorization/check` in the envelope of
`ResponseTransformInterceptor`. -/
def checkResponse (result : CheckResult) (evaluatedAt : String) (envelope : Json) : HttpResponse :=
  .ok (.object [("success", .bool true),
    ("data", .object [("allowed", .bool result.allowed), ("source", .string result.source),
      ("evaluated_at", .string evaluatedAt)]),
    ("meta", envelope)])

theorem checkAuthorization_response (result : CheckResult) (evaluatedAt : String) (envelope : Json) :
    checkAuthorization (checkResponse result evaluatedAt envelope) = result.allowed := by
  obtain ⟨allowed, source⟩ := result
  cases allowed with
  | false => rfl
  | true => rfl

/-! What the cache adapter makes of a stored value. -/

def encode : CacheValue → Json
  | .codes permissions => .array (permissions.map .string)
  | .decision allowed => .bool allowed

inductive ReadsBack (cached : CacheValue) : Json → Prop where
  | plain : ReadsBack cached (encode cached)
  | wrapped (expires : Json) :
      ReadsBack cached (.object [("value", encode cached), ("expires", expires)])

def Reads (cache : Cache Key) (read : Key → Reading) : Prop :=
  ∀ key, match read key with
    | .failed => True
    | .missing => cache key = none
    | .parsed json => ∃ cached, cache key = some cached ∧ ReadsBack cached json

theorem permsOf_codes {codes : List String} {json : Json} (back : ReadsBack (.codes codes) json) :
    permsOf json = some codes := by
  cases back with
  | plain => simp [permsOf, encode]
  | wrapped expires => simp [permsOf, encode, Json.property, Json.orElse]

theorem tierTwo_decision {allowed : Bool} {json : Json} (back : ReadsBack (.decision allowed) json) :
    tierTwo (.parsed json) = some allowed := by
  cases back with
  | plain =>
    cases allowed with
    | false => rfl
    | true => rfl
  | wrapped expires =>
    cases allowed with
    | false => simp [tierTwo, encode, Json.property]
    | true => simp [tierTwo, encode, Json.property]

section Agreement
variable [Identifier Id] {keys : KeyScheme Id Key} {db : Db} {now : Time} {calls : Set (Call Id)}

/-- A request settled by the permission set alone gets the uncached decision. -/
theorem tierOne_valid {cache : Cache Key} (valid : cache.Coherent (EntryValid keys db now calls))
    {read : Key → Reading} (reads : Reads cache read) {dto : CheckAuthzDto Id} {allowed : Bool}
    (settled : tierOne dto (read (keys.perms dto.tenantId dto.userId)) = some allowed) :
    allowed = decision db now dto := by
  have found := reads (keys.perms dto.tenantId dto.userId)
  cases seen : read (keys.perms dto.tenantId dto.userId) with
  | failed =>
    rw [seen] at settled
    cases settled
  | missing =>
    rw [seen] at settled
    cases settled
  | parsed json =>
    rw [seen] at found settled
    obtain ⟨cached, stored, back⟩ := found
    rw [(valid _ _ stored).perms dto.tenantId dto.userId rfl] at back
    simp only [tierOne, permsOf_codes back] at settled
    split at settled
    next enough =>
      cases settled
      rw [Bool.or_eq_true] at enough
      rcases enough with granted | plain
      · simp [decision, granted]
      · rw [Option.isNone_iff_eq_none] at plain
        simp [decision, plain]
    next => cases settled

theorem tierTwo_valid {cache : Cache Key} (valid : cache.Coherent (EntryValid keys db now calls))
    {read : Key → Reading} (reads : Reads cache read) {dto : CheckAuthzDto Id}
    (asked : .authz dto ∈ calls) {allowed : Bool}
    (settled : tierTwo (read (keys.authz dto)) = some allowed) :
    allowed = decision db now dto := by
  have found := reads (keys.authz dto)
  cases seen : read (keys.authz dto) with
  | failed =>
    rw [seen] at settled
    cases settled
  | missing =>
    rw [seen] at settled
    cases settled
  | parsed json =>
    rw [seen] at found settled
    obtain ⟨cached, stored, back⟩ := found
    rw [(valid _ _ stored).authz dto asked rfl] at back
    rw [tierTwo_decision back] at settled
    cases settled
    rfl

/-- On right entries the client and the service agree with the database, whatever
each tier finds. -/
theorem isAllowed_valid {calls : Set (Call UuidText)} {early late : Cache String}
    (validEarly : early.Coherent (EntryValid textKeys db now calls))
    (validLate : late.Coherent (EntryValid textKeys db now calls))
    {readPerms readAuthz : String → Reading} (readsPerms : Reads early readPerms)
    (readsAuthz : Reads late readAuthz) {ask : CheckAuthzDto UuidText → Bool}
    {dto : CheckAuthzDto UuidText} (asked : .authz dto ∈ calls)
    (served : ask dto = decision db now dto) :
    isAllowed readPerms readAuthz ask dto = decision db now dto := by
  unfold isAllowed
  rw [getPermsKey_eq, getAuthzKey_eq]
  split
  next allowed settled => exact tierOne_valid validEarly readsPerms settled
  next =>
    split
    next allowed settled => exact tierTwo_valid validLate readsAuthz asked settled
    next => exact served

end Agreement

/-! The requests that the decorators make. -/

/-- No colon in the permission or the resource type, and the resource fields either
both present and neither empty nor the filler, or both absent. -/
structure PlainResource (resourceType resourceId : String) : Prop where
  type_present : resourceType ≠ ""
  type_plain : ':' ∉ resourceType.toList
  type_not_star : resourceType ≠ "*"
  id_present : resourceId ≠ ""
  id_not_star : resourceId ≠ "*"

structure PlainRequest (dto : CheckAuthzDto UuidText) : Prop where
  permission_present : dto.permission ≠ ""
  permission_plain : ':' ∉ dto.permission.toList
  resource_plain : (dto.resourceType = none ∧ dto.resourceId = none) ∨
    ∃ resourceType resourceId, dto.resourceType = some resourceType ∧ dto.resourceId = some resourceId ∧
      PlainResource resourceType resourceId

def plainCalls : Set (Call UuidText) := {call | ∃ dto, call = .authz dto ∧ PlainRequest dto}

/-- The two shapes of a plain request, as its key and its check see it. -/
theorem PlainRequest.shape {dto : CheckAuthzDto UuidText} (plain : PlainRequest dto) :
    (dto.resource = none ∧ orStar dto.resourceType = "*" ∧ orStar dto.resourceId = "*") ∨
      ∃ resourceType resourceId, dto.resource = some (resourceType, resourceId) ∧
        orStar dto.resourceType = resourceType ∧ orStar dto.resourceId = resourceId ∧
          PlainResource resourceType resourceId := by
  rcases plain.resource_plain with ⟨noType, noId⟩ | ⟨resourceType, resourceId, type, id, shape⟩
  · left
    simp [CheckAuthzDto.resource, orStar, noType, noId]
  · right
    refine ⟨resourceType, resourceId, ?_, ?_, ?_, shape⟩
    · simp [CheckAuthzDto.resource, type, id, truthy_some shape.type_present,
        truthy_some shape.id_present]
    · simp [orStar, type, truthy_some shape.type_present]
    · simp [orStar, id, truthy_some shape.id_present]

theorem PlainRequest.type_colon_free {dto : CheckAuthzDto UuidText} (plain : PlainRequest dto) :
    ':' ∉ (orStar dto.resourceType).toList := by
  rcases plain.shape with ⟨_, type, _⟩ | ⟨_, _, _, type, _, shape⟩
  · rw [type]
    decide
  · rw [type]
    exact shape.type_plain

/-- A decision key gives a plain request back. -/
theorem plain_authz_inj {dto dto' : CheckAuthzDto UuidText} (plain : PlainRequest dto)
    (plain' : PlainRequest dto') (same : authzKey dto = authzKey dto') :
    dto.permission = dto'.permission ∧ dto.resource = dto'.resource := by
  have lists := congrArg String.toList same
  rw [authzKey_toList, authzKey_toList] at lists
  obtain ⟨_, _, rests⟩ := ids_inj lists
  obtain ⟨permissions, resources⟩ :=
    Separator.head_inj plain.permission_plain plain'.permission_plain rests
  obtain ⟨types, resourceIds⟩ :=
    Separator.head_inj plain.type_colon_free plain'.type_colon_free resources
  have sameType : orStar dto.resourceType = orStar dto'.resourceType := String.toList_inj.mp types
  have sameId : orStar dto.resourceId = orStar dto'.resourceId := String.toList_inj.mp resourceIds
  refine ⟨String.toList_inj.mp permissions, ?_⟩
  rcases plain.shape with ⟨absent, type, _⟩ | ⟨rt, rid, present, type, id, shape⟩
  · rcases plain'.shape with ⟨absent', _, _⟩ | ⟨rt', rid', _, type', _, shape'⟩
    · rw [absent, absent']
    · exact absurd (type'.symm.trans (sameType.symm.trans type)) shape'.type_not_star
  · rcases plain'.shape with ⟨_, type', _⟩ | ⟨rt', rid', present', type', id', _⟩
    · exact absurd (type.symm.trans (sameType.trans type')) shape.type_not_star
    · have types' : rt = rt' := type.symm.trans (sameType.trans type')
      have ids' : rid = rid' := id.symm.trans (sameId.trans id')
      rw [present, present', types', ids']

/-- An ACL key gives a plain lookup back: read from the left up to the resource
type and from the right over the permission, what is left is the resource id. -/
theorem plain_acl_inj {dto dto' : CheckAuthzDto UuidText} (plain : PlainRequest dto)
    (plain' : PlainRequest dto') {row row' : UuidText × CheckAclDto UuidText}
    (own : row ∈ lookup (.authz dto)) (own' : row' ∈ lookup (.authz dto'))
    (same : aclKey row.1 row.2 = aclKey row'.1 row'.2) : row = row' := by
  obtain ⟨⟨rt, rid⟩, asked, made⟩ := Option.map_eq_some_iff.mp own
  obtain ⟨⟨rt', rid'⟩, asked', made'⟩ := Option.map_eq_some_iff.mp own'
  have type_plain : ':' ∉ rt.toList := by
    rcases plain.shape with ⟨absent, _⟩ | ⟨_, _, present, _, _, shape⟩
    · rw [absent] at asked
      cases asked
    · rw [present] at asked
      cases asked
      exact shape.type_plain
  have type_plain' : ':' ∉ rt'.toList := by
    rcases plain'.shape with ⟨absent, _⟩ | ⟨_, _, present, _, _, shape⟩
    · rw [absent] at asked'
      cases asked'
    · rw [present] at asked'
      cases asked'
      exact shape.type_plain
  subst made made'
  have lists := congrArg String.toList same
  rw [aclKey_toList, aclKey_toList] at lists
  obtain ⟨tenants, users, rests⟩ := ids_inj lists
  obtain ⟨types, tails⟩ := Separator.head_inj type_plain type_plain' rests
  obtain ⟨resourceIds, permissions⟩ :=
    Separator.last_inj plain.permission_plain plain'.permission_plain tails
  simp only [aclDto] at users
  simp only [aclDto, Prod.mk.injEq, CheckAclDto.mk.injEq]
  exact ⟨tenants, users, String.toList_inj.mp types, String.toList_inj.mp resourceIds,
    String.toList_inj.mp permissions⟩

theorem plain_collisionFree : CollisionFree textKeys plainCalls where
  authz := by
    intro dto dto' asked asked' same
    obtain ⟨_, ⟨⟩, plain⟩ := asked
    obtain ⟨_, ⟨⟩, plain'⟩ := asked'
    exact plain_authz_inj plain plain' same
  acl := by
    intro call asked call' asked' row own row' own' same
    obtain ⟨dto, rfl, plain⟩ := asked
    obtain ⟨dto', rfl, plain'⟩ := asked'
    exact plain_acl_inj plain plain' own own' same

/-- A cache content that plain checks may leave behind, with entries expiring at
any time. -/
def Filled (db : Db) (now : Time) (cache : Cache String) : Prop :=
  ∃ procs, (checks textKeys db now plainCalls).Reaches initial ⟨cache, procs⟩

theorem Filled.valid {db : Db} {now : Time} {cache : Cache String} (filled : Filled db now cache) :
    cache.Coherent (EntryValid textKeys db now plainCalls) := by
  obtain ⟨procs, run⟩ := filled
  exact (reaches_valid plain_collisionFree run).1

theorem filled_empty {db : Db} {now : Time} : Filled db now Store.empty := ⟨[], .refl⟩

theorem Filled.check {db : Db} {now : Time} {cache : Cache String} (filled : Filled db now cache)
    {dto : CheckAuthzDto UuidText} (plain : PlainRequest dto) :
    Filled db now (AuthorizationCheck.check textKeys db now cache dto).2 := by
  obtain ⟨procs, run⟩ := filled
  have asked : Call.authz dto ∈ plainCalls := ⟨dto, rfl, plain⟩
  exact ⟨_, run.trans (reaches_call asked cache procs)⟩

theorem check_valid {db : Db} {now : Time} {cache : Cache String} (filled : Filled db now cache)
    {dto : CheckAuthzDto UuidText} (plain : PlainRequest dto) :
    (check textKeys db now cache dto).1.allowed = decision db now dto := by
  have asked : Call.authz dto ∈ plainCalls := ⟨dto, rfl, plain⟩
  obtain ⟨procs, run⟩ := filled
  have later := run.trans (reaches_call asked cache procs)
  have answered := transparent_of_collisionFree plain_collisionFree later (.authz dto) _
    (List.mem_append_right _ List.mem_cons_self)
  rw [run_empty] at answered
  exact answered

/-- The client, the service and the database decide a plain request alike, whatever
plain checks have left in the cache when each tier reads it. -/
theorem client_agrees (db : Db) (now : Time) {early late cache : Cache String}
    (filledEarly : Filled db now early) (filledLate : Filled db now late)
    (filled : Filled db now cache) {readPerms readAuthz : String → Reading}
    (readsPerms : Reads early readPerms) (readsAuthz : Reads late readAuthz)
    {dto : CheckAuthzDto UuidText} (plain : PlainRequest dto) (evaluatedAt : String)
    (envelope : Json) :
    let ask := fun dto =>
      checkAuthorization (checkResponse (check textKeys db now cache dto).1 evaluatedAt envelope)
    isAllowed readPerms readAuthz ask dto = (check textKeys db now cache dto).1.allowed ∧
      (check textKeys db now cache dto).1.allowed = decision db now dto := by
  have served :
    checkAuthorization (checkResponse (check textKeys db now cache dto).1 evaluatedAt envelope) =
      decision db now dto := by
    rw [checkAuthorization_response, check_valid filled plain]
  have asked : Call.authz dto ∈ plainCalls := ⟨dto, rfl, plain⟩
  refine ⟨?_, check_valid filled plain⟩
  rw [check_valid filled plain]
  exact isAllowed_valid filledEarly.valid filledLate.valid readsPerms readsAuthz asked served

/-! A grant of `doc.read`, asked for on a document whose id contains a colon, with
the entries of that check in the cache. -/

def plainReader (cache : Cache String) (key : String) : Reading :=
  match cache key with
  | none => .missing
  | some cached => .parsed (encode cached)

theorem reads_plainReader (cache : Cache String) : Reads cache (plainReader cache) := by
  intro key
  unfold plainReader
  cases held : cache key with
  | none => rfl
  | some cached => exact ⟨cached, rfl, .plain⟩

def readDocument : CheckAuthzDto UuidText := ⟨alice, acme, "doc.read", some "doc", some "2026:report"⟩

theorem readDocument_plain : PlainRequest readDocument where
  permission_present := by decide
  permission_plain := by decide
  resource_plain :=
    .inr ⟨"doc", "2026:report", rfl, rfl, by decide, by decide, by decide, by decide, by decide⟩

def documentDb : Db := grantDb acme alice "doc.*"

theorem documentDb_filled :
    Filled documentDb 0 (check textKeys documentDb 0 Store.empty readDocument).2 :=
  filled_empty.check readDocument_plain

theorem client_agrees_readDocument :
    let cache := (check textKeys documentDb 0 Store.empty readDocument).2
    let ask := fun dto =>
      checkAuthorization (checkResponse (check textKeys documentDb 0 cache dto).1 "" .null)
    isAllowed (plainReader cache) (plainReader cache) ask readDocument =
        (check textKeys documentDb 0 cache readDocument).1.allowed ∧
      (check textKeys documentDb 0 cache readDocument).1.allowed = decision documentDb 0 readDocument :=
  client_agrees documentDb 0 documentDb_filled documentDb_filled documentDb_filled (reads_plainReader _)
    (reads_plainReader _) readDocument_plain "" .null

end GenericIam.SdkAuthorization
