import GenericIam.BearerTokens
import GenericIam.PermissionGuards
import GenericIam.SdkAuthorization

/-! The guards of a client of the service, one after the other: the token, the permissions of
the route, the entry for its resource. Each question may be settled by any tier of the SDK's
client and find what other questions have left in the cache, or an outage. -/

namespace GenericIam.GuardChains
open Database Identifiers CacheKeys AuthorizationCheck CacheTransparency
open SdkAuthorization Handlers Guards PermissionGuards
open BearerTokens (JsonWebToken Claims jwtAuthGuard)

structure AclMetadata where
  resource : String
  action : String
  paramKey : Option String := some "id"

structure Route where
  context : Context := {}
  handlerAcl : Option AclMetadata := none
  classAcl : Option AclMetadata := none

def Route.acl (route : Route) : Option AclMetadata := route.handlerAcl.or route.classAcl

/-- The answers to questions about a tenant, a user, a permission and possibly a resource. -/
abbrev Question := Option String → String → String → Option (String × String) → Bool

def resourceIdOf (aclMeta : AclMetadata) (request : Request) : Option String :=
  truthy (request.param ((truthy aclMeta.paramKey).getD "id"))

def aclGuard (allowed : Question) (route : Route) (request : Request) : Except HttpException Bool :=
  match route.acl with
  | none => .ok true
  | some aclMeta => match request.user with
    | none => .error (.forbidden "Authentication required")
    | some user =>
        if user.identityType = .SUPER_ADMIN then .ok true
        else match resourceIdOf aclMeta request with
          | none => .error (.forbidden "Resource ID not found in request")
          | some resourceId =>
              if allowed user.tenantId user.sub aclMeta.action
                (some (aclMeta.resource, resourceId)) then .ok true
              else .error (.forbidden "Insufficient resource ACL")

def textUser (claims : Claims) : Option (JwtPayload String) :=
  claims.user.map fun user => ⟨printUuid user.sub, user.tenantId.map printUuid, user.identityType⟩

def activate (answer : Except HttpException Bool) : Except HttpException Unit := do
  if ← answer then pure () else throw (.forbidden "Forbidden resource")

/-- The guard for the token, one for the permissions of the route and the one for its resource. -/
def guards (jwt : JsonWebToken) (now : Time) (permissionGuard : Request → Except HttpException Bool)
    (allowed : Question) (route : Route) (authHeader : Option String)
    (params : Option (List (String × String))) : Except HttpException Unit := do
  let payload ← jwtAuthGuard jwt now
    ((route.context.getAllAndOverride Metadata.isPublic).getD false) authHeader
  let request : Request := { user := payload.bind textUser, params }
  activate (permissionGuard request)
  activate (aclGuard allowed route request)

def clientGuards (jwt : JsonWebToken) (now : Time) (allowed : Question) (route : Route) :
    Option String → Option (List (String × String)) → Except HttpException Unit :=
  guards jwt now
    (Sdk.canActivate (fun tenantId userId perm => allowed tenantId userId perm none) route.context)
    allowed route

/-- `@UseGuards(IamPermissionGuard, IamAclGuard)`, behind the global `JwtAuthGuard`. -/
def serviceGuards (jwt : JsonWebToken) (now : Time) (allowed : Question) (route : Route) :
    Option String → Option (List (String × String)) → Except HttpException Unit :=
  guards jwt now
    (Service.canActivate (fun tenantId userId perm => allowed tenantId userId perm none) route.context)
    allowed route

/-! The answers. -/

def questionOf (tenantId userId : UuidText) (permission : String)
    (resource : Option (String × String)) : CheckAuthzDto UuidText :=
  ⟨userId, tenantId, permission, resource.map Prod.fst, resource.map Prod.snd⟩

def ServiceAnswers (db : Db) (now : Time) (dto : CheckAuthzDto UuidText) (answer : Bool) : Prop :=
  ∃ cache, Filled db now cache ∧ answer = (check textKeys db now cache dto).1.allowed

/-- A call of `isAllowed`: the tiers read the cache as plain checks have left it at their time,
or fail to. With outages the service may not answer. -/
def ClientAnswers (db : Db) (now : Time) (outages : Prop) (dto : CheckAuthzDto UuidText)
    (answer : Bool) : Prop :=
  ∃ early late cache readPerms readAuthz response, Filled db now early ∧ Filled db now late ∧
    Filled db now cache ∧
    Reads early readPerms ∧ Reads late readAuthz ∧
    ((∃ evaluatedAt envelope,
      response = checkResponse (check textKeys db now cache dto).1 evaluatedAt envelope) ∨
      outages ∧ (response = .unreachable ∨ response = .notOk)) ∧
    answer = isAllowed readPerms readAuthz (fun _ => checkAuthorization response) dto

def Answers (answers : CheckAuthzDto UuidText → Bool → Prop) (allowed : Question) : Prop :=
  ∀ tenantId userId permission resource,
    answers (questionOf tenantId userId permission resource)
      (allowed (some tenantId.text) userId.text permission resource)

section Answers
variable {db : Db} {now : Time} {dto : CheckAuthzDto UuidText} {answer : Bool}

theorem service_exact (plain : PlainRequest dto) (answers : ServiceAnswers db now dto answer) :
    answer = decision db now dto := by
  obtain ⟨cache, filled, rfl⟩ := answers
  exact check_valid filled plain

/-- Without outages the client answers as the database decides, and with them it never allows more. -/
theorem client_exact {outages : Prop} (plain : PlainRequest dto)
    (answers : ClientAnswers db now outages dto answer) :
    answer = decision db now dto ∨ outages ∧ answer = false := by
  obtain ⟨early, late, cache, readPerms, readAuthz, response, filledEarly, filledLate, filled,
    readsPerms, readsAuthz,
    responds, rfl⟩ := answers
  have asked : Call.authz dto ∈ plainCalls := ⟨dto, rfl, plain⟩
  rcases responds with ⟨evaluatedAt, envelope, rfl⟩ | ⟨out, failed⟩
  · have served :
      checkAuthorization (checkResponse (check textKeys db now cache dto).1 evaluatedAt envelope) =
      decision db now dto := by
      rw [checkAuthorization_response, check_valid filled plain]
    exact .inl (isAllowed_valid filledEarly.valid filledLate.valid readsPerms readsAuthz asked served)
  · have refused : checkAuthorization response = false := by
      rcases failed with rfl | rfl
      · rfl
      · rfl
    unfold isAllowed
    rw [getPermsKey_eq, getAuthzKey_eq]
    split
    next allowed settled => exact .inl (tierOne_valid filledEarly.valid readsPerms settled)
    next =>
      split
      next allowed settled => exact .inl (tierTwo_valid filledLate.valid readsAuthz asked settled)
      next => exact .inr ⟨out, refused⟩

end Answers

/-! Who gets past the guards. -/

def uuidText (id : Uuid) : UuidText := ⟨printUuid id, isUuid_printUuid id⟩

def Housed (claims : Claims) : Prop :=
  ∃ user, claims.user = some user ∧
    (user.identityType = .SUPER_ADMIN ∨ ∃ tenantId, user.tenantId = some tenantId)

/-- Such are all claims that the service signs. -/
theorem housed_of_grants {env : BearerTokens.Environment} {arrival : BearerTokens.Arrival} {db : Db}
    {claims : Claims} (grants : BearerTokens.Grants env arrival db claims) : Housed claims := by
  cases grants with
  | login user => exact ⟨⟨user.id, some user.tenantId, .USER⟩, rfl, .inr ⟨user.tenantId, rfl⟩⟩
  | refresh user => exact ⟨⟨user.id, some user.tenantId, .USER⟩, rfl, .inr ⟨user.tenantId, rfl⟩⟩
  | superAdmin superAdmin => exact ⟨⟨superAdmin.id, none, .SUPER_ADMIN⟩, rfl, .inl rfl⟩
  | impersonation user =>
    exact ⟨⟨user.id, some user.tenantId, .IMPERSONATION⟩, rfl, .inr ⟨user.tenantId, rfl⟩⟩

/-- Everything that has been checked about a request that gets past the guards of a route. -/
structure Admitted (grants : UuidText → UuidText → String → Option (String × String) → Prop)
    (jwt : JsonWebToken)
    (now : Time) (route : Route)
    (authHeader : Option String) (params : Option (List (String × String))) (claims : Claims)
    (user : JwtPayload Uuid) : Prop where
  verified : jwtAuthGuard jwt now false authHeader = .ok (some claims)
  known : claims.user = some user
  permissions : user.identityType ≠ .SUPER_ADMIN →
    ∀ perms, route.context.getAllAndOverride Metadata.permissions = some perms → perms ≠ [] →
    isSelf route.context { params } ⟨printUuid user.sub, none, user.identityType⟩ = true ∨
      ∃ tenantId, user.tenantId = some tenantId ∧
        ∀ perm ∈ perms, grants (uuidText tenantId) (uuidText user.sub) perm none
  resource : user.identityType ≠ .SUPER_ADMIN → ∀ aclMeta, route.acl = some aclMeta →
    ∃ resourceId tenantId,
    resourceIdOf aclMeta { params } = some resourceId ∧ user.tenantId = some tenantId ∧
      grants (uuidText tenantId) (uuidText user.sub) aclMeta.action
        (some (aclMeta.resource, resourceId))

section Chains
variable {jwt : JsonWebToken} {now : Time} {allowed : Question} {route : Route}
  {authHeader : Option String}
  {params : Option (List (String × String))} {permissionGuard : Request → Except HttpException Bool}

theorem activate_ok {answer : Except HttpException Bool} :
    activate answer = .ok () ↔ answer = .ok true := by
  cases answer with
  | error error => simp [activate, bind, Except.bind]
  | ok admitted =>
    cases admitted with
    | false => simp [activate, bind, Except.bind, throw, throwThe, MonadExceptOf.throw]
    | true => simp [activate, bind, Except.bind, pure, Except.pure]

theorem activate_bind {answer : Except HttpException Bool} {rest : Except HttpException Unit} :
    (activate answer >>= fun _ => rest) = .ok () ↔ answer = .ok true ∧ rest = .ok () := by
  rw [← activate_ok]
  cases activate answer with
  | error error => simp [bind, Except.bind]
  | ok _ => simp [bind, Except.bind]

/-- Off public routes there is a payload when the first guard has been passed. -/
theorem guards_ok (closed : ¬route.context.IsPublic) :
    guards jwt now permissionGuard allowed route authHeader params = .ok () ↔
    ∃ claims, jwtAuthGuard jwt now false authHeader = .ok (some claims) ∧
      permissionGuard { user := textUser claims, params } = .ok true ∧
      aclGuard allowed route { user := textUser claims, params } = .ok true := by
  have not_public : (route.context.getAllAndOverride Metadata.isPublic).getD false = false := by
    unfold Context.IsPublic at closed
    cases found : route.context.getAllAndOverride Metadata.isPublic with
    | none => rfl
    | some isPublic =>
      rw [found] at closed
      simpa using closed
  unfold guards
  rw [not_public]
  cases verified : jwtAuthGuard jwt now false authHeader with
  | error error => simp [bind, Except.bind]
  | ok payload =>
    cases payload with
    | none =>
      unfold jwtAuthGuard at verified
      simp only [Bool.false_eq_true, if_false] at verified
      split at verified
      · cases verified
      · split at verified
        · cases verified
        · cases verified
    | some claims =>
      have continued : ∀ {rest : Option Claims → Except HttpException Unit},
        ((.ok (some claims) : Except HttpException (Option Claims)) >>= rest) =
          rest (some claims) := rfl
      rw [continued, activate_bind, activate_ok]
      simp

theorem aclGuard_ok {user : JwtPayload String} :
    aclGuard allowed route { user := some user, params } = .ok true ↔
    (user.identityType ≠ .SUPER_ADMIN → ∀ aclMeta, route.acl = some aclMeta →
      ∃ resourceId, resourceIdOf aclMeta { params } =
      some resourceId ∧
      allowed user.tenantId user.sub aclMeta.action (some (aclMeta.resource, resourceId)) = true) := by
  have sameParam : ∀ aclMeta,
    resourceIdOf aclMeta { user := some user, params } = resourceIdOf aclMeta { params } := fun _ => rfl
  unfold aclGuard
  cases asked : route.acl with
  | none => simp
  | some aclMeta =>
    simp only [sameParam, Option.some.injEq, forall_eq']
    by_cases admin : user.identityType = .SUPER_ADMIN
    · simp [admin]
    · cases given : resourceIdOf aclMeta { params } with
      | none => simp [admin]
      | some resourceId =>
        by_cases granted : allowed user.tenantId user.sub aclMeta.action
          (some (aclMeta.resource, resourceId)) = true
        · simp [admin, granted]
        · simp [admin, granted]

def Allows (allowed : Question) (tenantId userId : UuidText) (permission : String)
    (resource : Option (String × String)) : Prop :=
  allowed (some tenantId.text) userId.text permission resource = true

/-- The guards let in exactly those who are admitted by the answers. -/
theorem clientGuards_ok (closed : ¬route.context.IsPublic)
    (housed : ∀ claims, jwtAuthGuard jwt now false authHeader = .ok (some claims) → Housed claims) :
    clientGuards jwt now allowed route authHeader params = .ok () ↔
      ∃ claims user, Admitted (Allows allowed) jwt now route authHeader params claims user := by
  unfold clientGuards
  rw [guards_ok closed]
  constructor
  · intro holds
    obtain ⟨claims, verified, permitted, shared⟩ := holds
    obtain ⟨user, known, home⟩ := housed claims verified
    have text : textUser claims = some ⟨printUuid user.sub, user.tenantId.map printUuid,
      user.identityType⟩ := by rw [textUser, known]; rfl
    rw [text] at permitted shared
    refine ⟨claims, user, verified, known, ?_, ?_⟩
    · intro ordinary perms required some_required
      obtain ⟨tenantId, tenant⟩ := home.resolve_left ordinary
      obtain ⟨_, same, passes⟩ := sdk_admits_iff.mp permitted perms required some_required
      cases same
      rcases passes with admin | self | granted
      · exact absurd admin ordinary
      · exact .inl self
      · refine .inr ⟨tenantId, tenant, ?_⟩
        intro perm member
        have allows := granted perm member
        rw [tenant] at allows
        exact allows
    · intro ordinary aclMeta asked
      obtain ⟨tenantId, tenant⟩ := home.resolve_left ordinary
      obtain ⟨resourceId, given, granted⟩ := aclGuard_ok.mp shared ordinary aclMeta asked
      rw [tenant] at granted
      exact ⟨resourceId, tenantId, given, tenant, granted⟩
  · intro holds
    obtain ⟨claims, user, admitted⟩ := holds
    have text : textUser claims = some ⟨printUuid user.sub, user.tenantId.map printUuid,
        user.identityType⟩ := by
      rw [textUser, admitted.known]
      rfl
    refine ⟨claims, admitted.verified, ?_, ?_⟩
    · rw [text, sdk_admits_iff]
      intro perms required some_required
      refine ⟨_, rfl, ?_⟩
      by_cases admin : user.identityType = .SUPER_ADMIN
      · exact .inl admin
      · rcases admitted.permissions admin perms required some_required with self | ⟨tenantId, tenant,
          granted⟩
        · exact .inr (.inl self)
        · refine .inr (.inr ?_)
          intro perm member
          rw [tenant]
          exact granted perm member
    · rw [text, aclGuard_ok]
      intro ordinary aclMeta asked
      obtain ⟨resourceId, tenantId, given, tenant, granted⟩ := admitted.resource ordinary aclMeta asked
      refine ⟨resourceId, given, ?_⟩
      rw [tenant]
      exact granted

/-- The guards of the service ask in the same places. -/
theorem serviceGuards_eq (closed : ¬route.context.IsPublic) :
    serviceGuards jwt now allowed route authHeader params =
      clientGuards jwt now allowed route authHeader params := by
  unfold serviceGuards clientGuards
  congr 1
  funext request
  exact canActivate_eq closed

/-! The words of a route. -/

/-- Permissions, actions and types of resources without colons, and no resource id that stands
for all. -/
structure Worded (route : Route) (params : Option (List (String × String))) : Prop where
  permissions : ∀ perms, route.context.getAllAndOverride Metadata.permissions = some perms →
    ∀ perm ∈ perms, perm ≠ "" ∧ ':' ∉ perm.toList
  action : ∀ aclMeta, route.acl = some aclMeta → aclMeta.action ≠ "" ∧ ':' ∉ aclMeta.action.toList
  resource : ∀ aclMeta resourceId, route.acl = some aclMeta →
    resourceIdOf aclMeta { params } = some resourceId →
    PlainResource aclMeta.resource resourceId

theorem plain_permission {permission : String} (worded : permission ≠ "" ∧ ':' ∉ permission.toList)
    (tenantId userId : UuidText) :
    PlainRequest (questionOf tenantId userId permission none) := ⟨worded.1, worded.2, .inl ⟨rfl, rfl⟩⟩

theorem plain_resource {permission resourceType resourceId : String}
    (worded : permission ≠ "" ∧ ':' ∉ permission.toList)
    (plain : PlainResource resourceType resourceId) (tenantId userId : UuidText) :
    PlainRequest (questionOf tenantId userId permission (some (resourceType, resourceId))) :=
  ⟨worded.1, worded.2, .inr ⟨resourceType, resourceId, rfl, rfl, plain⟩⟩

/-- Whoever is admitted by some answers is admitted by all that allow as much to plain questions. -/
theorem Admitted.mono
    {grants grants' : UuidText → UuidText → String → Option (String × String) → Prop}
    {claims : Claims} {user : JwtPayload Uuid}
    (admitted : Admitted grants jwt now route authHeader params claims user)
    (worded : Worded route params)
    (more : ∀ tenantId userId permission resource,
      PlainRequest (questionOf tenantId userId permission resource) →
      grants tenantId userId permission resource → grants' tenantId userId permission resource) :
    Admitted grants' jwt now route authHeader params claims user where
  verified := admitted.verified
  known := admitted.known
  permissions := by
    intro ordinary perms required some_required
    rcases admitted.permissions ordinary perms required some_required with self | ⟨tenantId, tenant, granted⟩
    · exact .inl self
    · refine .inr ⟨tenantId, tenant, ?_⟩
      intro perm member
      exact more _ _ perm none (plain_permission (worded.permissions perms required perm member) _ _)
        (granted perm member)
  resource := by
    intro ordinary aclMeta asked
    obtain ⟨resourceId, tenantId, given, tenant, granted⟩ := admitted.resource ordinary aclMeta asked
    refine ⟨resourceId, tenantId, given, tenant, ?_⟩
    exact more _ _ _ _
      (plain_resource (worded.action aclMeta asked)
      (worded.resource aclMeta resourceId asked given) _ _) granted

def Decides (db : Db) (now : Time) (tenantId userId : UuidText) (permission : String)
    (resource : Option (String × String)) : Prop :=
  decision db now (questionOf tenantId userId permission resource) = true

/-- Whatever the caches hold and whichever tier answers, the guards of a client let in exactly
those whom the database admits, as the guards of the service do; during outages they let in
nobody else. -/
theorem guards_decide (db : Db) (closed : ¬route.context.IsPublic) (worded : Worded route params)
    (housed : ∀ claims, jwtAuthGuard jwt now false authHeader = .ok (some claims) → Housed claims) :
    (∀ allowed, Answers (ClientAnswers db now False) allowed →
      (clientGuards jwt now allowed route authHeader params = .ok () ↔
      ∃ claims user, Admitted (Decides db now) jwt now route authHeader params claims user)) ∧
    (∀ allowed, Answers (ServiceAnswers db now) allowed →
      (serviceGuards jwt now allowed route authHeader params = .ok () ↔
      ∃ claims user, Admitted (Decides db now) jwt now route authHeader params claims user)) ∧
    ∀ allowed, Answers (ClientAnswers db now True) allowed →
      clientGuards jwt now allowed route authHeader params = .ok () →
      ∃ claims user, Admitted (Decides db now) jwt now route authHeader params claims user := by
  have exact_ : ∀ {allowed : Question}, (∀ tenantId userId permission resource,
    PlainRequest (questionOf tenantId userId permission resource) →
      allowed (some tenantId.text) userId.text permission resource =
        decision db now (questionOf tenantId userId permission resource)) →
        (clientGuards jwt now allowed route authHeader params = .ok () ↔
          ∃ claims user, Admitted (Decides db now) jwt now route authHeader params claims user) := by
    intro allowed same
    rw [clientGuards_ok closed housed]
    constructor
    · intro holds
      obtain ⟨claims, user, admitted⟩ := holds
      refine ⟨claims, user, admitted.mono worded ?_⟩
      intro tenantId userId permission resource plain allows
      exact (same tenantId userId permission resource plain).symm.trans allows
    · intro holds
      obtain ⟨claims, user, admitted⟩ := holds
      refine ⟨claims, user, admitted.mono worded ?_⟩
      intro tenantId userId permission resource plain decides
      exact (same tenantId userId permission resource plain).trans decides
  refine ⟨?_, ?_, ?_⟩
  · intro allowed answers
    apply exact_
    intro tenantId userId permission resource plain
    exact (client_exact plain (answers tenantId userId permission resource)).resolve_right fun out => out.1
  · intro allowed answers
    rw [serviceGuards_eq closed]
    apply exact_
    intro tenantId userId permission resource plain
    exact service_exact plain (answers tenantId userId permission resource)
  · intro allowed answers passed
    obtain ⟨claims, user, admitted⟩ := (clientGuards_ok closed housed).mp passed
    refine ⟨claims, user, admitted.mono worded ?_⟩
    intro tenantId userId permission resource plain allows
    rcases client_exact plain (answers tenantId userId permission resource) with same | ⟨_, refused⟩
    · exact same.symm.trans allows
    · exact absurd (allows.symm.trans refused) Bool.noConfusion

end Chains

/-! Ada asks for Bob's record, which takes the permission, for the route and for the record. -/

section Example
open BearerTokens (plainJwt plainJwt_opens plainJwt_adas adasClaims)
open Reactivation (office)

def askService (db : Db) (now : Time) : Question := fun tenantId userId permission resource =>
  if shapes : tenantId.any isUuid = true ∧ isUuid userId = true then
    let dto :=
      questionOf
      ⟨tenantId.getD
      "", by cases tenantId with | none => simp at shapes | some _ => simpa using shapes.1⟩
      ⟨userId, shapes.2⟩ permission resource
    isAllowed (fun _ => .failed) (fun _ => .failed)
      (fun _ => checkAuthorization (checkResponse (check textKeys db now Store.empty dto).1 "" .null)) dto
  else false

theorem askService_answers (db : Db) (now : Time) :
    Answers (ClientAnswers db now False) (askService db now) := by
  intro tenantId userId permission resource
  have shapes : (some tenantId.text).any isUuid = true ∧ isUuid userId.text = true :=
    ⟨tenantId.wellFormed, userId.wellFormed⟩
  have unread : Reads (Store.empty : Cache String) fun _ => .failed := fun _ => trivial
  refine ⟨Store.empty, Store.empty, Store.empty, _, _, _, filled_empty, filled_empty,
    filled_empty, unread, unread,
    .inl ⟨"", .null, rfl⟩, ?_⟩
  rw [askService, dif_pos shapes]
  rfl

def record : Route where
  context := { handler := { permissions := some ["user.write"] } }
  handlerAcl := some { resource := "user", action := "user.write" }

theorem record_worded : Worded record (some [("id", "31")]) where
  permissions := by
    intro perms required perm member
    cases required
    rw [List.mem_singleton.mp member]
    decide
  action := by
    intro aclMeta asked
    cases asked
    decide
  resource := by
    intro aclMeta resourceId asked given
    cases asked
    cases given
    exact ⟨by decide, by decide, by decide, by decide, by decide⟩

def adasHeader (jwt : JsonWebToken) : String := "Bearer " ++ jwt.sign adasClaims 1 900

theorem adasHeader_housed {jwt : JsonWebToken} (opens : jwt.Opens)
    (unspaced : ' ' ∉ (jwt.sign adasClaims 1 900).toList) (claims : Claims)
    (verified : jwtAuthGuard jwt 1000 false (some (adasHeader jwt)) = .ok (some claims)) :
    Housed claims := by
  have early : (BearerTokens.seconds 1000 : Int) < ((1 : Nat) : Int) + 900 := by decide
  rw [adasHeader, BearerTokens.jwtAuthGuard_signed opens unspaced early] at verified
  cases verified
  exact ⟨⟨22, some 21, .USER⟩, rfl, .inr ⟨21, rfl⟩⟩

/-- Ada may write users, whichever is at hand. -/
theorem ada_decides (resource : Option (String × String)) :
    Decides office 1000 (uuidText 21) (uuidText 22) "user.write" resource := by
  have asked : ∀ id, Identifier.value (uuidText id) = id := fun id => toUuid_printUuid id
  have held : PermissionMatcher.hasPermission
    (EffectivePermissions.effectiveCodes office 1000 22 21) "user.write" = true := by decide
  unfold Decides decision questionOf
  rw [asked, asked, held]
  rfl

theorem ada_admitted :
    Admitted (Decides office 1000) plainJwt 1000 record (some (adasHeader plainJwt))
      (some [("id", "31")])
    adasClaims ⟨22, some 21, .USER⟩ where
  verified := BearerTokens.jwtAuthGuard_signed plainJwt_opens plainJwt_adas (by decide)
  known := rfl
  permissions := by
    intro _ perms required _
    cases required
    refine .inr ⟨21, rfl, fun perm member => ?_⟩
    rw [List.mem_singleton.mp member]
    exact ada_decides _
  resource := by
    intro _ aclMeta asked
    cases asked
    exact ⟨"31", 21, by decide, rfl, ada_decides _⟩

/-- Ada's request for Bob's record is let in. -/
theorem guards_decide_record :
    clientGuards plainJwt 1000 (askService office 1000) record (some (adasHeader plainJwt))
    (some [("id", "31")]) = .ok () := by
  have closed : ¬record.context.IsPublic := by
    intro open_
    cases open_
  have decides :=
    guards_decide office closed record_worded (adasHeader_housed plainJwt_opens plainJwt_adas)
  exact (decides.1 _ (askService_answers office 1000)).mpr ⟨_, _, ada_admitted⟩

end Example
end GenericIam.GuardChains
