import GenericIam.Chronicles
import GenericIam.LiveAccounts
import GenericIam.Privileges

/-! The whole way of a request: the bearer token in its header, the claims that are read from it,
and what the service does for them. Whoever is let in as a principal goes back to a password. -/

namespace GenericIam.BearerTokens
open Table Database Identifiers CacheKeys AuthorizationCheck Transaction Handlers RbacServices
open AccountServices AuthService Operations Guards Controllers SuperAdminRequests Runs Chronicles
open PrincipalLogin (Principal Stored IsActive)
open LiveAccounts (ImpersonateDto)
open Privileges (State)

structure Claims where
  payload : AccessPayload
  impersonatorId : Option Uuid := none
  deriving DecidableEq

/-- `jsonwebtoken` with the secret of the deployment: signing at a second of the clock for a
number of seconds, and what is read from a text that is accepted. A text without a subject is
not accepted. -/
structure JsonWebToken where
  sign : Claims → Nat → Int → String
  verify : Nat → String → Option Claims

/-- A signed text is accepted, for what has been signed, until it expires. -/
def JsonWebToken.Opens (jwt : JsonWebToken) : Prop :=
  ∀ claims iat life clock,
    jwt.verify clock (jwt.sign claims iat life) =
      if (clock : Int) < iat + life then some claims else none

def seconds (now : Time) : Nat := now / 1000

def bearerToken (authHeader : String) : Option String :=
  ((authHeader.toList.splitOn ' ').map String.ofList)[1]?

def startsWithBearer (authHeader : String) : Bool := "Bearer ".toList.isPrefixOf authHeader.toList

def jwtAuthGuard (jwt : JsonWebToken) (now : Time) (isPublic : Bool) (authHeader : Option String) :
    Except HttpException (Option Claims) :=
  if isPublic then .ok none
  else
    match authHeader.filter startsWithBearer with
    | none => .error (.unauthorized "Missing or invalid authorization header")
    | some header =>
        match (bearerToken header).bind (jwt.verify (seconds now)) with
        | none => .error (.unauthorized "Invalid token")
        | some payload => .ok (some payload)

def IdentityType.ofText (text : String) : Option IdentityType :=
  [.USER, .SUPER_ADMIN, .IMPERSONATION].find? (·.text == text)

def Claims.user (claims : Claims) : Option (JwtPayload Uuid) :=
  (IdentityType.ofText claims.payload.identityType).map fun identityType =>
    ⟨claims.payload.sub, claims.payload.tenantId, identityType⟩

def Claims.superAdmin (claims : Claims) : Option Uuid :=
  claims.user.bind fun user =>
    match identityTypeGuard [.SUPER_ADMIN] user with
    | .ok () => some user.sub
    | .error _ => none

def Claims.tenantPrincipal (claims : Claims) : Option (TenantPrincipal Uuid) :=
  claims.user.bind fun user =>
    user.tenantId.bind fun tenantId =>
      if ordinary : user.identityType ≠ .SUPER_ADMIN then
        some ⟨user.sub, tenantId, user.identityType, ordinary⟩ else none

/-! Requests as they arrive. -/

inductive Call where
  | login (dto : LoginDto)
  | refresh (refreshToken : String)
  | impersonate (dto : ImpersonateDto)
  | superAdmin (operation : SuperAdminOperation Uuid)
  | tenant (route : Route Uuid)
  | checkAcl (dto : CheckAclDto Uuid)

def Call.isPublic : Call → Bool
  | .login _ | .refresh _ => true
  | _ => false

/-- A request with its header, the clock and what is drawn at random while it is served. -/
structure Arrival where
  authHeader : Option String
  draw : Draw
  ids : Nat → Uuid
  call : Call

def Arrival.now (arrival : Arrival) : Time := arrival.draw.now

/-- The secret and what the services need. The signing of the services is that of `jwt`. -/
structure Environment where
  jwt : JsonWebToken
  services : LiveAccounts.Environment

def Environment.clocked (env : Environment) (now : Time) : LiveAccounts.Environment :=
  { env.services with
    auth :=
      { env.services.auth with sign := fun payload life => env.jwt.sign ⟨payload, none⟩ (seconds now) life }
    signImpersonation := fun payload superAdminId life =>
      env.jwt.sign ⟨payload, some superAdminId⟩ (seconds now) life }

def Arrival.presents (env : Environment) (arrival : Arrival) : Option Claims :=
  match jwtAuthGuard env.jwt arrival.now arrival.call.isPublic arrival.authHeader with
  | .ok payload => payload
  | .error _ => none

/-- What is done for a request: a step of the accounts, at a time, or a step of the rest. -/
inductive Act where
  | account (now : Time) (step : LiveAccounts.Step)
  | access (step : Privileges.Step)

/-- None when the guards refuse. The guards of the tenant routes are part of their step. -/
def Arrival.act (env : Environment) (arrival : Arrival) : Option Act :=
  match arrival.call with
  | .login dto => some (.account arrival.now (.login arrival.draw dto))
  | .refresh refreshToken =>
      some (.account arrival.now (.refresh arrival.now arrival.draw refreshToken))
  | .impersonate dto =>
      ((arrival.presents env).bind Claims.superAdmin).map fun superAdminId =>
        .account arrival.now (.impersonate dto superAdminId)
  | .superAdmin operation =>
      ((arrival.presents env).bind Claims.superAdmin).map fun superAdminId =>
        .access (.superAdmin arrival.ids superAdminId operation)
  | .tenant route =>
      ((arrival.presents env).bind Claims.tenantPrincipal).map fun user =>
        .access (.request arrival.ids arrival.now user route)
  | .checkAcl dto => ((arrival.presents env).bind Claims.tenantPrincipal).map fun user =>
      .access (.aclCheck user.tenantId dto)

/-- Requests arrive, expired assignments are purged, checks are asked for, which is public, and
the cache loses entries. -/
inductive Step where
  | arrives (arrival : Arrival)
  | purges (ids : Nat → Uuid) (now : Time)
  | checks (now : Time) (dto : CheckAuthzDto Uuid)
  | loses (gone : CacheKey → Bool)

def Step.act (env : Environment) : Step → Option Act
  | .arrives arrival => arrival.act env
  | .purges ids now => some (.access (.purge ids now))
  | .checks now dto => some (.access (.check now dto))
  | .loses gone => some (.access (.forget gone))

def Act.next (env : Environment) : Act → State → State
  | .account now made, state => { state with db := made.next (env.clocked now) state.db }
  | .access made, state => made.next env.services.operations state

def Step.next (env : Environment) (step : Step) (state : State) : State :=
  ((step.act env).map fun act => act.next env state).getD state

inductive Acts (env : Environment) : Step → Act → Prop where
  | login (arrival : Arrival) (dto : LoginDto) (called : arrival.call = .login dto) :
      Acts env (.arrives arrival) (.account arrival.now (.login arrival.draw dto))
  | refresh (arrival : Arrival) (refreshToken : String)
      (called : arrival.call = .refresh refreshToken) :
      Acts env (.arrives arrival)
        (.account arrival.now (.refresh arrival.now arrival.draw refreshToken))
  | impersonate (arrival : Arrival) (dto : ImpersonateDto) (own : Claims) (superAdminId : Uuid)
      (called : arrival.call = .impersonate dto)
      (presented : arrival.presents env = some own) (admitted : own.superAdmin = some superAdminId) :
      Acts env (.arrives arrival) (.account arrival.now (.impersonate dto superAdminId))
  | superAdmin (arrival : Arrival) (operation : SuperAdminOperation Uuid) (superAdminId : Uuid) :
      Acts env (.arrives arrival) (.access (.superAdmin arrival.ids superAdminId operation))
  | tenant (arrival : Arrival) (route : Route Uuid) (own : Claims) (user : TenantPrincipal Uuid)
      (called : arrival.call = .tenant route)
      (presented : arrival.presents env = some own) (admitted : own.tenantPrincipal = some user) :
      Acts env (.arrives arrival) (.access (.request arrival.ids arrival.now user route))
  | checkAcl (arrival : Arrival) (dto : CheckAclDto Uuid) (tenantId : Uuid) :
      Acts env (.arrives arrival) (.access (.aclCheck tenantId dto))
  | purges (ids : Nat → Uuid) (now : Time) : Acts env (.purges ids now) (.access (.purge ids now))
  | checks (now : Time) (dto : CheckAuthzDto Uuid) :
      Acts env (.checks now dto) (.access (.check now dto))
  | loses (gone : CacheKey → Bool) : Acts env (.loses gone) (.access (.forget gone))

theorem acts_of_act {env : Environment} {step : Step} {act : Act} (made : step.act env = some act) :
    Acts env step act := by
  cases step with
  | purges ids now =>
    cases made
    exact .purges ids now
  | checks now dto =>
    cases made
    exact .checks now dto
  | loses gone =>
    cases made
    exact .loses gone
  | arrives arrival =>
    simp only [Step.act, Arrival.act] at made
    cases called : arrival.call with
    | login dto =>
      rw [called] at made
      cases made
      exact .login arrival dto called
    | refresh refreshToken =>
      rw [called] at made
      cases made
      exact .refresh arrival refreshToken called
    | impersonate dto =>
      rw [called] at made
      obtain ⟨superAdminId, admitted, same⟩ := Option.map_eq_some_iff.mp made
      obtain ⟨own, presented, passed⟩ := Option.bind_eq_some_iff.mp admitted
      cases same
      exact .impersonate arrival dto own superAdminId called presented passed
    | superAdmin operation =>
      rw [called] at made
      obtain ⟨superAdminId, _, same⟩ := Option.map_eq_some_iff.mp made
      cases same
      exact .superAdmin arrival operation superAdminId
    | tenant route =>
      rw [called] at made
      obtain ⟨user, admitted, same⟩ := Option.map_eq_some_iff.mp made
      obtain ⟨own, presented, passed⟩ := Option.bind_eq_some_iff.mp admitted
      cases same
      exact .tenant arrival route own user called presented passed
    | checkAcl dto =>
      rw [called] at made
      obtain ⟨user, _, same⟩ := Option.map_eq_some_iff.mp made
      cases same
      exact .checkAcl arrival dto user.tenantId

def Step.answer (env : Environment) (step : Step) (state : State) : Option String :=
  match step.act env with
  | some (.account now step) => step.token (env.clocked now) state.db
  | _ => none

abbrev Past : Type := List (Step × State)

/-- Every token that is accepted has been given out in an earlier step. -/
def Unforged (env : Environment) (step : Step) (chronicle : Chronicle State Step) : Prop :=
  ∀ arrival claims, step = .arrives arrival → arrival.presents env = some claims →
    ∃ earlier ∈ chronicle.past, earlier.1.answer env earlier.2 = arrival.authHeader.bind bearerToken

/-! Who answers for a token. -/

inductive Account where
  | user (id : Uuid)
  | superAdmin (id : Uuid)
  deriving DecidableEq

def account : Principal → Account
  | .inl user => .user user.id
  | .inr superAdmin => .superAdmin superAdmin.id

/-- The impersonator answers for an impersonation. -/
def Claims.bearer (claims : Claims) : Account :=
  match claims.impersonatorId with
  | some superAdminId => .superAdmin superAdminId
  | none => if claims.payload.identityType = "SUPER_ADMIN" then .superAdmin claims.payload.sub
      else .user claims.payload.sub

def Knows (env : Environment) (dto : LoginDto) (db : Db) (bearer : Account) : Prop :=
  ∃ principal, Stored db principal ∧ IsActive principal ∧ PrincipalLogin.email principal = dto.email ∧
    env.services.auth.comparePassword dto.password (PrincipalLogin.passwordHash principal) = true ∧
      account principal = bearer

def LoggedIn (env : Environment) (bearer : Account) (past : Past) : Prop :=
  ∃ arrival dto state, (.arrives arrival, state) ∈ past ∧ arrival.call = .login dto ∧
    Knows env dto state.db bearer

def Entitled (env : Environment) (start : Db) (past : Past) (bearer : Account) : Prop :=
  LoggedIn env bearer past ∨ ∃ token ∈ start.refreshTokens, bearer = .user token.userId

def lifetime (env : Environment) (claims : Claims) : Int :=
  if claims.impersonatorId.isSome then env.services.impersonationTtl.getD 1800
  else env.services.auth.accessLifetime

def userClaims (user : UserEntity) : Claims := ⟨⟨user.id, user.email, some user.tenantId, "USER"⟩, none⟩

def superAdminClaims (superAdmin : SuperAdminEntity) : Claims :=
  ⟨⟨superAdmin.id, superAdmin.email, none, "SUPER_ADMIN"⟩, none⟩

def impersonationClaims (user : UserEntity) (superAdminId : Uuid) : Claims :=
  ⟨⟨user.id, user.email, some user.tenantId, "IMPERSONATION"⟩, some superAdminId⟩

/-- Why a request is answered with a token for the claims: they are those of an account as it
is found, which is active unless a super admin asks to impersonate it. -/
inductive Grants (env : Environment) (arrival : Arrival) (db : Db) : Claims → Prop where
  | login {dto : LoginDto} (user : UserEntity) (stored : user ∈ db.users)
      (active : user.isActive = true)
      (called : arrival.call = .login dto) (knows : Knows env dto db (.user user.id)) :
        Grants env arrival db (userClaims user)
  | refresh {refreshToken : String} (user : UserEntity) (stored : user ∈ db.users)
      (active : user.isActive = true)
      (called : arrival.call = .refresh refreshToken) (token : RefreshTokenEntity)
        (present : token ∈ db.refreshTokens)
      (presented : LiveAccounts.Presented (env.clocked arrival.now) arrival.now refreshToken token)
        (own : user.id = token.userId) :
      Grants env arrival db (userClaims user)
  | superAdmin {dto : LoginDto} (superAdmin : SuperAdminEntity) (stored : superAdmin ∈ db.superAdmins)
      (active : superAdmin.isActive = true)
      (called : arrival.call = .login dto) (knows : Knows env dto db (.superAdmin superAdmin.id)) :
      Grants env arrival db (superAdminClaims superAdmin)
  | impersonation {reason : String} (user : UserEntity) (stored : user ∈ db.users) (own : Claims)
      (superAdminId : Uuid)
      (called : arrival.call = .impersonate ⟨user.id, user.tenantId, reason⟩)
        (presented : arrival.presents env = some own)
      (admitted : own.superAdmin = some superAdminId) :
        Grants env arrival db (impersonationClaims user superAdminId)

/-! What a step answers with. -/

section Answers
variable {env : Environment} {arrival : Arrival} {db : Db} {token : String} {claims : Claims}

theorem presents_some (presented : arrival.presents env = some claims) :
    ∃ text, arrival.authHeader.bind bearerToken = some text ∧
      env.jwt.verify (seconds arrival.now) text = some claims := by
  unfold Arrival.presents jwtAuthGuard at presented
  cases public_ : arrival.call.isPublic with
  | true => simp [public_] at presented
  | false =>
    cases given : arrival.authHeader.filter startsWithBearer with
    | none => simp only [public_, given, Bool.false_eq_true, if_false, reduceCtorEq] at presented
    | some header =>
      have sent : arrival.authHeader = some header := (Option.filter_eq_some_iff.mp given).1
      cases read : (bearerToken header).bind (env.jwt.verify (seconds arrival.now)) with
      | none =>
        simp only [public_, given, read, Bool.false_eq_true, if_false, reduceCtorEq] at presented
      | some payload =>
        simp only [public_, given, read, Bool.false_eq_true, if_false, Option.some.injEq] at presented
        subst presented
        obtain ⟨text, piece, accepted⟩ := Option.bind_eq_some_iff.mp read
        exact ⟨text, by rw [sent]; exact piece, accepted⟩

theorem bearerToken_header (unspaced : ' ' ∉ token.toList) :
    startsWithBearer ("Bearer " ++ token) = true ∧ bearerToken ("Bearer " ++ token) = some token := by
  have letters : ("Bearer " ++ token).toList = "Bearer".toList ++ ' ' :: token.toList := by simp
  constructor
  · rw [startsWithBearer, letters, List.isPrefixOf_iff_prefix]
    exact ⟨token.toList, by simp⟩
  · rw [bearerToken, letters, List.splitOn_append_cons_self_of_not_mem (by decide),
      List.splitOn_eq_singleton unspaced]
    simp

/-- Whoever sends a token back is let in with it until it expires. -/
theorem jwtAuthGuard_signed {jwt : JsonWebToken} (opens : jwt.Opens) {now : Time} {iat : Nat}
    {life : Int} (unspaced : ' ' ∉ (jwt.sign claims iat life).toList)
    (early : (seconds now : Int) < iat + life) :
    jwtAuthGuard jwt now false (some ("Bearer " ++ jwt.sign claims iat life)) = .ok (some claims) := by
  obtain ⟨starts, piece⟩ := bearerToken_header unspaced
  have accepted : jwt.verify (seconds now) (jwt.sign claims iat life) = some claims := by
    rw [opens, if_pos early]
  simp only [jwtAuthGuard, Option.filter, starts, piece, Option.bind_some, accepted, if_true,
    Bool.false_eq_true, if_false]

theorem presents_signed (opens : env.jwt.Opens) {iat : Nat} {life : Int}
    (closed : arrival.call.isPublic = false)
    (sent : arrival.authHeader = some ("Bearer " ++ env.jwt.sign claims iat life))
    (unspaced : ' ' ∉ (env.jwt.sign claims iat life).toList)
    (early : (seconds arrival.now : Int) < iat + life) : arrival.presents env = some claims := by
  rw [Arrival.presents, closed, sent, jwtAuthGuard_signed opens unspaced early]

theorem authenticate_stored {auth : AuthService.Environment} {dto : LoginDto} {principal : Principal}
    (passed : authenticate auth dto db = .ok principal) :
    Stored db principal ∧ IsActive principal ∧ PrincipalLogin.email principal = dto.email ∧
      auth.comparePassword dto.password (PrincipalLogin.passwordHash principal) = true := by
  have checked : ∀ {isActive : Bool} {hash inactive : String},
    checkAccount auth dto isActive hash inactive = .ok () →
      isActive = true ∧ auth.comparePassword dto.password hash = true := by
    intro isActive hash inactive accepted
    unfold checkAccount at accepted
    split at accepted
    · cases accepted
    · next active =>
      split at accepted
      · next same => exact ⟨by simpa using active, same⟩
      · cases accepted
  unfold authenticate at passed
  split at passed
  · next user found =>
    obtain ⟨member, matched⟩ := findOne_some found
    cases answer : checkUser auth dto user with
    | error error =>
      rw [answer] at passed
      cases passed
    | ok _ =>
      rw [answer] at passed
      cases passed
      exact ⟨member, (checked answer).1, beq_iff_eq.mp matched, (checked answer).2⟩
  · split at passed
    · cases passed
    · next superAdmin found =>
      obtain ⟨member, matched⟩ := findOne_some found
      cases answer : checkSuperAdmin auth dto superAdmin with
      | error error =>
        rw [answer] at passed
        cases passed
      | ok _ =>
        rw [answer] at passed
        cases passed
        exact ⟨member, (checked answer).1, beq_iff_eq.mp matched, (checked answer).2⟩

theorem generateTokens_signed {auth : AuthService.Environment} {draw : Draw} {user : UserEntity}
    (answered : (generateTokens auth draw user db).1.toOption.map TokenResponseDto.accessToken =
      some token) :
    token = auth.sign ⟨user.id, user.email, some user.tenantId, "USER"⟩ auth.accessLifetime := by
  unfold generateTokens at answered
  split at answered
  · cases answered
    rfl
  · cases answered

/-- What a step signs are claims of an account. -/
theorem answer_grants {step : Step} {state : State} (answered : step.answer env state = some token) :
    ∃ arrival claims, step = .arrives arrival ∧
      token = env.jwt.sign claims (seconds arrival.now) (lifetime env claims) ∧
      Grants env arrival state.db claims := by
  unfold Step.answer at answered
  cases made : step.act env with
  | none =>
    rw [made] at answered
    cases answered
  | some act =>
    rw [made] at answered
    cases acts_of_act made with
    | login arrival dto called =>
      simp only [LiveAccounts.Step.token, AuthService.login] at answered
      cases passed : authenticate (env.clocked arrival.now).auth dto state.db with
      | error error =>
        rw [passed] at answered
        cases answered
      | ok principal =>
        rw [passed] at answered
        obtain ⟨stored, active, known⟩ := authenticate_stored passed
        have knows : Knows env dto state.db (account principal) :=
          ⟨principal, stored, active, known.1, known.2, rfl⟩
        cases principal with
        | inl user =>
          exact ⟨arrival, userClaims user, rfl, generateTokens_signed answered,
            .login user stored active called knows⟩
        | inr superAdmin =>
          cases answered
          exact ⟨arrival, superAdminClaims superAdmin, rfl, rfl,
            .superAdmin superAdmin stored active called knows⟩
    | refresh arrival refreshToken called =>
      simp only [LiveAccounts.Step.token, AuthService.refresh] at answered
      cases passed : redeem (env.clocked arrival.now).auth arrival.now refreshToken state.db with
      | mk outcome rest =>
        rw [passed] at answered
        cases outcome with
        | error error => cases answered
        | ok user =>
          obtain ⟨stored, active, row, present, presented, own⟩ := LiveAccounts.redeem_user passed
          exact ⟨arrival, userClaims user, rfl, generateTokens_signed answered,
            .refresh user stored active called row present presented own⟩
    | impersonate arrival dto own superAdminId called presented admitted =>
      simp only [LiveAccounts.Step.token, LiveAccounts.impersonate] at answered
      cases found : state.db.users.findOne fun user =>
          user.id == dto.userId && user.tenantId == dto.tenantId with
      | none =>
        rw [found] at answered
        cases answered
      | some user =>
        rw [found] at answered
        cases answered
        obtain ⟨stored, matched⟩ := findOne_some found
        simp only [Bool.and_eq_true, beq_iff_eq] at matched
        have asked : arrival.call = .impersonate ⟨user.id, user.tenantId, dto.reason⟩ := by
          rw [called, matched.1, matched.2]
        exact ⟨arrival, impersonationClaims user superAdminId, rfl, rfl,
          .impersonation user stored own superAdminId asked presented admitted⟩
    | _ => cases answered

end Answers

/-! Refresh tokens are stored by logins and refreshes alone. -/

section RefreshTokens
variable {db db' : Db}

def Tokenless : Write → Prop
  | .insertRefreshToken _ => False
  | _ => True

theorem fewerTokens_apply {session : Session} {write : Write} (tokenless : Tokenless write)
    (applied : write.apply session db = some db') :
    ∀ row ∈ db'.refreshTokens, row ∈ db.refreshTokens := by
  have frame := sameBut_apply applied
  cases write with
  | insertRefreshToken _ => exact tokenless.elim
  | deleteRefreshToken id =>
    cases applied
    exact fun row member => (mem_select.mp member).1
  | deleteRefreshTokensOf id =>
    cases applied
    exact fun row member => (mem_select.mp member).1
  | _ =>
    rw [frame.refreshTokens (by simp [Write.changes])]
    exact fun _ member => member

theorem fewerTokens_serve {α : Type} {session : Session} {ids : Nat → Uuid} {handler : Handler Uuid α}
    (sends : Sends Tokenless Tokenless handler) :
    ∀ row ∈ (serve (engine Uuid session) ids handler db).db.refreshTokens, row ∈ db.refreshTokens := by
  refine @serve_sends _ _ _ _ _ (fun after => ∀ row ∈ after.refreshTokens,
      row ∈ db.refreshTokens) _ _ _ sends db (fun _ member =>
    member) ?_ ?_
  · intro write before after tokenless kept sent row member
    exact kept row (fewerTokens_apply tokenless (send_ok sent) row member)
  · intro write before after tokenless kept sent row member
    exact kept row (fewerTokens_apply tokenless (send_ok sent) row member)

theorem sends_createTenantWithAdmin {good goodDetached : Write → Prop}
    (hashPassword : String → String) (dto : CreateTenantDto) (actorId : Uuid)
    (tenants : ∀ row, good (.insertTenant row)) (users : ∀ row, good (.insertUser row))
    (userRoles : ∀ row, good (.insertUserRole row)) :
    Sends good goodDetached (createTenantWithAdmin hashPassword dto actorId) := by
  apply sends_visible
  intro db
  refine sends_bind (sends_refuseIf _ _) ?_
  intro _
  apply sends_newId
  intro tenantId
  refine sends_bind (sends_persist (tenants _)) ?_
  intro _
  apply sends_newId
  intro userId
  refine sends_bind (sends_persist (users _)) ?_
  intro _
  apply sends_visible
  intro db
  split
  · trivial
  · apply sends_newId
    intro assignmentId
    exact sends_bind (sends_persist (userRoles _)) fun _ => trivial

theorem fewerTokens_request (env : Operations.Environment) (request : Request Uuid) (db : Db) :
    ∀ row ∈ (request.serve env db).2.refreshTokens, row ∈ db.refreshTokens := by
  have frame := sameBut_serve env request db
  cases admitted : request.guards with
  | error refused =>
    rw [Request.serve_refused admitted]
    exact fun _ member => member
  | ok _ =>
    cases route : request.route with
    | updateStatus id isActive =>
      rw [Request.serve_admitted admitted, route]
      exact fewerTokens_serve
        (sends_setActivation id _ isActive _ (fun _ => trivial) (fun _ _ => trivial) trivial)
    | logout =>
      rw [Request.serve_admitted admitted, route]
      exact fewerTokens_serve (sends_logout _ _ trivial)
    | _ =>
      rw [frame.refreshTokens (by simp [route, Route.changes])]
      exact fun _ member => member

theorem fewerTokens_access (env : Operations.Environment) (step : Privileges.Step) (state : State) :
    ∀ row ∈ (step.next env state).db.refreshTokens, row ∈ state.db.refreshTokens := by
  cases step with
  | request ids now user route => exact fewerTokens_request env _ _
  | superAdmin ids actorId operation =>
    cases operation with
    | createTenantWithAdmin dto =>
      exact fewerTokens_serve
          (sends_bind (sends_createTenantWithAdmin _ _ _ (fun _ => trivial) (fun _ => trivial) fun _ =>
        trivial) fun _ => trivial)
    | updateTenant id dto =>
      exact fewerTokens_serve
        (sends_bind (sends_updateTenant _ _ _ (fun _ => trivial) fun _ _ => trivial) fun _ => trivial)
    | deactivateTenant id =>
      apply fewerTokens_serve
      refine sends_bind (sends_findTenant _) ?_
      intro tenant
      exact sends_bind (sends_saveTenant _ trivial fun _ => trivial) fun _ => trivial
  | purge ids now => exact fewerTokens_serve (sends_persist trivial)
  | check _ _ | aclCheck _ _ | forget _ => exact fun _ member => member

theorem generated_row {auth : AuthService.Environment} {draw : Draw} {user : UserEntity}
    {row : RefreshTokenEntity} (member : row ∈ (generateTokens auth draw user db).2.refreshTokens) :
    row ∈ db.refreshTokens ∨ row.userId = user.id := by
  unfold generateTokens at member
  split at member
  · next inserted =>
    obtain ⟨tokens, added, rfl⟩ := insertRefreshToken_some inserted
    rcases (mem_insert added).mp member with old | new
    · exact .inl old
    · exact .inr (by rw [new]; rfl)
  · exact .inl member

theorem redeemed_row {auth : AuthService.Environment} {now : Time} {refreshToken : String}
    {row : RefreshTokenEntity} (member : row ∈ (redeem auth now refreshToken db).2.refreshTokens) :
    row ∈ db.refreshTokens := by
  unfold redeem at member
  split at member
  · exact member
  · split at member
    · exact (mem_select.mp member).1
    · split at member
      · exact member
      · exact (mem_select.mp member).1

end RefreshTokens

/-! Runs. -/

section Runs
variable {env : Environment} {start : Db} {past more : Past}
  {chronicle : Chronicle State Step} {step : Step}
  {arrival : Arrival} {claims : Claims}

/-- A refresh token after a step was there, or is that of a user who has logged in, or has
taken the place of another one of its user. -/
theorem next_tokens {state : State} {row : RefreshTokenEntity}
    (member : row ∈ (step.next env state).db.refreshTokens) :
    (∃ arrival dto, step = .arrives arrival ∧ arrival.call = .login dto ∧
      Knows env dto state.db (.user row.userId)) ∨
      ∃ old ∈ state.db.refreshTokens, old.userId = row.userId := by
  have stays : row ∈ state.db.refreshTokens → ∃ old ∈ state.db.refreshTokens, old.userId = row.userId :=
    fun old => ⟨row, old, rfl⟩
  unfold Step.next at member
  cases made : step.act env with
  | none =>
    rw [made] at member
    exact .inr (stays member)
  | some act =>
    rw [made] at member
    simp only [Option.map_some, Option.getD_some] at member
    cases acts_of_act made with
    | login arrival dto called =>
      simp only [Act.next, LiveAccounts.Step.next, AuthService.login] at member
      cases passed : authenticate (env.clocked arrival.now).auth dto state.db with
      | error error =>
        rw [passed] at member
        exact .inr (stays member)
      | ok principal =>
        rw [passed] at member
        obtain ⟨stored, active, known⟩ := authenticate_stored passed
        cases principal with
        | inr superAdmin => exact .inr (stays member)
        | inl user =>
          rcases generated_row member with old | own
          · exact .inr (stays old)
          · refine .inl ⟨arrival, dto, rfl, called, .inl user, stored, active, known.1, known.2, ?_⟩
            rw [own]
            rfl
    | refresh arrival refreshToken called =>
      simp only [Act.next, LiveAccounts.Step.next, AuthService.refresh] at member
      cases passed : redeem (env.clocked arrival.now).auth arrival.now refreshToken state.db with
      | mk outcome rest =>
        have before : ∀ old ∈ rest.refreshTokens, old ∈ state.db.refreshTokens := by
          intro old present
          apply @redeemed_row _ (env.clocked arrival.now).auth arrival.now refreshToken
          rw [passed]
          exact present
        rw [passed] at member
        cases outcome with
        | error error => exact .inr (stays (before row member))
        | ok user =>
          rcases generated_row member with old | own
          · exact .inr (stays (before row old))
          · obtain ⟨_, _, token, present, _, owner⟩ := LiveAccounts.redeem_user passed
            exact .inr ⟨token, present, owner.symm.trans own.symm⟩
    | impersonate arrival => exact .inr (stays member)
    | superAdmin _ _ _ | tenant _ _ _ _ _ _ _ | checkAcl _ _ _ | purges _ _ | checks _ _ | loses _ =>
      exact .inr (stays (fewerTokens_access _ _ _ row member))

theorem Entitled.mono {bearer : Account} (entitled : Entitled env start past bearer)
    (longer : ∀ entry ∈ past, entry ∈ more) :
    Entitled env start more bearer := by
  rcases entitled with ⟨arrival, dto, state, member, called, knows⟩ | before
  · exact .inl ⟨arrival, dto, state, longer _ member, called, knows⟩
  · exact .inr before

/-- An accepted token is an answer to an earlier request, of what it says and not long ago. -/
theorem presented_granted (opens : env.jwt.Opens) (unforged : Unforged env (.arrives arrival) chronicle)
    (presented : arrival.presents env = some claims) :
    ∃ earlier state token, (.arrives earlier, state) ∈ chronicle.past ∧
      (Step.arrives earlier).answer env state = some token ∧
      arrival.authHeader.bind bearerToken = some token ∧
        env.jwt.verify (seconds arrival.now) token = some claims ∧
      Grants env earlier state.db claims ∧
        (seconds arrival.now : Int) < seconds earlier.now + lifetime env claims := by
  obtain ⟨⟨made, state⟩, member, answered⟩ := unforged arrival claims rfl presented
  obtain ⟨token, shown, accepted⟩ := presents_some presented
  rw [shown] at answered
  obtain ⟨earlier, signed, rfl, rfl, grants⟩ := answer_grants answered
  have lasts := accepted
  rw [opens] at lasts
  split at lasts
  · next early =>
    cases lasts
    exact ⟨earlier, state, _, member, answered, shown, accepted, grants, early⟩
  · cases lasts

/-- Only the claims of super admins pass for those of a super admin. -/
theorem Grants.superAdmin_bearer {db : Db} {superAdminId : Uuid} (grants : Grants env arrival db claims)
    (admitted : claims.superAdmin = some superAdminId) : claims.bearer = .superAdmin superAdminId := by
  cases grants with
  | superAdmin superAdmin stored active called knows =>
    cases admitted
    rfl
  | login user | refresh user | impersonation user => cases admitted

/-- What a run keeps to: refresh tokens and answers are those of accounts that have logged in. -/
structure Rooted (env : Environment) (start : Db) (chronicle : Chronicle State Step) : Prop where
  tokens : ∀ row ∈ chronicle.state.db.refreshTokens,
    Entitled env start chronicle.past (.user row.userId)
  answers : ∀ entry ∈ chronicle.past, ∀ token clock claims, entry.1.answer env entry.2 = some token →
    env.jwt.verify clock token = some claims → Entitled env start chronicle.past claims.bearer

theorem rooted_start (state : State) : Rooted env state.db ⟨state, []⟩ where
  tokens row member := .inr ⟨row, member, rfl⟩
  answers _ member := absurd member List.not_mem_nil

/-- Who is granted claims is entitled to them once the request is recorded. -/
theorem Grants.entitled (opens : env.jwt.Opens) (rooted : Rooted env start chronicle)
    (unforged : Unforged env (.arrives arrival) chronicle)
    (grants : Grants env arrival chronicle.state.db claims) :
    Entitled env start (record (Step.next env) (.arrives arrival) chronicle).past claims.bearer := by
  have here :
    (Step.arrives arrival,
    chronicle.state) ∈ (record (Step.next env) (.arrives arrival) chronicle).past :=
    List.mem_append_right _ List.mem_cons_self
  have earlier : ∀ entry ∈ chronicle.past,
    entry ∈ (record (Step.next env) (.arrives arrival) chronicle).past :=
    fun entry member => List.mem_append_left _ member
  cases grants with
  | login user stored active called knows =>
    exact .inl ⟨arrival, _, chronicle.state, here, called, knows⟩
  | superAdmin superAdmin stored active called knows =>
    exact .inl ⟨arrival, _, chronicle.state, here, called, knows⟩
  | refresh user stored active called token present presented own =>
    have owner := rooted.tokens token present
    rw [← own] at owner
    exact owner.mono earlier
  | impersonation user stored own superAdminId called presented admitted =>
    obtain ⟨_, _, token, member, answered, _, accepted, granted, _⟩ :=
      presented_granted opens unforged presented
    have entitled := rooted.answers _ member token _ own answered accepted
    rw [granted.superAdmin_bearer admitted] at entitled
    exact entitled.mono earlier

theorem rooted_step (opens : env.jwt.Opens) (rooted : Rooted env start chronicle)
    (unforged : Unforged env step chronicle) :
    Rooted env start (record (Step.next env) step chronicle) := by
  have here : (step, chronicle.state) ∈ (record (Step.next env) step chronicle).past :=
    List.mem_append_right _ List.mem_cons_self
  have earlier : ∀ entry ∈ chronicle.past, entry ∈ (record (Step.next env) step chronicle).past :=
    fun entry member => List.mem_append_left _ member
  constructor
  · intro row member
    rcases next_tokens member with ⟨arrival, dto, rfl, called, knows⟩ | ⟨old, present, same⟩
    · exact .inl ⟨arrival, dto, chronicle.state, here, called, knows⟩
    · rw [← same]
      exact (rooted.tokens old present).mono earlier
  · intro entry member token clock claims answered accepted
    rcases List.mem_append.mp member with old | new
    · exact (rooted.answers entry old token clock claims answered accepted).mono earlier
    · rw [List.mem_singleton.mp new] at answered
      obtain ⟨arrival, signed, rfl, rfl, grants⟩ := answer_grants answered
      rw [opens] at accepted
      split at accepted
      · cases accepted
        exact grants.entitled opens rooted unforged
      · cases accepted

/-- What stands behind the claims with which a request is let in: the bearer has logged in,
and the token that the request bears is the answer to an earlier one, which was granted the
claims within their lifetime. -/
structure Backed (env : Environment) (start : Db) (past : Past) (arrival : Arrival)
    (claims : Claims) : Prop where
  entitled : Entitled env start past claims.bearer
  answered : ∃ earlier state token, (.arrives earlier, state) ∈ past ∧
    (Step.arrives earlier).answer env state = some token ∧
    arrival.authHeader.bind bearerToken = some token ∧ Grants env earlier state.db claims ∧
    (seconds arrival.now : Int) < seconds earlier.now + lifetime env claims

theorem presented_backed (opens : env.jwt.Opens) (rooted : Rooted env start chronicle)
    (unforged : Unforged env (.arrives arrival) chronicle)
    (presented : arrival.presents env = some claims) :
    Backed env start chronicle.past arrival claims := by
  obtain ⟨earlier, state, token, member, answered, shown, accepted, granted, early⟩ :=
    presented_granted opens unforged presented
  exact ⟨rooted.answers _ member token _ claims answered accepted, earlier, state, token, member,
    answered, shown, granted, early⟩

/-- Nobody gets past the guard as a principal whose password has not been presented before, be
it that of the user or of the super admin who impersonates him; and the token that is borne is
an answer of the service, given to an account for what it was less than a lifetime ago. -/
theorem principals_backed (opens : env.jwt.Opens) {start : State} {steps : List Step}
    (unforged : EveryStep (record (Step.next env)) (Unforged env) ⟨start, []⟩ steps) :
    EveryStep (record (Step.next env)) (fun step chronicle => ∀ arrival claims,
      step = .arrives arrival →
      arrival.presents env = some claims → Backed env start.db chronicle.past arrival claims)
        ⟨start, []⟩ steps := by
  have along := everyStep_along unforged (rooted_start start) fun step chronicle rooted true_ =>
    rooted_step opens rooted true_
  apply along.mono
  intro step chronicle both arrival claims arrives presented
  obtain ⟨rooted, unforged⟩ := both
  subst arrives
  exact presented_backed opens rooted unforged presented

end Runs

/-! The office again: Ada logs in, and deactivates Bob with her token. -/

section Example
open Reactivation (office countedFrom)
open LiveAccounts (officeEnvironment)

/-! Claims in plain text, field by field. -/

def field (text : List Char) : List Char := text.flatMap (fun letter => ['.', letter]) ++ ['|']

def readField : List Char → Option (List Char × List Char)
  | '.' :: letter :: rest => (readField rest).map fun found => (letter :: found.1, found.2)
  | '|' :: rest => some ([], rest)
  | _ => none

theorem readField_field (text rest : List Char) :
    readField (field text ++ rest) = some (text, rest) := by
  induction text with
  | nil => rfl
  | cons letter text ih =>
    have front : field (letter :: text) ++ rest = '.' :: letter :: (field text ++ rest) := by simp [field]
    rw [front, readField, ih]
    rfl

def readFields : Nat → List Char → Option (List (List Char))
  | 0, _ => some []
  | count + 1, letters => (readField letters).bind fun found =>
    (readFields count found.2).map (found.1 :: ·)

theorem readFields_fields (texts : List (List Char)) :
    readFields texts.length (texts.flatMap field) = some texts := by
  induction texts with
  | nil => rfl
  | cons text texts ih =>
    rw [List.flatMap_cons, List.length_cons, readFields, readField_field]
    simp [ih]

def tally (count : Nat) : List Char := List.replicate count '1'

def idTally (id : Option Uuid) : List Char := tally (id.elim 0 fun id => id.toNat + 1)

def readId (text : List Char) : Option Uuid :=
  if text = [] then none else some (BitVec.ofNat 128 (text.length - 1))

theorem readId_idTally (id : Option Uuid) : readId (idTally id) = id := by
  cases id with
  | none => rfl
  | some id => simp [readId, idTally, tally]

def claimTexts (claims : Claims) (iat : Nat) (life : Int) : List (List Char) :=
  [idTally (some claims.payload.sub), claims.payload.email.toList, idTally claims.payload.tenantId,
    claims.payload.identityType.toList,
    idTally claims.impersonatorId, tally iat, tally life.toNat, tally (-life).toNat]

def readClaims : List (List Char) → Option (Claims × Int)
  | [sub, email, tenantId, identityType, impersonatorId, iat, gain, loss] =>
      (readId sub).map fun sub =>
        (⟨⟨sub, String.ofList email, readId tenantId, String.ofList identityType⟩,
        readId impersonatorId⟩,
        iat.length + (gain.length - loss.length))
  | _ => none

def plainJwt : JsonWebToken where
  sign claims iat life := String.ofList ((claimTexts claims iat life).flatMap field)
  verify clock text :=
    ((readFields 8 text.toList).bind readClaims).bind fun found => if (clock : Int) < found.2 then
    some found.1 else none

theorem plainJwt_opens : plainJwt.Opens := by
  intro claims iat life clock
  have fields : readFields 8 ((claimTexts claims iat life).flatMap field) =
    some (claimTexts claims iat life) :=
      readFields_fields (claimTexts claims iat life)
  have read : readClaims (claimTexts claims iat life) = some (claims, iat + life) := by
    have ends : (iat : Int) + (life.toNat - (-life).toNat) = iat + life := by omega
    simp only [readClaims, claimTexts, readId_idTally, Option.map_some, tally, List.length_replicate,
      String.ofList_toList, ends]
  simp [plainJwt, fields, read]

theorem plainJwt_unspaced {claims : Claims} {iat : Nat} {life : Int}
    (email : ' ' ∉ claims.payload.email.toList)
    (identityType : ' ' ∉ claims.payload.identityType.toList) :
    ' ' ∉ (plainJwt.sign claims iat life).toList := by
  simp [plainJwt, claimTexts, field, idTally, tally, email, identityType]

def signedOffice (jwt : JsonWebToken) : Environment := ⟨jwt, officeEnvironment⟩

def adasLogin : Arrival :=
  ⟨none, RefreshTokens.drawn 1, countedFrom 41, .login ⟨"ada@acme.io", "secret"⟩⟩

def adasClaims : Claims := ⟨⟨22, "ada@acme.io", some 21, "USER"⟩, none⟩

def bearing (jwt : JsonWebToken) (claims : Claims) (digit : BitVec 8) (call : Call) : Arrival :=
  ⟨some ("Bearer " ++ jwt.sign claims 1 900), RefreshTokens.drawn digit, countedFrom 41, call⟩

theorem adasLogin_answer (jwt : JsonWebToken) :
    (Step.arrives adasLogin).answer (signedOffice jwt) ⟨office, .empty⟩ =
    some (jwt.sign adasClaims 1 900) :=
  rfl

theorem adasLogin_unforged (jwt : JsonWebToken) (chronicle : Chronicle State Step) :
    Unforged (signedOffice jwt) (.arrives adasLogin) chronicle := by
  intro arrival claims same presented
  cases same
  cases presented

theorem bearing_unforged {jwt : JsonWebToken} {claims : Claims}
    (unspaced : ' ' ∉ (jwt.sign claims 1 900).toList) {digit : BitVec 8} {call : Call}
    {chronicle : Chronicle State Step} {login : Arrival} {state : State}
    (answered : (Step.arrives login).answer (signedOffice jwt) state = some (jwt.sign claims 1 900))
    (member : (.arrives login, state) ∈ chronicle.past) :
    Unforged (signedOffice jwt) (.arrives (bearing jwt claims digit call)) chronicle := by
  intro arrival presented same _
  cases same
  exact ⟨_, member, answered.trans (bearerToken_header unspaced).2.symm⟩

theorem bearing_presents {jwt : JsonWebToken} {claims : Claims} (opens : jwt.Opens)
    (unspaced : ' ' ∉ (jwt.sign claims 1 900).toList) (digit : BitVec 8) {call : Call}
    (closed : call.isPublic = false) :
    (bearing jwt claims digit call).presents (signedOffice jwt) = some claims := by
  have early : (seconds (bearing jwt claims digit call).now : Int) < ((1 : Nat) : Int) + 900 := by
    have clock : seconds (bearing jwt claims digit call).now = 1 := by
      simp [seconds, Arrival.now, bearing, RefreshTokens.drawn]
    rw [clock]
    omega
  exact @presents_signed (signedOffice jwt) _ claims opens 1 900 closed rfl unspaced early

theorem plainJwt_adas :
    ' ' ∉ (plainJwt.sign adasClaims 1 900).toList := plainJwt_unspaced (by decide) (by decide)

def bobsDeactivation (jwt : JsonWebToken) : Arrival :=
  bearing jwt adasClaims 2 (.tenant (.updateStatus 31 false))

theorem principals_backed_ada :
    (bobsDeactivation plainJwt).presents (signedOffice plainJwt) = some adasClaims ∧
    EveryStep (record (Step.next (signedOffice plainJwt))) (fun step chronicle => ∀ arrival claims,
      step = .arrives arrival →
      arrival.presents (signedOffice plainJwt) = some claims →
        Backed (signedOffice plainJwt) office chronicle.past arrival claims)
      ⟨⟨office, .empty⟩, []⟩ [.arrives adasLogin, .arrives (bobsDeactivation plainJwt)] := by
  refine ⟨bearing_presents plainJwt_opens plainJwt_adas 2 rfl,
    @principals_backed (signedOffice plainJwt) plainJwt_opens ⟨office, .empty⟩ _ ?_⟩
  exact ⟨adasLogin_unforged plainJwt _,
    bearing_unforged plainJwt_adas (adasLogin_answer plainJwt) (List.mem_singleton_self _), trivial⟩

end Example
end GenericIam.BearerTokens
