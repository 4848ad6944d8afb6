import GenericIam.PrincipalLogin
import GenericIam.Reactivation

/-! For whom access tokens are issued, and whether a deactivated account or tenant still
gets one. -/

namespace GenericIam.LiveAccounts
open Table Database Identifiers Transaction Handlers
open RbacServices AccountServices Operations AuthService Runs
open Reactivation (Reactivated)

structure ImpersonateDto where
  userId : Uuid
  tenantId : Uuid
  reason : String
  deriving DecidableEq

structure ImpersonationResponse where
  accessToken : String
  expiresIn : Int
  deriving DecidableEq

/-- The signing of the tokens of impersonators and their configured lifetime, next to
what the other services need. -/
structure Environment where
  auth : AuthService.Environment
  operations : Operations.Environment
  signImpersonation : AccessPayload → Uuid → Int → String
  impersonationTtl : Option Int := none

def impersonate (env : Environment) (dto : ImpersonateDto) (superAdminId : Uuid) (db : Db) :
    Except HttpException ImpersonationResponse :=
  match db.users.findOne fun user => user.id == dto.userId && user.tenantId == dto.tenantId with
  | none => .error (.notFound "Target user not found")
  | some targetUser =>
      let payload : AccessPayload :=
        ⟨targetUser.id, targetUser.email, some targetUser.tenantId, "IMPERSONATION"⟩
      let accessTtl := env.impersonationTtl.getD 1800
      .ok ⟨env.signImpersonation payload superAdminId accessTtl, accessTtl⟩

/-! Runs. -/

inductive Step where
  | login (draw : Draw) (dto : LoginDto)
  | refresh (now : Time) (draw : Draw) (refreshToken : String)
  | impersonate (dto : ImpersonateDto) (superAdminId : Uuid)
  | logout (userId : Uuid)
  | request (ids : Nat → Uuid) (tenantId actorId : Uuid) (operation : Operation Uuid)
  | createTenant (ids : Nat → Uuid) (dto : CreateTenantDto) (actorId : Uuid)
  | updateTenant (ids : Nat → Uuid) (id : Uuid) (dto : UpdateTenantDto) (actorId : Uuid)
  | deactivateTenant (ids : Nat → Uuid) (id actorId : Uuid)

def Step.token (env : Environment) (db : Db) : Step → Option String
  | .login draw dto =>
    (AuthService.login env.auth draw dto db).1.toOption.map TokenResponseDto.accessToken
  | .refresh now draw refreshToken =>
    (AuthService.refresh env.auth now draw refreshToken db).1.toOption.map TokenResponseDto.accessToken
  | .impersonate dto superAdminId =>
      (LiveAccounts.impersonate env dto superAdminId db).toOption.map ImpersonationResponse.accessToken
  | _ => none

def Step.served (env : Environment) (db : Db) : Step → Option (Except HttpException Unit × Db)
  | .request ids tenantId actorId operation =>
      let served :=
        serve (engine Uuid (.tenantUser tenantId)) ids
        (operation.handler env.operations tenantId actorId) db
      some (served.result, served.db)
  | .createTenant ids dto actorId =>
      let served :=
        serve (engine Uuid .bypassRls) ids
        (createTenantWithAdmin env.operations.hashPassword dto actorId) db
      some (served.result.map fun _ => (), served.db)
  | .updateTenant ids id dto actorId =>
      let served := serve (engine Uuid .bypassRls) ids (AccountServices.updateTenant id dto actorId) db
      some (served.result.map fun _ => (), served.db)
  | .deactivateTenant ids id actorId =>
      let served := serve (engine Uuid .bypassRls) ids (AccountServices.deactivateTenant id actorId) db
      some (served.result, served.db)
  | _ => none

def Step.next (env : Environment) (step : Step) (db : Db) : Db :=
  match step with
  | .login draw dto => (AuthService.login env.auth draw dto db).2
  | .refresh now draw refreshToken => (AuthService.refresh env.auth now draw refreshToken db).2
  | .impersonate _ _ => db
  | .logout userId => AuthService.logout userId db
  | operation => ((operation.served env db).map Prod.snd).getD db

inductive Signs (env : Environment) : String → AccessPayload → Prop where
  | access (payload : AccessPayload) (life : Int) : Signs env (env.auth.sign payload life) payload
  | impersonation (payload : AccessPayload) (superAdminId : Uuid) (life : Int) :
      Signs env (env.signImpersonation payload superAdminId life) payload

def Readable (env : Environment) : Prop :=
  ∀ token first second, Signs env token first → Signs env token second → first.sub = second.sub ∧
    first.tenantId = second.tenantId

def Issues (env : Environment) (step : Step) (db : Db) (userId tenantId : Uuid) : Prop :=
  ∃ token payload, step.token env db = some token ∧ Signs env token payload ∧ payload.sub = userId ∧
    payload.tenantId = some tenantId

def ActiveUser (db : Db) (userId tenantId : Uuid) : Prop :=
  ∃ user ∈ db.users, user.id = userId ∧ user.tenantId = tenantId ∧ user.isActive = true

def ActiveTenant (db : Db) (tenantId : Uuid) : Prop :=
  ∃ tenant ∈ db.tenants, tenant.id = tenantId ∧ tenant.isActive = true

/-- The account and its tenant are active. -/
def Live (db : Db) (userId tenantId : Uuid) : Prop :=
  ActiveUser db userId tenantId ∧ ActiveTenant db tenantId

def Presented (env : Environment) (now : Time) (refreshToken : String)
    (token : RefreshTokenEntity) : Prop :=
  ∃ userIdPart secret, readToken refreshToken = some (userIdPart, secret) ∧
    env.auth.readUuid userIdPart = some token.userId ∧
    env.auth.comparePassword secret token.tokenHash = true ∧ now ≤ token.expiresAt

/-- The accounts that a step may issue a token for are not all live: one whose password
or refresh token is presented has a tenant that is not active, or one that is to be
impersonated is not active itself or has such a tenant. -/
def Unchecked (env : Environment) (db : Db) : Step → Prop
  | .login _ dto => ∃ user ∈ db.users, user.email = dto.email ∧ user.isActive = true ∧
      env.auth.comparePassword dto.password user.passwordHash = true ∧ ¬ActiveTenant db user.tenantId
  | .refresh now _ refreshToken => ∃ token ∈ db.refreshTokens, Presented env now refreshToken token ∧
      ∃ user ∈ db.users, user.id = token.userId ∧ user.isActive = true ∧ ¬ActiveTenant db user.tenantId
  | .impersonate dto _ => ∃ user ∈ db.users, user.id = dto.userId ∧ user.tenantId = dto.tenantId ∧
      ¬(user.isActive = true ∧ ActiveTenant db user.tenantId)
  | _ => False

section Step
variable {env : Environment} {db : Db} {userId tenantId : Uuid}

theorem Readable.user (readable : Readable env) {token : String} {payload signed : AccessPayload}
    (signs : Signs env token payload) (issued : Signs env token signed)
    (subject : payload.sub = userId) (tenant : payload.tenantId = some tenantId) :
    signed.sub = userId ∧ signed.tenantId = some tenantId := by
  obtain ⟨sub, own⟩ := readable token payload signed signs issued
  exact ⟨sub.symm.trans subject, own.symm.trans tenant⟩

theorem generateTokens_token {draw : Draw} {user : UserEntity} {token : String}
    (answered : (generateTokens env.auth draw user db).1.toOption.map TokenResponseDto.accessToken =
      some token) :
    Signs env token ⟨user.id, user.email, some user.tenantId, "USER"⟩ := by
  unfold generateTokens at answered
  split at answered
  · cases answered
    exact .access _ _
  · cases answered

theorem authenticate_user {dto : LoginDto} {user : UserEntity}
    (passed : authenticate env.auth dto db = .ok (.inl user)) :
    user ∈ db.users ∧ user.email = dto.email ∧ user.isActive = true ∧
      env.auth.comparePassword dto.password user.passwordHash = true := by
  unfold authenticate at passed
  split at passed
  · next found here =>
    obtain ⟨member, matched⟩ := findOne_some here
    unfold checkUser checkAccount at passed
    split at passed
    · cases passed
    · next active =>
      split at passed
      · next accepted =>
        cases passed
        exact ⟨member, by simpa using matched, by simpa using active, accepted⟩
      · cases passed
  · split at passed
    · cases passed
    · next superAdmin _ =>
      cases checked : checkSuperAdmin env.auth dto superAdmin with
      | error error =>
        rw [checked] at passed
        cases passed
      | ok _ =>
        rw [checked] at passed
        cases passed

theorem redeem_user {now : Time} {refreshToken : String} {user : UserEntity} {rest : Db}
    (passed : redeem env.auth now refreshToken db = (.ok user, rest)) :
    user ∈ db.users ∧ user.isActive = true ∧ ∃ token ∈ db.refreshTokens,
      Presented env now refreshToken token ∧ user.id = token.userId := by
  unfold redeem at passed
  split at passed
  · cases passed
  · next secret token found =>
    split at passed
    · cases passed
    · split at passed
      · cases passed
      · next owner active =>
        cases passed
        unfold activeOwner at active
        obtain ⟨here, flagged⟩ := Option.filter_eq_some_iff.mp active
        obtain ⟨member, matched⟩ := findOne_some here
        obtain ⟨stored, opened⟩ := RefreshTokens.findValidToken_ok found
        refine ⟨member, flagged, token, stored, ?_, by simpa using matched⟩
        unfold findValidToken at found
        split at found
        · cases found
        · next userIdPart actualToken read =>
          split at found
          · cases found
          · next ownerId named =>
            simp only at found
            split at found
            · next matching =>
              cases found
              have asked := (mem_find.mp (List.mem_of_find?_eq_some matching)).2
              rw [beq_iff_eq] at asked
              exact ⟨userIdPart, secret,
                read, by rw [named, asked], opened, Nat.le_of_not_lt (by assumption)⟩
            · cases found

/-- One step. -/
theorem live_of_issues (readable : Readable env) {step : Step} (checked : ¬Unchecked env db step)
    (issues : Issues env step db userId tenantId) : Live db userId tenantId := by
  obtain ⟨token, payload, answered, signs, subject, tenant⟩ := issues
  have live : ∀ user ∈ db.users, Signs env token ⟨user.id, user.email, some user.tenantId, "USER"⟩ ∨
      Signs env token ⟨user.id, user.email, some user.tenantId, "IMPERSONATION"⟩ →
        user.isActive = true → ActiveTenant db user.tenantId →
        Live db userId tenantId := by
    intro user member issued active home
    have own : user.id = userId ∧ some user.tenantId = some tenantId := by
      rcases issued with access | impersonated
      · exact readable.user signs access subject tenant
      · exact readable.user signs impersonated subject tenant
    obtain ⟨same, sameTenant⟩ := own
    cases sameTenant
    exact ⟨⟨user, member, same, rfl, active⟩, home⟩
  cases step with
  | login draw dto =>
    simp only [Step.token, AuthService.login] at answered
    cases passed : authenticate env.auth dto db with
    | error error =>
      rw [passed] at answered
      cases answered
    | ok principal =>
      rw [passed] at answered
      cases principal with
      | inl user =>
        obtain ⟨member, email, active, accepted⟩ := authenticate_user passed
        refine live user member (.inl (generateTokens_token answered)) active ?_
        by_contra inactive
        exact checked ⟨user, member, email, active, accepted, inactive⟩
      | inr superAdmin =>
        cases answered
        have none := (readable.user signs (.access _ _) subject tenant).2
        cases none
  | refresh now draw refreshToken =>
    simp only [Step.token, AuthService.refresh] at answered
    cases passed : redeem env.auth now refreshToken db with
    | mk outcome rest =>
      rw [passed] at answered
      cases outcome with
      | error error => cases answered
      | ok user =>
        obtain ⟨member, active, stored, present, presented, owner⟩ := redeem_user passed
        refine live user member (.inl (generateTokens_token answered)) active ?_
        by_contra inactive
        exact checked ⟨stored, present, presented, user, member, owner, active, inactive⟩
  | impersonate dto superAdminId =>
    simp only [Step.token, LiveAccounts.impersonate] at answered
    cases found : db.users.findOne fun user =>
        user.id == dto.userId && user.tenantId == dto.tenantId with
    | none =>
      rw [found] at answered
      cases answered
    | some user =>
      rw [found] at answered
      cases answered
      obtain ⟨member, matched⟩ := findOne_some found
      simp only [Bool.and_eq_true, beq_iff_eq] at matched
      have both : user.isActive = true ∧ ActiveTenant db user.tenantId := by
        by_contra dead
        exact checked ⟨user, member, matched.1, matched.2, dead⟩
      exact live user member (.inr (.impersonation _ _ _)) both.1 both.2
  | _ => cases answered

end Step

/-! A flag that has been taken away stays away until somebody sets it again. -/

def InactiveUser (db : Db) (userId : Uuid) : Prop :=
  ∃ user ∈ db.users, user.id = userId ∧ user.isActive = false

def InactiveTenant (db : Db) (tenantId : Uuid) : Prop :=
  ∃ tenant ∈ db.tenants, tenant.id = tenantId ∧ tenant.isActive = false

def TenantReactivated (db db' : Db) (tenantId : Uuid) : Prop :=
  InactiveTenant db tenantId ∧ ActiveTenant db' tenantId

def DeactivatesUser (env : Environment) (step : Step) (db : Db) (userId : Uuid) : Prop :=
  ∃ ids tenantId actorId, step = .request ids tenantId actorId (.setActivation userId false) ∧
    (step.served env db).map Prod.fst = some (.ok ())

def DeactivatesTenant (env : Environment) (step : Step) (db : Db) (tenantId : Uuid) : Prop :=
  ∃ ids actorId, step = .deactivateTenant ids tenantId actorId ∧
    (step.served env db).map Prod.fst = some (.ok ())

section Flags
variable {env : Environment} {db : Db} {userId tenantId : Uuid}

/-- A step sends statements and does nothing else to the database. -/
theorem next_keeps {invariant : Db → Prop}
    (keeps : ∀ session (write : Write) db db', invariant db →
      write.apply session db = some db' → invariant db')
    (step : Step) (start : invariant db) : invariant (step.next env db) := by
  have served : ∀ {α : Type} {session : Session} {ids : Nat → Uuid} (handler : Handler Uuid α),
      invariant (serve (engine Uuid session) ids handler db).db := by
    intro α session ids handler
    apply serve_keeps _ _ handler start
    · intro write before after held sent
      exact keeps session write before after held (send_ok sent)
    · intro write before after held sent
      exact keeps .bypassRls write before after held (send_ok sent)
  have tokens : ∀ {draw : Draw} {user : UserEntity} {db : Db}, invariant db →
      invariant (generateTokens env.auth draw user db).2 := by
    intro draw user db held
    unfold generateTokens
    split
    · next after inserted => exact keeps .bypassRls (.insertRefreshToken _) db after held inserted
    · exact held
  have dropped : ∀ (id : Uuid), invariant (db.deleteRefreshToken id) := by
    intro id
    exact keeps .bypassRls (.deleteRefreshToken id) db _ start rfl
  cases step with
  | login draw dto =>
    simp only [Step.next, AuthService.login]
    split
    · exact tokens start
    · exact start
    · exact start
  | refresh now draw refreshToken =>
    have redeemed : invariant (redeem env.auth now refreshToken db).2 := by
      unfold redeem
      split
      · exact start
      · split
        · exact dropped _
        · split
          · exact start
          · exact dropped _
    simp only [Step.next, AuthService.refresh]
    split
    · next passed =>
      rw [passed] at redeemed
      exact tokens redeemed
    · next passed =>
      rw [passed] at redeemed
      exact redeemed
  | impersonate dto superAdminId => exact start
  | logout userId => exact keeps .bypassRls (.deleteRefreshTokensOf userId) db _ start rfl
  | request ids tenantId actorId operation => exact served _
  | createTenant ids dto actorId => exact served _
  | updateTenant ids id dto actorId => exact served _
  | deactivateTenant ids id actorId => exact served _

theorem user_next (step : Step) (present : ∃ user ∈ db.users, user.id = userId) :
    ∃ user ∈ (step.next env db).users, user.id = userId := by
  refine @next_keeps env db (fun db => ∃ user ∈ db.users, user.id = userId) ?_ step present
  intro session write before after held applied
  obtain ⟨old, member, same⟩ := held
  obtain ⟨user, there, kept, _⟩ := users_kept applied member
  exact ⟨user, there, kept.trans same⟩

theorem tenant_next (step : Step) (present : ∃ tenant ∈ db.tenants, tenant.id = tenantId) :
    ∃ tenant ∈ (step.next env db).tenants, tenant.id = tenantId := by
  refine @next_keeps env db (fun db => ∃ tenant ∈ db.tenants, tenant.id = tenantId) ?_ step present
  intro session write before after held applied
  obtain ⟨old, member, same⟩ := held
  obtain ⟨tenant, there, kept⟩ := tenants_kept applied member
  exact ⟨tenant, there, kept.trans same⟩

theorem inactiveUser_next {step : Step} (inactive : InactiveUser db userId)
    (still : ¬Reactivated db (step.next env db) userId) :
    InactiveUser (step.next env db) userId := by
  obtain ⟨old, member, same, off⟩ := inactive
  obtain ⟨user, there, kept⟩ := @user_next env _ _ step ⟨old, member, same⟩
  refine ⟨user, there, kept, ?_⟩
  by_contra on
  rw [Bool.not_eq_false] at on
  exact still ⟨⟨old, member, same, off⟩, user, there, kept, on⟩

theorem inactiveTenant_next {step : Step} (inactive : InactiveTenant db tenantId)
    (still : ¬TenantReactivated db (step.next env db) tenantId) :
    InactiveTenant (step.next env db) tenantId := by
  obtain ⟨old, member, same, off⟩ := inactive
  obtain ⟨tenant, there, kept⟩ := @tenant_next env _ _ step ⟨old, member, same⟩
  refine ⟨tenant, there, kept, ?_⟩
  by_contra on
  rw [Bool.not_eq_false] at on
  exact still ⟨⟨old, member, same, off⟩, tenant, there, kept, on⟩

theorem not_live_of_inactiveUser (inactive : InactiveUser db userId) : ¬Live db userId tenantId := by
  intro live
  obtain ⟨old, member, same, off⟩ := inactive
  obtain ⟨⟨user, there, key, _, on⟩, _⟩ := live
  rw [eq_of_key_eq member there (same.trans key.symm), on] at off
  cases off

theorem not_live_of_inactiveTenant (inactive : InactiveTenant db tenantId) :
    ¬Live db userId tenantId := by
  intro live
  obtain ⟨old, member, same, off⟩ := inactive
  obtain ⟨_, tenant, there, key, on⟩ := live
  rw [eq_of_key_eq member there (same.trans key.symm), on] at off
  cases off

def Switched (db : Db) (userId : Uuid) (isActive : Bool) (db' : Db) : Prop :=
  ∃ user ∈ db.users, user.id = userId ∧
    ∀ row, row ∈ db'.users ↔ (row ∈ db.users ∧ row.id ≠ userId) ∨ row = { user with isActive }

theorem Switched.of_users {before after after' : Db} {isActive : Bool}
    (switched : Switched before userId isActive after) (same : after'.users = after.users) :
    Switched before userId isActive after' := by
  unfold Switched
  rw [same]
  exact switched

theorem wp_switched {Id : Type} [Identifier Id] [DecidableEq Id] {home : Id} {ids : Nat → Uuid}
    {tx : Tx (effects Id) Db} (id : Id) (isActive : Bool) (actorId : Id) :
    wp (engine Id (.tenantUser (value home))) ids ⟨fun _ _ => True, fun _ _ => True⟩
      (setActivation id home isActive actorId)
      (fun _ after => Switched tx.db (value id) isActive after.db) (fun _ _ => True) tx := by
  unfold setActivation findUser saveUser
  simp only [wp_bind, wp_visible]
  refine wp_orThrow ?_ fun _ => trivial
  intro user found
  obtain ⟨visible, matched⟩ := findOne_some found
  have same : user.id = value id := by simpa using matched
  rw [wp_bind]
  refine wp_refuseIf ?_ fun _ => trivial
  intro _
  simp only [wp_bind, wp_visible]
  have again : (shown (.tenantUser (value home)) tx.db).users.findOne (fun row =>
      row.id == user.id) = some user := by
    refine findOne_of_mem visible (by simp) ?_
    intro other hit
    have equal : other.id = user.id := by simpa using hit
    exact equal
  rw [again]
  refine wp_persist trivial ?_ trivial
  intro db applied
  have switched : Switched tx.db (value id) isActive db := by
    obtain ⟨member, own⟩ := mem_seen_users.mp visible
    have changed := Reactivation.changedColumns_apply user { user with isActive }
    cases updateUser_some applied
    refine ⟨user, member, same, ?_⟩
    intro row
    have rows : row ∈ tx.db.users.modify (fun row => row.id == user.id &&
      (Session.tenantUser (value home)).admits row.tenantId)
        (changedColumns user { user with isActive }).apply (fun _ => rfl) ↔
          (row ∈ tx.db.users ∧ row.id ≠ user.id) ∨
              row = (changedColumns user { user with isActive }).apply user := by
      refine mem_modify_one _ member (by simp [Session.admits, own]) ?_
      intro other _ hit
      simp only [Bool.and_eq_true, beq_iff_eq] at hit
      exact hit.1
    rw [changed] at rows
    rw [← same]
    exact rows
  cases isActive with
  | true => exact switched
  | false =>
    simp only [Bool.not_false, if_true, wp_bind]
    refine wp_attemptDetached trivial ?_ ?_
    · intro after dropped
      have applied : (Write.deleteRefreshTokensOf (value id)).apply .bypassRls db = some after :=
        send_ok dropped
      exact switched.of_users ((sameBut_apply applied).users (by simp [Write.changes]))
    · intro _ _
      trivial

/-- A deactivation that succeeds has cleared the flag. -/
theorem wp_deactivation {Id : Type} [Identifier Id] [DecidableEq Id] {home : Id} {ids : Nat → Uuid}
    {tx : Tx (effects Id) Db} (id actorId : Id) :
    wp (engine Id (.tenantUser (value home))) ids ⟨fun _ _ => True, fun _ _ => True⟩
      (setActivation id home false actorId)
      (fun _ after => InactiveUser after.db (value id)) (fun _ _ => True) tx := by
  refine wp_mono (wp_switched id false actorId) ?_ fun _ _ _ => trivial
  intro _ after switched
  obtain ⟨user, _, same, rows⟩ := switched
  exact ⟨{ user with isActive := false }, (rows _).mpr (.inr rfl), same, rfl⟩

theorem wp_deactivateTenant {Id : Type} [Identifier Id] {ids : Nat → Uuid} {tx : Tx (effects Id) Db}
    (id actorId : Id) :
    wp (engine Id .bypassRls) ids ⟨fun _ _ => True, fun _ _ => True⟩ (deactivateTenant id actorId)
      (fun _ after => InactiveTenant after.db (value id)) (fun _ _ => True) tx := by
  unfold deactivateTenant findTenant saveTenant
  simp only [wp_bind, wp_visible]
  refine wp_orThrow ?_ fun _ => trivial
  intro tenant found
  obtain ⟨member, matched⟩ := findOne_some found
  have same : tenant.id = value id := by simpa using matched
  simp only [wp_bind, wp_visible]
  have again : (shown .bypassRls tx.db).tenants.findOne (fun row =>
      row.id == tenant.id) = some tenant := by
    refine findOne_of_mem member (by simp) ?_
    intro other hit
    have equal : other.id = tenant.id := by simpa using hit
    exact equal
  rw [again]
  refine wp_persist trivial ?_ trivial
  intro db applied
  cases updateTenant_some applied
  refine ⟨{ tenant with isActive := false }, ?_, same, rfl⟩
  rw [mem_modify]
  refine .inr ⟨tenant, member, by simp, ?_⟩
  cases flag : tenant.isActive with
  | true => simp [changedTenantColumns, TenantChange.apply, flag]
  | false => simp [changedTenantColumns, TenantChange.apply, flag]

theorem inactive_of_deactivatesUser {step : Step} (deactivates : DeactivatesUser env step db userId) :
    InactiveUser (step.next env db) userId := by
  obtain ⟨ids, home, actorId, rfl, done⟩ := deactivates
  have holds : wp (engine Uuid (.tenantUser home)) ids ⟨fun _ _ => True, fun _ _ => True⟩
      ((Operation.setActivation userId false).handler env.operations home actorId) (fun _ after =>
        InactiveUser after.db userId)
      (fun _ _ => True) { db } := wp_deactivation userId actorId
  have ended := serve_post holds
  have finished : (serve (engine Uuid (.tenantUser home)) ids
      ((Operation.setActivation userId false).handler env.operations home actorId) db).result =
        .ok () := Option.some.inj done
  rw [finished] at ended
  have same : Step.next env (.request ids home actorId (.setActivation userId false)) db =
    (serve (engine Uuid (.tenantUser home)) ids
      ((Operation.setActivation userId false).handler env.operations home actorId) db).db := rfl
  rw [same, ended.2]
  exact ended.1

theorem inactive_of_deactivatesTenant {step : Step}
    (deactivates : DeactivatesTenant env step db tenantId) :
    InactiveTenant (step.next env db) tenantId := by
  obtain ⟨ids, actorId, rfl, done⟩ := deactivates
  have holds : wp (engine Uuid .bypassRls) ids ⟨fun _ _ => True, fun _ _ => True⟩
    (deactivateTenant tenantId actorId)
      (fun _ after => InactiveTenant after.db tenantId) (fun _ _ => True) { db } :=
        wp_deactivateTenant tenantId actorId
  have ended := serve_post holds
  have finished : (serve (engine Uuid .bypassRls) ids (deactivateTenant tenantId actorId) db).result =
    .ok () := Option.some.inj done
  rw [finished] at ended
  have same : Step.next env (.deactivateTenant ids tenantId actorId) db =
      (serve (engine Uuid .bypassRls) ids (deactivateTenant tenantId actorId) db).db := rfl
  rw [same, ended.2]
  exact ended.1

end Flags

/-! Whole runs. -/

section Runs
variable {env : Environment}

/-- Nobody whose flag is not set gets a token as long as it is not set again. -/
theorem none_until_reactivated (readable : Readable env) {userId : Uuid} {db : Db}
    {steps : List Step} (inactive : InactiveUser db userId)
    (calm : EveryStep (Step.next env) (fun step db => ¬Unchecked env db step ∧
      ¬Reactivated db (step.next env db) userId) db steps) :
    EveryStep (Step.next env) (fun step db => ∀ tenantId,
      ¬Issues env step db userId tenantId) db steps := by
  induction steps generalizing db with
  | nil => trivial
  | cons step rest ih =>
    obtain ⟨⟨checked, still⟩, later⟩ := calm
    refine ⟨?_, ih (inactiveUser_next inactive still) later⟩
    intro tenantId issues
    exact not_live_of_inactiveUser inactive (live_of_issues readable checked issues)

theorem none_until_tenantReactivated (readable : Readable env) {tenantId : Uuid} {db : Db}
    {steps : List Step} (inactive : InactiveTenant db tenantId)
    (calm : EveryStep (Step.next env) (fun step db => ¬Unchecked env db step ∧
      ¬TenantReactivated db (step.next env db) tenantId) db steps) :
    EveryStep (Step.next env) (fun step db => ∀ userId,
      ¬Issues env step db userId tenantId) db steps := by
  induction steps generalizing db with
  | nil => trivial
  | cons step rest ih =>
    obtain ⟨⟨checked, still⟩, later⟩ := calm
    refine ⟨?_, ih (inactiveTenant_next inactive still) later⟩
    intro userId issues
    exact not_live_of_inactiveTenant inactive (live_of_issues readable checked issues)

/-- In a run without unchecked steps tokens are issued for live accounts only, and after
a deactivation none is until the flag is set again. -/
theorem tokens_for_the_live (readable : Readable env) (db : Db) :
    (∀ steps, EveryStep (Step.next env) (fun step db => ¬Unchecked env db step) db steps →
      EveryStep (Step.next env) (fun step db => ∀ userId tenantId, Issues env step db userId tenantId →
        Live db userId tenantId) db steps) ∧
    (∀ step rest userId, DeactivatesUser env step db userId →
      EveryStep (Step.next env) (fun step db => ¬Unchecked env db step ∧
        ¬Reactivated db (step.next env db) userId) (step.next env db) rest →
        EveryStep (Step.next env) (fun step db => ∀ tenantId, ¬Issues env step db userId tenantId)
          (step.next env db) rest) ∧
    ∀ step rest tenantId, DeactivatesTenant env step db tenantId →
      EveryStep (Step.next env) (fun step db => ¬Unchecked env db step ∧
        ¬TenantReactivated db (step.next env db) tenantId)
        (step.next env db) rest →
        EveryStep (Step.next env) (fun step db => ∀ userId, ¬Issues env step db userId tenantId)
          (step.next env db) rest := by
  refine ⟨?_, ?_, ?_⟩
  · intro steps calm
    exact calm.mono fun step db checked userId tenantId issues => live_of_issues readable checked issues
  · intro step rest userId deactivates calm
    exact none_until_reactivated readable (inactive_of_deactivatesUser deactivates) calm
  · intro step rest tenantId deactivates calm
    exact none_until_tenantReactivated readable (inactive_of_deactivatesTenant deactivates) calm

end Runs

/-! The office again: Bob is deactivated, and then impersonated. -/

section Example
open Reactivation (office office_reachable countedFrom)

def officeEnvironment : Environment where
  auth := { PrincipalLogin.plainTokens with comparePassword := fun plain hashed =>
    "$2b$10$" ++ plain == hashed }
  operations := Coherence.plainEnvironment
  signImpersonation payload _ _ := PrincipalLogin.plainTokens.sign payload 0

theorem officeEnvironment_readable : Readable officeEnvironment := by
  have plain : ∀ {token payload}, Signs officeEnvironment token payload →
      ∃ life, token = PrincipalLogin.plainTokens.sign payload life := by
    intro token payload signs
    cases signs with
    | access _ life => exact ⟨life, rfl⟩
    | impersonation _ _ _ => exact ⟨0, rfl⟩
  intro token first second signs signs'
  obtain ⟨life, same⟩ := plain signs
  obtain ⟨life', same'⟩ := plain signs'
  exact PrincipalLogin.plainTokens_readable first second life life' (same.symm.trans same')

def adasLogin : Step := .login (RefreshTokens.drawn 1) ⟨"ada@acme.io", "secret"⟩

def bobsDeactivation : Step := .request (countedFrom 41) 21 22 (.setActivation 31 false)

def bobGone : Db := bobsDeactivation.next officeEnvironment office

/-- A token is issued for a user who has just been deactivated. -/
theorem deactivated_impersonated :
    ReachableStates.Reachable office ∧ DeactivatesUser officeEnvironment bobsDeactivation office 31 ∧
    Issues officeEnvironment (.impersonate ⟨31, 21, "support"⟩ 9) bobGone 31 21 ∧
      ¬Live bobGone 31 21 := by
  have deactivates : DeactivatesUser officeEnvironment bobsDeactivation office 31 :=
    ⟨_, 21, 22, rfl, by decide⟩
  have found : (bobGone.users.findOne fun user => user.id == 31 && user.tenantId == 21) =
      some ⟨31, 21, "bob@acme.io", "$2b$10$hidden", "Bob", "Bell", false, none⟩ := by decide
  have signs :=
    @Signs.impersonation officeEnvironment ⟨31, "bob@acme.io", some 21, "IMPERSONATION"⟩ 9 1800
  refine ⟨office_reachable, deactivates, ⟨_, _, ?_, signs, rfl, rfl⟩, ?_⟩
  · simp only [Step.token, LiveAccounts.impersonate, found]
    rfl
  · exact not_live_of_inactiveUser (inactive_of_deactivatesUser deactivates)

def bobsLogin : Step := .login (RefreshTokens.drawn 2) ⟨"bob@acme.io", "hidden"⟩

def acmesEnd : Step := .deactivateTenant (countedFrom 41) 21 9

def acmeGone : Db := acmesEnd.next officeEnvironment office

def betasStart : Step :=
  .createTenant (countedFrom 61) ⟨"Beta", "beta", none, "bea@beta.io", "hushed", "Bea", "Bond"⟩ 9

def beasLogin : Step := .login (RefreshTokens.drawn 3) ⟨"bea@beta.io", "hushed"⟩

def adasGuess : Step := .login (RefreshTokens.drawn 4) ⟨"ada@acme.io", "guess"⟩

def betaThere : Db := betasStart.next officeEnvironment acmeGone

theorem checked_login {env : Environment} {db : Db} {draw : Draw} {dto : LoginDto}
    (home : ∀ user ∈ db.users.rows, user.email = dto.email → user.isActive = true →
      env.auth.comparePassword dto.password user.passwordHash = true →
        ∃ tenant ∈ db.tenants.rows, tenant.id = user.tenantId ∧ tenant.isActive = true) :
    ¬Unchecked env db (.login draw dto) := by
  intro unchecked
  obtain ⟨user, member, email, active, accepted, elsewhere⟩ := unchecked
  exact elsewhere (home user member email active accepted)

theorem still_inactive {db db' : Db} {userId : Uuid}
    (off : ∀ user ∈ db'.users.rows, user.id = userId → user.isActive = false) :
    ¬Reactivated db db' userId := by
  intro reactivated
  obtain ⟨_, user, member, same, active⟩ := reactivated
  rw [off user member same] at active
  cases active

theorem tenant_still_inactive {db db' : Db} {tenantId : Uuid}
    (off : ∀ tenant ∈ db'.tenants.rows, tenant.id = tenantId → tenant.isActive = false) :
    ¬TenantReactivated db db' tenantId := by
  intro reactivated
  obtain ⟨_, tenant, member, same, active⟩ := reactivated
  rw [off tenant member same] at active
  cases active

/-- Ada gets a token and is live, also when Bob is deactivated, who gets none any more;
and when Acme is deactivated, only the admin of Beta gets one. -/
theorem tokens_for_the_live_office :
    (Issues officeEnvironment adasLogin office 22 21 ∧ Live office 22 21) ∧
    (Issues officeEnvironment adasLogin bobGone 22 21 ∧
      ∀ tenantId,
        ¬Issues officeEnvironment bobsLogin (adasLogin.next officeEnvironment bobGone) 31 tenantId) ∧
    Issues officeEnvironment beasLogin betaThere 62 61 ∧
      ∀ userId, ¬Issues officeEnvironment adasGuess
        (beasLogin.next officeEnvironment betaThere) userId 21 := by
  have first : Issues officeEnvironment adasLogin office 22 21 :=
    ⟨_, _, by rfl, Signs.access ⟨22, "ada@acme.io", some 21, "USER"⟩ 900, rfl, rfl⟩
  have second : Issues officeEnvironment adasLogin bobGone 22 21 :=
    ⟨_, _, by rfl, Signs.access ⟨22, "ada@acme.io", some 21, "USER"⟩ 900, rfl, rfl⟩
  have third : Issues officeEnvironment beasLogin betaThere 62 61 :=
    ⟨_, _, by rfl, Signs.access ⟨62, "bea@beta.io", some 61, "USER"⟩ 900, rfl, rfl⟩
  have inOffice : ¬Unchecked officeEnvironment office adasLogin := checked_login (by decide)
  have deactivated : DeactivatesUser officeEnvironment bobsDeactivation office 31 :=
    ⟨_, 21, 22, rfl, by decide⟩
  have without : ¬Unchecked officeEnvironment bobGone adasLogin := checked_login (by decide)
  have refused : ¬Unchecked officeEnvironment (adasLogin.next officeEnvironment bobGone) bobsLogin :=
    checked_login (by decide)
  have ended : DeactivatesTenant officeEnvironment acmesEnd office 21 := ⟨_, 9, rfl, by decide⟩
  have inBeta : ¬Unchecked officeEnvironment betaThere beasLogin := checked_login (by decide)
  have guessed : ¬Unchecked officeEnvironment (beasLogin.next officeEnvironment betaThere) adasGuess :=
    checked_login (by decide)
  obtain ⟨live, user, tenant⟩ := tokens_for_the_live officeEnvironment_readable office
  refine ⟨⟨first, (live [adasLogin] ⟨inOffice, trivial⟩).1 _ _ first⟩, ⟨second, ?_⟩, third, ?_⟩
  · have calm := user bobsDeactivation [adasLogin, bobsLogin] 31 deactivated
      ⟨⟨without, still_inactive (by decide)⟩, ⟨refused, still_inactive (by decide)⟩, trivial⟩
    exact calm.2.1
  · have calm := tenant acmesEnd [betasStart, beasLogin, adasGuess] 21 ended
      ⟨⟨id, tenant_still_inactive (by decide)⟩, ⟨inBeta, tenant_still_inactive (by decide)⟩,
        ⟨guessed, tenant_still_inactive (by decide)⟩, trivial⟩
    exact calm.2.2.1

end Example
end GenericIam.LiveAccounts
