import GenericIam.LiveAccounts
import GenericIam.RefreshSessions

/-! Whether an account that is not active has refresh tokens stored, and what becomes of
them when it is activated again. -/

namespace GenericIam.InactiveSessions
open Table Database Identifiers Transaction Handlers RbacServices
open AccountServices Operations AuthService Controllers Runs
open RefreshTokens (mem_deleteRefreshToken mem_deleteRefreshTokensOf readToken_text bytes hashedBytes Truncates)
open Reactivation (Updates)
open LiveAccounts

/-- Whoever has a refresh token stored is active. -/
def Settled (db : Db) : Prop :=
  ∀ token ∈ db.refreshTokens, ∀ user ∈ db.users, user.id = token.userId → user.isActive = true

/-- The update of a user goes through, takes the access away and leaves a refresh token
of the user where it is. -/
def LocksOut (db : Db) : Step → Prop
  | .request _ tenantId _ (.updateUser id dto) =>
      dto.isActive = .value false ∧ (∃ token ∈ db.refreshTokens, token.userId = id) ∧
        ∃ db', Updates db id tenantId dto db'
  | _ => False

/-! Requests that leave the accounts and tokens there are alone. -/

def Quiet : Write → Prop
  | .insertUser row => row.isActive = true
  | .updateUser _ _ | .insertRefreshToken _ => False
  | _ => True

structure Quietly (db db' : Db) : Prop where
  users : ∀ user ∈ db'.users, user ∈ db.users ∨ user.isActive = true
  tokens : ∀ token ∈ db'.refreshTokens, token ∈ db.refreshTokens

theorem Quietly.refl (db : Db) : Quietly db db := ⟨fun _ member => .inl member, fun _ member => member⟩

section Requests
variable {db before after : Db} {session : Session} {ids : Nat → Uuid}

theorem quietly_apply {write : Write} (quietly : Quietly db before) (quiet : Quiet write)
    (applied : write.apply session before = some after) : Quietly db after := by
  have frame := sameBut_apply applied
  have users : .users ∉ write.changes → ∀ user ∈ after.users, user ∈ db.users ∨
      user.isActive = true := by
    intro away user member
    rw [frame.users away] at member
    exact quietly.users user member
  have tokens : .refreshTokens ∉ write.changes → ∀ token ∈ after.refreshTokens,
      token ∈ db.refreshTokens := by
    intro away token member
    rw [frame.refreshTokens away] at member
    exact quietly.tokens token member
  cases write with
  | insertUser row =>
    refine ⟨?_, tokens (by simp [Write.changes])⟩
    intro user member
    simp only [Write.apply] at applied
    split at applied
    · obtain ⟨_, inserted, rfl⟩ := insertUser_some applied
      rcases (mem_insert inserted).mp member with old | rfl
      · exact quietly.users user old
      · exact .inr quiet
    · cases applied
  | updateUser id change => exact quiet.elim
  | insertRefreshToken row => exact quiet.elim
  | deleteRefreshToken id =>
    cases applied
    refine ⟨users (by simp [Write.changes]), ?_⟩
    intro token member
    exact quietly.tokens token (mem_deleteRefreshToken.mp member).1
  | deleteRefreshTokensOf userId =>
    cases applied
    refine ⟨users (by simp [Write.changes]), ?_⟩
    intro token member
    exact quietly.tokens token (mem_deleteRefreshTokensOf.mp member).1
  | _ => exact ⟨users (by simp [Write.changes]), tokens (by simp [Write.changes])⟩

theorem quietly_serve {α : Type} {handler : Handler Uuid α}
    (sends : Sends Quiet (fun _ => False) handler) :
    Quietly db (serve (engine Uuid session) ids handler db).db := by
  apply serve_sends sends (Quietly.refl db)
  · intro write there later quiet quietly sent
    exact quietly_apply quietly quiet (send_ok sent)
  · intro write there later impossible
    exact impossible.elim

/-- The operations other than those on an account that exists. -/
theorem sends_quiet (env : Operations.Environment) (tenantId actorId : Uuid)
    {operation : Operation Uuid} (update : ∀ id dto, operation ≠ .updateUser id dto)
    (status : ∀ id isActive, operation ≠ .setActivation id isActive) :
    Sends Quiet (fun _ => False) (operation.handler env tenantId actorId) := by
  have unit : ∀ {α : Type} (_ : α), Sends Quiet (fun _ => False) (pure () : Handler Uuid Unit) :=
    fun _ => trivial
  cases operation with
  | createCustomRole now dto =>
    exact sends_bind (sends_createCustomRole _ _ dto _ fun _ => trivial) unit
  | updateCustomRole now id body =>
    exact sends_bind (sends_updateCustomRole _ _ id _ body _ (fun _ => trivial) fun _ => trivial) unit
  | deleteCustomRole id => exact sends_deleteCustomRole id _ _ fun _ => trivial
  | updateRolePermissions roleId dto =>
    exact sends_updateRolePermissions roleId _ dto _ (fun _ => trivial) fun _ => trivial
  | assignToUser userId dto =>
    exact sends_bind (sends_assignToUser userId _ dto _ (fun _ => trivial) fun _ => trivial) unit
  | updateUserRoles userId dto =>
    exact sends_updateUserRoles userId _ dto _ (fun _ => trivial) (fun _ => trivial) fun _ => trivial
  | addOverride userId dto =>
    exact sends_bind (sends_addOverride userId _ dto _ (fun _ => trivial) fun _ => trivial) unit
  | removeOverride overrideId userId => exact sends_removeOverride overrideId _ _ _ fun _ => trivial
  | createAcl dto => exact sends_bind (sends_createAcl _ dto _ fun _ => trivial) unit
  | deleteAcl id => exact sends_deleteAcl id _ _ fun _ => trivial
  | createUser dto =>
    exact sends_bind (sends_createUser _ _ dto _ (fun _ active => active) (fun _ => trivial) fun _ =>
      trivial) unit
  | updateUser id dto => exact absurd rfl (update id dto)
  | setActivation id isActive => exact absurd rfl (status id isActive)

theorem sends_createTenantWithAdmin (hashPassword : String → String) (dto : CreateTenantDto)
    (actorId : Uuid) :
    Sends Quiet (fun _ => False) (createTenantWithAdmin hashPassword dto actorId) := by
  apply sends_visible
  intro db
  refine sends_bind (sends_refuseIf _ _) ?_
  intro _
  apply sends_newId
  intro tenantId
  refine sends_bind (sends_persist trivial) ?_
  intro _
  apply sends_newId
  intro userId
  refine sends_bind (sends_persist rfl) ?_
  intro _
  apply sends_visible
  intro later
  split
  · trivial
  · apply sends_newId
    intro assignmentId
    exact sends_bind (sends_persist trivial) fun _ => trivial

end Requests

/-! Steps. -/

def draw : Step → Option Draw
  | .login draw _ | .refresh _ draw _ => some draw
  | _ => none

def refreshToken (env : LiveAccounts.Environment) (db : Db) : Step → Option String
  | .login draw dto =>
    (AuthService.login env.auth draw dto db).1.toOption.map TokenResponseDto.refreshToken
  | .refresh now draw text =>
    (AuthService.refresh env.auth now draw text db).1.toOption.map TokenResponseDto.refreshToken
  | _ => none

/-- The step has stored the token for an active user, who gets the text that opens it. -/
def Issued (env : LiveAccounts.Environment) (db : Db) (step : Step)
    (token : RefreshTokenEntity) : Prop :=
  ∃ drawn user, draw step = some drawn ∧ token = createToken env.auth drawn user ∧ user ∈ db.users ∧
    user.isActive = true ∧
    refreshToken env db step = some (refreshTokenText user.id drawn.secret)

section Step
variable {env : LiveAccounts.Environment} {db : Db}

def Switches (step : Step) : Prop :=
  ∃ ids tenantId actorId, (∃ id dto, step = .request ids tenantId actorId (.updateUser id dto)) ∨
    ∃ id isActive, step = .request ids tenantId actorId (.setActivation id isActive)

theorem generateTokens_cases (drawn : Draw) (user : UserEntity) (db : Db) :
    (generateTokens env.auth drawn user db).2 = db ∨
      (generateTokens env.auth drawn user db).1 = .ok (tokenResponse env.auth drawn user) ∧
        (generateTokens env.auth drawn user db).2.users = db.users ∧
          ∀ token ∈ (generateTokens env.auth drawn user db).2.refreshTokens,
            token ∈ db.refreshTokens ∨ token = createToken env.auth drawn user := by
  unfold generateTokens
  split
  · next after inserted =>
    refine .inr ⟨rfl, ?_⟩
    unfold Db.insertRefreshToken at inserted
    split at inserted
    · obtain ⟨tokens, stored, rfl⟩ := Option.map_eq_some_iff.mp inserted
      exact ⟨rfl, fun token member => (mem_insert stored).mp member⟩
    · cases inserted
  · exact .inl rfl

theorem redeem_quiet (now : Time) (text : String) (db : Db) :
    Quietly db (redeem env.auth now text db).2 := by
  have dropped : ∀ id, Quietly db (db.deleteRefreshToken id) :=
    fun _ => ⟨fun _ member => .inl member, fun _ member => (mem_deleteRefreshToken.mp member).1⟩
  unfold redeem
  split
  · exact .refl db
  · split
    · exact dropped _
    · split
      · exact .refl db
      · exact dropped _

structure Adds (env : LiveAccounts.Environment) (db : Db) (step : Step) : Prop where
  users : ∀ user ∈ (step.next env db).users, user ∈ db.users ∨ user.isActive = true
  tokens : ∀ token ∈ (step.next env db).refreshTokens, token ∈ db.refreshTokens ∨
    Issued env db step token

theorem Quietly.adds {step : Step} (quietly : Quietly db (step.next env db)) : Adds env db step :=
  ⟨quietly.users, fun token member => .inl (quietly.tokens token member)⟩

theorem adds_login (drawn : Draw) (dto : LoginDto) : Adds env db (.login drawn dto) := by
  cases passed : authenticate env.auth dto db with
  | error error =>
    apply Quietly.adds
    simp only [Step.next, AuthService.login, passed]
    exact .refl db
  | ok principal =>
    cases principal with
    | inr superAdmin =>
      apply Quietly.adds
      simp only [Step.next, AuthService.login, passed]
      exact .refl db
    | inl user =>
      obtain ⟨member, _, active, _⟩ := LiveAccounts.authenticate_user passed
      have next : Step.next env (.login drawn dto) db = (generateTokens env.auth drawn user db).2 := by
        simp only [Step.next, AuthService.login, passed]
      have answer : refreshToken env db (.login drawn dto) =
          (generateTokens env.auth drawn user db).1.toOption.map TokenResponseDto.refreshToken := by
        simp only [refreshToken, AuthService.login, passed]
      rcases generateTokens_cases drawn user db with kept | ⟨done, users, tokens⟩
      · apply Quietly.adds
        rw [next, kept]
        exact .refl db
      · constructor
        · intro other present
          rw [next, users] at present
          exact .inl present
        · intro token present
          rw [next] at present
          refine (tokens token present).imp_right fun new => ?_
          exact ⟨drawn, user, rfl, new, member, active, by rw [answer, done]; rfl⟩

theorem adds_refresh (now : Time) (drawn : Draw) (text : String) :
    Adds env db (.refresh now drawn text) := by
  cases passed : redeem env.auth now text db with
  | mk outcome rest =>
    have quietly : Quietly db rest := by
      have quiet := @redeem_quiet env now text db
      rw [passed] at quiet
      exact quiet
    cases outcome with
    | error error =>
      apply Quietly.adds
      simp only [Step.next, AuthService.refresh, passed]
      exact quietly
    | ok user =>
      obtain ⟨member, active, _⟩ := LiveAccounts.redeem_user passed
      have next : Step.next env (.refresh now drawn text) db =
          (generateTokens env.auth drawn user rest).2 := by
        simp only [Step.next, AuthService.refresh, passed]
      have answer : refreshToken env db (.refresh now drawn text) =
          (generateTokens env.auth drawn user rest).1.toOption.map TokenResponseDto.refreshToken := by
        simp only [refreshToken, AuthService.refresh, passed]
      rcases generateTokens_cases drawn user rest with kept | ⟨done, users, tokens⟩
      · apply Quietly.adds
        rw [next, kept]
        exact quietly
      · constructor
        · intro other present
          rw [next, users] at present
          exact quietly.users other present
        · intro token present
          rw [next] at present
          rcases tokens token present with old | new
          · exact .inl (quietly.tokens token old)
          · exact .inr ⟨drawn, user, rfl, new, member, active, by rw [answer, done]; rfl⟩

theorem adds_next (step : Step) (calm : ¬Switches step) : Adds env db step := by
  cases step with
  | login drawn dto => exact adds_login drawn dto
  | refresh now drawn text => exact adds_refresh now drawn text
  | impersonate dto superAdminId => exact (Quietly.refl db).adds
  | logout userId =>
    apply Quietly.adds
    exact ⟨fun _ member => .inl member, fun _ member => (mem_deleteRefreshTokensOf.mp member).1⟩
  | request ids tenantId actorId operation =>
    apply Quietly.adds
    apply quietly_serve
    apply sends_quiet
    · intro id dto same
      exact calm ⟨ids, tenantId, actorId, .inl ⟨id, dto, by rw [same]⟩⟩
    · intro id isActive same
      exact calm ⟨ids, tenantId, actorId, .inr ⟨id, isActive, by rw [same]⟩⟩
  | createTenant ids dto actorId =>
    exact (quietly_serve (sends_createTenantWithAdmin _ dto actorId)).adds
  | updateTenant ids id dto actorId =>
    exact (quietly_serve (sends_updateTenant id dto actorId (fun _ => trivial) fun _ _ => trivial)).adds
  | deactivateTenant ids id actorId =>
    apply Quietly.adds
    apply quietly_serve
    refine sends_bind (sends_findTenant id) ?_
    intro tenant
    exact sends_bind (sends_saveTenant _ trivial fun _ => trivial) fun _ => trivial

/-! The two operations that touch the flag. -/

theorem settled_of_adds {step : Step} (settled : Settled db) (adds : Adds env db step) :
    Settled (step.next env db) := by
  intro token stored user member same
  rcases adds.users user member with old | active
  · rcases adds.tokens token stored with kept | ⟨_, owner, _, rfl, present, active, _⟩
    · exact settled token kept user old same
    · have whole : user = owner := eq_of_key_eq old present same
      exact whole ▸ active
  · exact active

variable {ids : Nat → Uuid} {id tenantId actorId : Uuid}

theorem settled_updates_iff {db' : Db} {dto : UpdateUserDto Uuid} (settled : Settled db)
    (updates : Updates db id tenantId dto db') :
    Settled db' ↔ ¬(dto.isActive = .value false ∧ ∃ token ∈ db.refreshTokens, token.userId = id) := by
  have tokens : db'.refreshTokens = db.refreshTokens := by
    obtain ⟨user, _, _, _, _, applied⟩ := updates
    exact (sameBut_apply applied).refreshTokens (by simp [Write.changes])
  have found := updates
  obtain ⟨user, member, same, _⟩ := found
  have row : assignUser user dto ∈ db'.users := updates.row member same
  unfold Settled
  rw [tokens]
  constructor
  · intro later locked
    obtain ⟨off, token, stored, owner⟩ := locked
    have active : (assignUser user dto).isActive = true :=
      later token stored _ row (same.trans owner.symm)
    simp [assignUser, off, Given.over] at active
  · intro harmless token stored other present owner
    by_cases here : other.id = id
    · have whole : other = assignUser user dto := eq_of_key_eq present row (here.trans same.symm)
      have active : user.isActive = true :=
        settled token stored user member (same.trans (here.symm.trans owner))
      rw [whole]
      cases field : dto.isActive with
      | value given =>
        cases given with
        | true => simp [assignUser, field, Given.over]
        | false => exact absurd ⟨field, token, stored, owner.symm.trans here⟩ harmless
      | absent | null => simp [assignUser, field, Given.over, active]
    · exact settled token stored other (updates.others present here) owner

theorem settled_updateUser_iff (settled : Settled db) (dto : UpdateUserDto Uuid) :
    Settled ((Step.request ids tenantId actorId (.updateUser id dto)).next env db) ↔
      ¬LocksOut db (.request ids tenantId actorId (.updateUser id dto)) := by
  have served :=
    Reactivation.serve_updateUser env.operations ⟨actorId, tenantId, .USER, by decide⟩ ids id dto db
  have next : Step.next env (.request ids tenantId actorId (.updateUser id dto)) db =
    (serve (engine Uuid (.tenantUser tenantId)) ids
      ((Operation.updateUser id dto).handler env.operations tenantId actorId) db).db := rfl
  rcases served with updates | ⟨never, kept⟩
  · rw [next]
    refine (settled_updates_iff settled updates).trans ?_
    constructor
    · intro harmless locked
      exact harmless ⟨locked.1, locked.2.1⟩
    · intro harmless locked
      exact harmless ⟨locked.1, locked.2, _, updates⟩
  · have same : Step.next env (.request ids tenantId actorId (.updateUser id dto)) db = db := kept
    rw [same]
    refine ⟨fun _ locked => ?_, fun _ => settled⟩
    obtain ⟨_, _, _, updates⟩ := locked
    exact never _ updates

theorem serve_switched (isActive : Bool) :
    let served :=
      serve (engine Uuid (.tenantUser tenantId)) ids (setActivation id tenantId isActive actorId) db
    served.db = db ∨ Switched db id isActive served.db ∧
      (isActive = false → ∀ token ∈ served.db.refreshTokens, token.userId ≠ id) ∧
      ∀ token ∈ served.db.refreshTokens, token ∈ db.refreshTokens := by
  intro served
  have switches : wp (engine Uuid (.tenantUser tenantId)) ids ⟨fun _ _ => True, fun _ _ => True⟩
    (setActivation id tenantId isActive actorId)
      (fun _ after => Switched db id isActive after.db) (fun _ _ => True) { db } :=
        wp_switched id isActive actorId
  have revokes : wp (engine Uuid (.tenantUser tenantId)) ids RefreshSessions.anything
    (setActivation id tenantId isActive actorId)
      (fun _ after => RefreshSessions.Deactivated db id isActive after) (fun _ after =>
        RefreshSessions.Untouched db after) { db } :=
    RefreshSessions.wp_setActivation _ ids id tenantId isActive actorId ⟨rfl, rfl⟩
  have switched := serve_post switches
  have revoked := serve_post revokes
  cases answered : served.result with
  | error error =>
    rw [answered] at revoked
    rw [revoked.1.2] at revoked
    exact .inl revoked.2
  | ok _ =>
    rw [answered] at switched revoked
    rw [← switched.2] at switched
    have tokens : served.db.refreshTokens = if isActive then db.refreshTokens
        else (db.deleteRefreshTokensOf id).refreshTokens := by
      rw [revoked.2]
      exact revoked.1
    refine .inr ⟨switched.1, ?_, ?_⟩
    · intro off token member
      rw [tokens, off] at member
      exact (mem_deleteRefreshTokensOf.mp member).2
    · intro token member
      rw [tokens] at member
      split at member
      · exact member
      · exact (mem_deleteRefreshTokensOf.mp member).1

theorem settled_setActivation (settled : Settled db) (isActive : Bool) :
    Settled ((Step.request ids tenantId actorId (.setActivation id isActive)).next env db) := by
  have next : Step.next env (.request ids tenantId actorId (.setActivation id isActive)) db =
    (serve (engine Uuid (.tenantUser tenantId)) ids
      (setActivation id tenantId isActive actorId) db).db := rfl
  rw [next]
  rcases @serve_switched db ids id tenantId actorId isActive with kept | ⟨⟨user, _, same, rows⟩,
    dropped, fewer⟩
  · rw [kept]
    exact settled
  · intro token stored other member owner
    rcases (rows other).mp member with ⟨before, _⟩ | rfl
    · exact settled token (fewer token stored) other before owner
    · cases isActive with
      | true => rfl
      | false => exact absurd (owner.symm.trans same) (dropped rfl token stored)

/-- One step. -/
theorem settled_next_iff (settled : Settled db) (step : Step) :
    Settled (step.next env db) ↔ ¬LocksOut db step := by
  by_cases switches : Switches step
  · obtain ⟨ids, tenantId, actorId, ⟨id, dto, rfl⟩ | ⟨id, isActive, rfl⟩⟩ := switches
    · exact settled_updateUser_iff settled dto
    · exact iff_of_true (settled_setActivation settled isActive) fun locked => locked
  · refine iff_of_true (settled_of_adds settled (adds_next step switches)) ?_
    intro locked
    unfold LocksOut at locked
    split at locked
    · next ids tenantId actorId id dto => exact switches ⟨ids, tenantId, actorId, .inl ⟨id, dto, rfl⟩⟩
    · exact locked

/-- Whatever the step, each token that is stored after it was there before or has just
been issued. -/
theorem tokens_next (step : Step) {token : RefreshTokenEntity}
    (stored : token ∈ (step.next env db).refreshTokens) :
    token ∈ db.refreshTokens ∨ Issued env db step token := by
  by_cases switches : Switches step
  · obtain ⟨ids, tenantId, actorId, ⟨id, dto, rfl⟩ | ⟨id, isActive, rfl⟩⟩ := switches
    · have same : ((Step.request ids tenantId actorId (.updateUser id dto)).next env db).refreshTokens =
        db.refreshTokens := by
        rcases Reactivation.serve_updateUser env.operations ⟨actorId, tenantId,
          .USER, by decide⟩ ids id dto db with updates | ⟨_, kept⟩
        · obtain ⟨user, _, _, _, _, applied⟩ := updates
          exact (sameBut_apply applied).refreshTokens (by simp [Write.changes])
        · exact congrArg Db.refreshTokens kept
      rw [same] at stored
      exact .inl stored
    · rcases @serve_switched db ids id tenantId actorId isActive with kept | ⟨_, _, fewer⟩
      · have same : Step.next env (.request ids tenantId actorId (.setActivation id isActive)) db =
          db := kept
        rw [same] at stored
        exact .inl stored
      · exact .inl (fewer token stored)
  · exact (adds_next step switches).tokens token stored

end Step

/-! Runs. -/

section Runs
variable {env : LiveAccounts.Environment}

theorem settled_run_iff {db : Db} (settled : Settled db) (steps : List Step) :
    (∀ taken, taken <+: steps → Settled (final (Step.next env) db taken)) ↔
      EveryStep (Step.next env) (fun step db => ¬LocksOut db step) db steps := by
  induction steps generalizing db with
  | nil =>
    refine iff_of_true ?_ trivial
    intro taken early
    rw [List.prefix_nil.mp early]
    exact settled
  | cons step rest ih =>
    constructor
    · intro throughout
      have first : Settled (step.next env db) :=
        throughout [step] (List.cons_prefix_cons.mpr ⟨rfl, List.nil_prefix⟩)
      refine ⟨(settled_next_iff settled step).mp first, (ih first).mp ?_⟩
      intro taken early
      exact throughout (step :: taken) (List.cons_prefix_cons.mpr ⟨rfl, early⟩)
    · intro calm taken early
      have first : Settled (step.next env db) := (settled_next_iff settled step).mpr calm.1
      cases taken with
      | nil => exact settled
      | cons other others =>
        obtain ⟨rfl, later⟩ := List.cons_prefix_cons.mp early
        exact (ih first).mpr calm.2 others later

def OpensOnly (env : LiveAccounts.Environment) (secret : String) (users : Uuid → Prop)
    (db : Db) : Prop :=
  ∀ token ∈ db.refreshTokens, env.auth.comparePassword secret token.tokenHash = true →
    users token.userId

def secrets (steps : List Step) : List String := steps.filterMap fun step => (draw step).map Draw.secret

/-- No two secrets agree in what bcrypt looks at, and none opens a token that is stored already. -/
def Fresh (env : LiveAccounts.Environment) (db : Db) (steps : List Step) : Prop :=
  ((secrets steps).map hashedBytes).Nodup ∧ ∀ secret ∈ secrets steps,
    OpensOnly env secret (fun _ => False) db

section Secret
variable {secret : String} {users : Uuid → Prop} {db : Db}

theorem opensOnly_next (truncates : Truncates env.auth) (opens : OpensOnly env secret users db)
    {step : Step} (other : hashedBytes secret ∉ (secrets [step]).map hashedBytes) :
    OpensOnly env secret users (step.next env db) := by
  intro token stored opened
  rcases tokens_next step stored with before | ⟨drawn, user, drew, rfl, _⟩
  · exact opens token before opened
  · have same : hashedBytes secret = hashedBytes drawn.secret :=
      (truncates drawn.salt drawn secret).mp opened
    exact absurd (by simp [secrets, drew, same]) other

theorem opensOnly_run (truncates : Truncates env.auth) (opens : OpensOnly env secret users db)
    {steps : List Step} (other : hashedBytes secret ∉ (secrets steps).map hashedBytes) :
    OpensOnly env secret users (final (Step.next env) db steps) := by
  induction steps generalizing db with
  | nil => exact opens
  | cons step rest ih =>
    have split : secrets (step :: rest) = secrets [step] ++ secrets rest :=
      List.filterMap_append (l := [step])
    rw [split, List.map_append, List.mem_append, not_or] at other
    exact ih (opensOnly_next truncates opens other.1) other.2

/-- The text that a step answers with opens a token of its user at most. -/
theorem opensOnly_issued {drawn : Draw} (unused : OpensOnly env drawn.secret (fun _ => False) db)
    {step : Step} {userId : Uuid}
    (answered : refreshToken env db step = some (refreshTokenText userId drawn.secret)) :
    OpensOnly env drawn.secret (fun id => id = userId) (step.next env db) := by
  intro token stored opened
  rcases tokens_next step stored with before | ⟨other, user, _, rfl, _, _, text⟩
  · exact (unused token before opened).elim
  · have same : refreshTokenText user.id other.secret = refreshTokenText userId drawn.secret :=
      Option.some.inj (text.symm.trans answered)
    have read := readToken_text user.id other
    rw [same, readToken_text userId drawn] at read
    exact (PrincipalLogin.printUuid_inj (congrArg Prod.fst (Option.some.inj read))).symm

/-- What opens no token is refused. -/
theorem refresh_unopened {drawn : Draw} (unused : OpensOnly env drawn.secret (fun _ => False) db)
    (userId : Uuid) (now : Time) (next : Draw) :
    (refresh env.auth now next (refreshTokenText userId drawn.secret) db).1.isOk = false := by
  have refused : ∃ error,
      redeem env.auth now (refreshTokenText userId drawn.secret) db = (.error error, db) := by
    simp only [redeem, findValidToken, readToken_text]
    cases named : env.auth.readUuid (printUuid userId) with
    | none => exact ⟨_, rfl⟩
    | some ownerId =>
      simp only
      cases found : (db.refreshTokens.find fun token => token.userId == ownerId).find?
          fun token => env.auth.comparePassword drawn.secret token.tokenHash with
      | none => exact ⟨_, rfl⟩
      | some token =>
        have member := (mem_find.mp (List.mem_of_find?_eq_some found)).1
        have opened : env.auth.comparePassword drawn.secret token.tokenHash = true := by
          simpa using List.find?_some found
        exact (unused token member opened).elim
  obtain ⟨error, refused⟩ := refused
  simp only [refresh, refused]
  rfl

end Secret

/-- Nobody whose access has been taken away has a token stored exactly as long as no update
of a user locks out; and then no refresh token outlasts the access of its user, however
often that is given back. -/
theorem no_session_without_access (truncates : Truncates env.auth) {db : Db} (settled : Settled db)
    (steps : List Step) :
    ((∀ taken, taken <+: steps → Settled (final (Step.next env) db taken)) ↔
      EveryStep (Step.next env) (fun step db => ¬LocksOut db step) db steps) ∧
    (EveryStep (Step.next env) (fun step db => ¬LocksOut db step) db steps → Fresh env db steps →
      ∀ before issue between rest, steps = before ++ issue :: between ++ rest →
        ∀ userId drawn, draw issue = some drawn →
        refreshToken env (final (Step.next env) db before) issue =
          some (refreshTokenText userId drawn.secret) →
        InactiveUser (final (Step.next env) db (before ++ issue :: between)) userId →
          ∀ now next,
            (refresh env.auth now next (refreshTokenText userId drawn.secret)
            (final (Step.next env) db steps)).1.isOk = false) := by
  have throughout := @settled_run_iff env db settled steps
  refine ⟨throughout, ?_⟩
  intro calm fresh before issue between rest whole userId drawn drew answered inactive now next
  obtain ⟨nodup, unused⟩ := fresh
  have split : secrets steps = secrets before ++ drawn.secret :: (secrets between ++ secrets rest) := by
    simp [whole, secrets, drew]
  rw [split, List.map_append, List.map_cons, List.map_append, List.nodup_middle,
    List.nodup_cons, List.mem_append,
    List.mem_append, not_or, not_or] at nodup
  obtain ⟨⟨early, amid, late⟩, _⟩ := nodup
  -- nothing opens before the secret is drawn, and then only tokens of the user do
  have closed := opensOnly_run truncates (unused drawn.secret (by simp [split])) early
  have issued := opensOnly_run truncates (opensOnly_issued closed answered) amid
  have reached : final (Step.next env) db (before ++ issue :: between) =
      final (Step.next env) (issue.next env (final (Step.next env) db before)) between := by
    simp [final]
  rw [← reached] at issued
  have settledThen := throughout.mpr calm (before ++ issue :: between) ⟨rest, whole.symm⟩
  have shut : OpensOnly env drawn.secret (fun _ => False)
      (final (Step.next env) db (before ++ issue :: between)) := by
    intro token stored opened
    obtain ⟨user, member, same, off⟩ := inactive
    have own : token.userId = userId := issued token stored opened
    have active := settledThen token stored user member (same.trans own.symm)
    rw [off] at active
    cases active
  have lasting := opensOnly_run truncates shut late
  have ended : final (Step.next env) (final (Step.next env) db (before ++ issue :: between)) rest =
      final (Step.next env) db steps := by
    simp [final, whole]
  rw [ended] at lasting
  exact refresh_unopened lasting userId now next

end Runs

/-! Bob of the office logs in and loses his access. -/

section Example
open Reactivation (office office_reachable countedFrom)

/-- Hashes start with a mark, and are compared up to the seventy-second byte after it. -/
def saltless : LiveAccounts.Environment :=
  { officeEnvironment with auth := { officeEnvironment.auth with
      hashPassword := fun _ plain => "$2b$10$" ++ plain
      comparePassword := fun plain hashed =>
        (bytes "$2b$10$" ++ hashedBytes plain) == (bytes hashed).take 79 } }

theorem bytes_append (first second : String) :
    bytes (first ++ second) = bytes first ++ bytes second := by
  simp [bytes]

theorem saltless_truncates : Truncates saltless.auth := by
  intro salt draw plain
  have mark : (bytes "$2b$10$").length = 7 := by decide
  have hashed : (bytes ("$2b$10$" ++ draw.secret)).take 79 = bytes "$2b$10$" ++
      hashedBytes draw.secret := by
    rw [bytes_append, List.take_append, mark, List.take_of_length_le (by omega)]
    rfl
  simp only [saltless, hashed, beq_iff_eq, List.append_cancel_left_eq]

def bobsLogin : Step := .login (RefreshTokens.drawn 1) ⟨"bob@acme.io", "hidden"⟩

def bobsUpdate : Step := .request (countedFrom 41) 21 22 (.updateUser 31 { isActive := .value false })

def bobsStatus (isActive : Bool) : Step := .request (countedFrom 51) 21 22 (.setActivation 31 isActive)

theorem office_tokens {token : RefreshTokenEntity} : token ∉ office.refreshTokens := by
  have none_stored : office.refreshTokens.rows = [] := by decide
  rw [mem_rows, none_stored]
  exact List.not_mem_nil

theorem office_settled : Settled office := fun _ stored => absurd stored office_tokens

def lockedOut : Db := final (Step.next saltless) office [bobsLogin, bobsUpdate]

/-- The update leaves Bob's token, and with the next activation it is good again. -/
theorem session_outlasts_access :
    ReachableStates.Reachable office ∧ Settled office ∧ ¬Settled lockedOut ∧
    (refresh saltless.auth 2000 (RefreshTokens.drawn 2)
      (refreshTokenText 31 (RefreshTokens.drawn 1).secret)
      ((bobsStatus true).next saltless lockedOut)).1.isOk = true := by
  have inactive : ∃ token ∈ lockedOut.refreshTokens, ∃ user ∈ lockedOut.users, user.id = token.userId ∧
    user.isActive = false := by decide
  refine ⟨office_reachable, office_settled, ?_, ?_⟩
  · intro settled
    obtain ⟨token, stored, user, member, same, off⟩ := inactive
    rw [settled token stored user member same] at off
    cases off
  · have read : saltless.auth.readUuid (printUuid 31) = some 31 :=
      RefreshTokens.openEnvironment_readsBack 31
    simp only [refresh, redeem, findValidToken, readToken_text, read]
    decide

/-- The status route deletes the token. -/
theorem session_ends_with_access :
    (refresh saltless.auth 2000 (RefreshTokens.drawn 2)
      (refreshTokenText 31 (RefreshTokens.drawn 1).secret)
    (final (Step.next saltless) office [bobsLogin, bobsStatus false, bobsStatus true])).1.isOk = false := by
  have calm : EveryStep (Step.next saltless) (fun step db => ¬LocksOut db step) office [bobsLogin,
    bobsStatus false, bobsStatus true] :=
    ⟨id, id, id, trivial⟩
  have fresh : Fresh saltless office [bobsLogin, bobsStatus false, bobsStatus true] := by
    refine ⟨List.nodup_singleton _, ?_⟩
    intro secret _ token stored
    exact absurd stored office_tokens
  have inactive :
      InactiveUser (final (Step.next saltless) office [bobsLogin, bobsStatus false]) 31 := by
    have found : ∃ user ∈ (final (Step.next saltless) office [bobsLogin, bobsStatus false]).users,
      user.id = 31 ∧ user.isActive = false := by decide
    exact found
  have answered : refreshToken saltless office bobsLogin =
    some (refreshTokenText 31 (RefreshTokens.drawn 1).secret) := by rfl
  exact (no_session_without_access saltless_truncates office_settled _).2 calm fresh [] bobsLogin
    [bobsStatus false] [bobsStatus true] rfl 31
    (RefreshTokens.drawn 1) rfl answered inactive 2000 (RefreshTokens.drawn 2)

end Example
end GenericIam.InactiveSessions
