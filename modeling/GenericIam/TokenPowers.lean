import GenericIam.BearerTokens

/-! What passwords are needed for and how long tokens outlive an account: permissions are gained
only by way of a password, and a deactivated user is out after one lifetime of a token. -/

namespace GenericIam.TokenPowers
open Table Database Identifiers CacheKeys AuthorizationCheck Transaction Handlers
open TenantWrites Controllers ReachableStates Runs Chronicles Delegation BearerTokens
open Reactivation (Reactivated)
open AuthService (Draw generateTokens redeem)
open LiveAccounts (InactiveUser)
open Privileges (State NoMore Standing Right has_within within_noMore)
open Coherence (Coherent)

/-! Logging in and the like gives nobody a permission. -/

section Accounts
variable {env : Environment} {db before db' : Db} {tenantId : Uuid} {step : Step} {now : Time}
  {made : LiveAccounts.Step}

theorem sameBut_generateTokens {auth : AuthService.Environment} {draw : Draw} {user : UserEntity}
    (same : SameBut [.refreshTokens] db before) :
    SameBut [.refreshTokens] db (generateTokens auth draw user before).2 := by
  unfold generateTokens
  split
  · next inserted =>
      exact @sameBut_step [.refreshTokens] .bypassRls db before _ (.insertRefreshToken _)
        (within_self rfl) same inserted
  · exact same

theorem sameBut_redeem {auth : AuthService.Environment} {refreshToken : String} :
    SameBut [.refreshTokens] db (redeem auth now refreshToken db).2 := by
  have dropped : ∀ id, SameBut [.refreshTokens] db (db.deleteRefreshToken id) :=
    fun id => @sameBut_apply .bypassRls db _ (.deleteRefreshToken id) rfl
  unfold redeem
  split
  · exact sameBut_refl
  · split
    · exact dropped _
    · split
      · exact sameBut_refl
      · exact dropped _

theorem sameBut_account (acts : Acts env step (.account now made)) (db : Db) :
    SameBut [.refreshTokens] db (made.next (env.clocked now) db) := by
  cases acts with
  | login arrival dto called =>
    simp only [LiveAccounts.Step.next, AuthService.login]
    split
    · exact sameBut_generateTokens sameBut_refl
    · exact sameBut_refl
    · exact sameBut_refl
  | refresh arrival refreshToken called =>
    have redeemed := @sameBut_redeem db arrival.now (env.clocked arrival.now).auth refreshToken
    simp only [LiveAccounts.Step.next, AuthService.refresh]
    split
    · next passed =>
      rw [passed] at redeemed
      exact sameBut_generateTokens redeemed
    · next passed =>
      rw [passed] at redeemed
      exact redeemed
  | impersonate arrival => exact sameBut_refl

theorem standing_tokens (same : SameBut [.refreshTokens] db db') (standing : Standing tenantId db) :
    Standing tenantId db' where
  here := by
    rw [Privileges.Here, same.tenants (by decide)]
    exact standing.here
  consistent := by
    constructor
    · rw [same.userRoles (by decide)]
      intro ur assigned
      rw [UsableRole, same.roles (by decide)]
      exact standing.consistent.held ur assigned
    · rw [same.resourceAcls (by decide)]
      exact standing.consistent.filled

theorem noMore_tokens (same : SameBut [.refreshTokens] db db') : NoMore tenantId db db' :=
  (Privileges.fewer_of_sameBut same (by decide) (by decide) (by decide) (by decide) (by decide)).noMore
    tenantId

end Accounts

/-! Permissions are gained by way of a password. -/

section Gains
variable {env : Environment} {tenantId : Uuid} {since : Time}

/-- Checks are made from the start of the run on, and bodies have passed validation. -/
def SoundStep (since : Time) : Step → Prop
  | .arrives arrival => since ≤ arrival.now ∧
      ∀ route op, arrival.call = .tenant route → Privileges.operation route = some op → op.Admissible
  | .checks now _ => since ≤ now
  | _ => True

theorem sound_act {step : Step} {made : Privileges.Step} (acts : Acts env step (.access made))
    (sound : SoundStep since step) :
    made.Sound since := by
  cases acts with
  | tenant arrival route own user called =>
    exact ⟨sound.1, fun op operates => sound.2 route op called operates⟩
  | checks now dto => exact sound
  | superAdmin _ _ _ | checkAcl _ _ _ | purges _ _ | loses _ => trivial

/-- The claims are those of a user of the tenant, and the request may give more to somebody. -/
def Wields (env : Environment) (tenantId : Uuid) (arrival : Arrival) (claims : Claims)
    (held : CheckAuthzDto Uuid) : Prop :=
  arrival.presents env = some claims ∧ claims.payload.tenantId = some tenantId ∧
    ∃ route permission, arrival.call = .tenant route ∧
    Privileges.power route = some permission ∧
      held = ⟨claims.payload.sub, tenantId, permission, none, none⟩

theorem tenantPrincipal_payload {claims : Claims} {user : TenantPrincipal Uuid}
    (read : claims.tenantPrincipal = some user) :
    claims.payload.sub = user.sub ∧ claims.payload.tenantId = some user.tenantId := by
  obtain ⟨payload, known, rest⟩ := Option.bind_eq_some_iff.mp read
  obtain ⟨tenantId, home, principal⟩ := Option.bind_eq_some_iff.mp rest
  obtain ⟨identityType, _, rfl⟩ := Option.map_eq_some_iff.mp known
  split at principal
  · cases principal
    exact ⟨rfl, home⟩
  · cases principal

theorem wields_act {step : Step} {made : Privileges.Step} {held : CheckAuthzDto Uuid}
    (acts : Acts env step (.access made)) (wields : made.Wields tenantId held) :
    ∃ arrival claims, step = .arrives arrival ∧ Wields env tenantId arrival claims held := by
  cases acts with
  | tenant arrival route own user called presented admitted =>
    obtain ⟨home, permission, powerful, rfl⟩ := wields
    obtain ⟨sub, tenant⟩ := tenantPrincipal_payload admitted
    refine ⟨arrival, own, rfl, presented, by rw [tenant, home], route, permission, called, powerful, ?_⟩
    rw [sub, home]
  | superAdmin _ _ _ | checkAcl _ _ _ | purges _ _ | checks _ _ | loses _ => exact wields.elim

theorem delegates (env : Environment) (tenantId : Uuid) (since : Time) :
    Delegates (Step.next env) (SoundStep since) (fun state => Standing tenantId state.db)
      (State.Has tenantId since)
      (fun step right => ∃ arrival claims held, step = .arrives arrival ∧
        Wields env tenantId arrival claims held ∧
      right = .decision held) where
  kept := by
    intro step state sound standing
    unfold Step.next
    cases done : step.act env with
    | none => exact standing
    | some act =>
      have acts := acts_of_act done
      cases act with
      | account now made => exact standing_tokens (sameBut_account acts state.db) standing
      | access made =>
        exact (Privileges.delegates env.services.operations tenantId since).kept
          (sound_act acts sound) standing
  grown := by
    intro step state right sound standing has
    unfold Step.next at has
    cases done : step.act env with
    | none =>
      rw [done] at has
      exact .inl has
    | some act =>
      rw [done] at has
      have acts := acts_of_act done
      cases act with
      | account now made =>
        refine .inl (has_within ?_ has)
        exact within_noMore (noMore_tokens (sameBut_account acts state.db))
      | access made =>
        rcases (Privileges.delegates env.services.operations tenantId since).grown
            (sound_act acts sound) standing has with
          before | ⟨used, ⟨held, wields, rfl⟩, before⟩
        · exact .inl before
        · obtain ⟨arrival, claims, arrives, wielded⟩ := wields_act acts wields
          exact .inr ⟨_, ⟨arrival, claims, held, arrives, wielded, rfl⟩, before⟩

/-- What a check allows after a run and did not allow at the start goes back to a request that
was let in for a user who was allowed, at the start, the permission that its route asks for; and
before that request his password has been presented, or that of a super admin in his place. -/
theorem gained_by_password (opens : env.jwt.Opens) {db : Db} (reached : Reachable db)
    (here : Privileges.Here tenantId db) {cache : Cache CacheKey}
    (coherent : Coherent tupleKeys db since cache) {steps : List Step}
    (sound : ∀ step ∈ steps, SoundStep since step)
    (unforged : EveryStep (record (Step.next env)) (Unforged env) ⟨⟨db, cache⟩, []⟩ steps)
    {now : Time} (later : since ≤ now) {dto : CheckAuthzDto Uuid} (own : dto.tenantId = tenantId)
    (denied : decision db since dto = false) :
    let last := final (Step.next env) ⟨db, cache⟩ steps
    (check tupleKeys last.db now last.cache dto).1.allowed = true →
      ∃ before arrival after claims held, steps = before ++ .arrives arrival :: after ∧
        Wields env tenantId arrival claims held ∧
        decision db since held = true ∧
        Backed env db (final (record (Step.next env)) ⟨⟨db, cache⟩, []⟩ before).past
            arrival claims := by
  intro last allowed
  have may : last.Has tenantId since (.decision dto) :=
    ⟨own, (Privileges.check_within own later).1 allowed⟩
  rcases (delegates env tenantId since).run
      (⟨here, reached.consistent⟩ : Standing tenantId db) sound may with
    before | ⟨step, member, right, ⟨arrival, claims, held, rfl, wields, rfl⟩, had⟩
  · obtain ⟨rfl, before⟩ := before
    rw [Privileges.decision_of_may coherent before] at denied
    cases denied
  · have backed :=
      everyStep_along unforged (rooted_start ⟨db, cache⟩) fun step chronicle rooted true_ =>
      rooted_step opens rooted true_
    obtain ⟨before, after, split, rooted, true_⟩ := everyStep_mem backed member
    have right : decision db since held = true := by
      obtain ⟨home, held⟩ := had
      rw [← home] at held
      exact Privileges.decision_of_may coherent held
    exact ⟨before, arrival, after, claims, held, split, wields, right,
      presented_backed opens rooted true_ wields.1⟩

end Gains

/-! A deactivated user is out when the last of his tokens has expired. -/

section Deactivation
variable {env : Environment} {userId : Uuid} {state : State} {chronicle : Chronicle State Step}
  {step : Step} {arrival : Arrival}

def Present (userId : Uuid) (db : Db) : Prop := ∃ user ∈ db.users, user.id = userId

theorem present_send {session : Session} {write : Write} {db db' : Db} (present : Present userId db)
    (sent : send session write db = .ok db') :
    Present userId db' := by
  obtain ⟨old, member, same⟩ := present
  obtain ⟨user, there, own, _⟩ := users_kept (send_ok sent) member
  exact ⟨user, there, own.trans same⟩

theorem present_serve {α : Type} {session : Session} {ids : Nat → Uuid} {db : Db}
    (handler : Handler Uuid α) (present : Present userId db) :
    Present userId (serve (engine Uuid session) ids handler db).db :=
  serve_keeps present_send present_send handler present

theorem present_next (step : Step) (present : Present userId state.db) :
    Present userId (step.next env state).db := by
  unfold Step.next
  cases done : step.act env with
  | none => exact present
  | some act =>
    cases act with
    | account now made => exact LiveAccounts.user_next made present
    | access made =>
      cases made with
      | request ids now user route =>
        cases admitted : (state.request ids now user route).guards with
        | error refused =>
          simp only [Option.map_some, Option.getD_some, Act.next, Privileges.Step.next,
            Request.serve_refused admitted]
          exact present
        | ok _ =>
          simp only [Option.map_some, Option.getD_some, Act.next, Privileges.Step.next,
            Request.serve_admitted admitted]
          exact present_serve _ present
      | superAdmin ids actorId operation => exact present_serve _ present
      | purge ids now => exact present_serve _ present
      | check _ _ | aclCheck _ _ | forget _ => exact present

theorem inactive_next (inactive : InactiveUser state.db userId)
    (still : ¬Reactivated state.db (step.next env state).db userId) :
    InactiveUser (step.next env state).db userId := by
  obtain ⟨old, member, same, off⟩ := inactive
  obtain ⟨user, there, kept⟩ := @present_next env userId state step ⟨old, member, same⟩
  refine ⟨user, there, kept, ?_⟩
  by_contra on
  rw [Bool.not_eq_false] at on
  exact still ⟨⟨old, member, same, off⟩, user, there, kept, on⟩

def Deactivates (env : Environment) (userId : Uuid) (arrival : Arrival) (state : State) : Prop :=
  ∃ claims user, arrival.call = .tenant (.updateStatus userId false) ∧
    arrival.presents env = some claims ∧
    claims.tenantPrincipal = some user ∧
    ((state.request arrival.ids arrival.now user (.updateStatus userId false)).serve
      env.services.operations state.db).1 = .ok ()

theorem inactive_of_deactivates (deactivates : Deactivates env userId arrival state) :
    InactiveUser ((Step.arrives arrival).next env state).db userId := by
  obtain ⟨claims, user, called, presented, principal, done⟩ := deactivates
  have acts : arrival.act env =
      some (.access (.request arrival.ids arrival.now user (.updateStatus userId false))) := by
    simp only [Arrival.act, called, presented, Option.bind_some, principal, Option.map_some]
  simp only [Step.next, Step.act, acts, Option.map_some, Option.getD_some, Act.next,
    Privileges.Step.next]
  cases admitted : (state.request arrival.ids arrival.now user (.updateStatus userId false)).guards with
  | error refused =>
    rw [Request.serve_refused admitted] at done
    cases done
  | ok _ =>
    rw [Request.serve_admitted admitted] at done ⊢
    exact @LiveAccounts.inactive_of_deactivatesUser env.services state.db userId _ ⟨arrival.ids,
      user.tenantId, user.sub,
      rfl, congrArg some done⟩

/-- What a run keeps to from the deactivation on: the user is not active, and requests that found
him active were not made after it. -/
structure Leaving (userId : Uuid) (left : Time) (chronicle : Chronicle State Step) : Prop where
  inactive : InactiveUser chronicle.state.db userId
  earlier : ∀ arrival state, (.arrives arrival, state) ∈ chronicle.past → arrival.now ≤ left ∨
    InactiveUser state.db userId

theorem leaving_step {left : Time} (leaving : Leaving userId left chronicle)
    (still : ¬Reactivated chronicle.state.db (step.next env chronicle.state).db userId) :
    Leaving userId left (record (Step.next env) step chronicle) where
  inactive := inactive_next leaving.inactive still
  earlier := by
    intro arrival state member
    rcases List.mem_append.mp member with old | new
    · exact leaving.earlier arrival state old
    · cases List.mem_singleton.mp new
      exact .inr leaving.inactive

/-- Whoever is granted a token as a user was active. -/
theorem grants_active {db : Db} {claims : Claims} (grants : Grants env arrival db claims)
    (asUser : claims.payload.identityType = "USER") :
    lifetime env claims = env.services.auth.accessLifetime ∧
      ∃ user ∈ db.users, user.id = claims.payload.sub ∧ user.isActive = true := by
  cases grants with
  | login user stored active => exact ⟨rfl, user, stored, rfl, active⟩
  | refresh user stored active => exact ⟨rfl, user, stored, rfl, active⟩
  | superAdmin superAdmin => simp [superAdminClaims] at asUser
  | impersonation user => simp [impersonationClaims] at asUser

/-- Once a user has been deactivated, and as long as nobody sets the flag again, he is let in
with the tokens that he had for less than one lifetime of a token. -/
theorem out_after_lifetime (opens : env.jwt.Opens) {start : State} {before after : List Step}
    (unforged : EveryStep (record (Step.next env)) (Unforged env) ⟨start, []⟩
      (before ++ .arrives arrival :: after))
    (deactivates : Deactivates env userId arrival
      (final (record (Step.next env)) ⟨start, []⟩ before).state)
    (latest : ∀ earlier state,
      (.arrives earlier, state) ∈ (final (record (Step.next env)) ⟨start, []⟩ before).past →
    earlier.now ≤ arrival.now)
    (calm : EveryStep (record (Step.next env)) (fun step chronicle =>
    ¬Reactivated chronicle.state.db (step.next env chronicle.state).db userId)
      (record (Step.next env) (.arrives arrival) (final (record (Step.next env)) ⟨start, []⟩ before))
        after) :
    EveryStep (record (Step.next env))
      (fun step _ => ∀ later claims, step = .arrives later → later.presents env = some claims →
        claims.payload.sub = userId → claims.payload.identityType = "USER" →
          (seconds later.now : Int) < seconds arrival.now + env.services.auth.accessLifetime)
      (record (Step.next env) (.arrives arrival) (final (record (Step.next env)) ⟨start, []⟩ before))
        after := by
  have leaving : Leaving userId arrival.now (record (Step.next env) (.arrives arrival)
    (final (record (Step.next env)) ⟨start, []⟩ before)) := by
    refine ⟨inactive_of_deactivates deactivates, ?_⟩
    intro earlier state member
    rcases List.mem_append.mp member with old | new
    · exact .inl (latest earlier state old)
    · cases List.mem_singleton.mp new
      exact .inl (Nat.le_refl _)
  have rest := everyStep_and (everyStep_drop unforged).2 calm
  have along := everyStep_along rest leaving fun step chronicle leaving both =>
    leaving_step leaving both.2
  apply along.mono
  intro step chronicle both later claims arrives presented own asUser
  obtain ⟨leaving, unforged, _⟩ := both
  subst arrives
  obtain ⟨earlier, state, _, member, _, _, _, granted, early⟩ :=
    presented_granted opens unforged presented
  obtain ⟨lasts, user, stored, key, active⟩ := grants_active granted asUser
  rw [lasts] at early
  rcases leaving.earlier earlier state member with before | inactive
  · have clock : seconds earlier.now ≤ seconds arrival.now := Nat.div_le_div_right before
    omega
  · obtain ⟨old, there, same, off⟩ := inactive
    rw [eq_of_key_eq there stored (same.trans (own.symm.trans key.symm)), active] at off
    cases off

end Deactivation

/-! Ada, who has logged in, creates Cy as a second admin; or Bob logs in as well, is deactivated by
her, and asks for something with the token that he has. -/

section Example
open Reactivation (office office_reachable countedFrom)

def ada : TenantPrincipal Uuid := ⟨22, 21, .USER, ReadRoutes.user_ordinary⟩

theorem bearing_act {jwt : JsonWebToken} (opens : jwt.Opens)
    (unspaced : ' ' ∉ (jwt.sign adasClaims 1 900).toList) (digit : BitVec 8) (route : Route Uuid) :
    (bearing jwt adasClaims digit (.tenant route)).act (signedOffice jwt) =
      some (.access (.request (countedFrom 41) 1000 ada route)) := by
  have called : (bearing jwt adasClaims digit (.tenant route)).call = .tenant route := rfl
  have presented : (bearing jwt adasClaims digit (.tenant route)).presents (signedOffice jwt) =
    some adasClaims :=
    bearing_presents opens unspaced digit rfl
  simp only [Arrival.act, called, presented, Option.bind_some]
  rfl

def promotion : Route Uuid := .createUser ⟨"cy@acme.io", "hidden", "Cy", "Cole", none, some 11⟩

def promoting (jwt : JsonWebToken) : List Step :=
  [.arrives adasLogin, .arrives (bearing jwt adasClaims 2 (.tenant promotion))]

theorem promoting_final {jwt : JsonWebToken} (opens : jwt.Opens)
    (unspaced : ' ' ∉ (jwt.sign adasClaims 1 900).toList) :
    final (Step.next (signedOffice jwt)) ⟨office, .empty⟩ (promoting jwt) =
      Privileges.Step.next (signedOffice jwt).services.operations
        (.request (countedFrom 41) 1000 ada promotion)
        ((Step.arrives adasLogin).next (signedOffice jwt) ⟨office, .empty⟩) := by
  simp only [promoting, final, List.foldl_cons, List.foldl_nil]
  rw [Step.next, Step.act, bearing_act opens unspaced]
  rfl

theorem gained_by_password_ada :
    ∃ before arrival after claims held, promoting plainJwt = before ++ .arrives arrival :: after ∧
    Wields (signedOffice plainJwt) 21 arrival claims held ∧
      decision office 0 held = true ∧ Backed (signedOffice plainJwt) office
        (final (record (Step.next (signedOffice plainJwt))) ⟨⟨office, .empty⟩, []⟩ before).past
          arrival claims := by
  have sound : ∀ step ∈ promoting plainJwt, SoundStep 0 step := by
    intro step member
    rcases List.mem_cons.mp member with rfl | others
    · refine ⟨Nat.zero_le _, ?_⟩
      intro route op called
      cases called
    · rw [List.mem_singleton.mp others]
      refine ⟨Nat.zero_le _, ?_⟩
      intro route op called operates
      cases called
      cases operates
      trivial
  have here : Privileges.Here 21 office := by
    change ∃ tenant ∈ office.tenants.rows, tenant.id = 21
    decide
  have unforged : EveryStep (record (Step.next (signedOffice plainJwt)))
    (Unforged (signedOffice plainJwt)) ⟨⟨office, .empty⟩, []⟩
      (promoting plainJwt) :=
    ⟨adasLogin_unforged _ _,
      bearing_unforged plainJwt_adas (adasLogin_answer plainJwt) (List.mem_singleton_self _), trivial⟩
  have denied : decision office 0 (⟨41, 21, "user.write", none, none⟩ : CheckAuthzDto Uuid) =
    false := by decide
  apply gained_by_password plainJwt_opens office_reachable here (Store.coherent_empty _) sound unforged
    (Nat.le_refl 0) rfl denied
  rw [promoting_final plainJwt_opens plainJwt_adas]
  decide

def bobsLogin : Arrival :=
  ⟨none, RefreshTokens.drawn 3, countedFrom 41, .login ⟨"bob@acme.io", "hidden"⟩⟩

def bobsClaims : Claims := ⟨⟨31, "bob@acme.io", some 21, "USER"⟩, none⟩

theorem plainJwt_bobs :
    ' ' ∉ (plainJwt.sign bobsClaims 1 900).toList := plainJwt_unspaced (by decide) (by decide)

theorem bobsLogin_answer (jwt : JsonWebToken) : (Step.arrives bobsLogin).answer (signedOffice jwt)
    ((Step.arrives adasLogin).next (signedOffice jwt) ⟨office, .empty⟩) =
      some (jwt.sign bobsClaims 1 900) := rfl

theorem bobsLogin_unforged (jwt : JsonWebToken) (chronicle : Chronicle State Step) :
    Unforged (signedOffice jwt) (.arrives bobsLogin) chronicle := by
  intro arrival claims same presented
  cases same
  cases presented

def bobsQuestion (jwt : JsonWebToken) : Arrival :=
  bearing jwt bobsClaims 4 (.checkAcl ⟨31, "doc", "7", "doc.read"⟩)

def logins : List Step := [.arrives adasLogin, .arrives bobsLogin]

theorem question_db {arrival : Arrival} {dto : CheckAclDto Uuid}
    (asks : arrival.call = .checkAcl dto) (env : Environment) (state : State) :
    ((Step.arrives arrival).next env state).db = state.db := by
  simp only [Step.next, Step.act, Arrival.act, asks]
  cases (arrival.presents env).bind Claims.tenantPrincipal with
  | none => rfl
  | some user => rfl

theorem logins_deactivates : Deactivates (signedOffice plainJwt) 31 (bobsDeactivation plainJwt)
    (final (record (Step.next (signedOffice plainJwt))) ⟨⟨office, .empty⟩, []⟩ logins).state :=
  ⟨adasClaims, ada, rfl, bearing_presents plainJwt_opens plainJwt_adas 2 rfl, rfl, by decide⟩

theorem out_after_lifetime_bob :
    let env := signedOffice plainJwt
    let there := final (record (Step.next env)) ⟨⟨office, .empty⟩, []⟩ logins
    (bobsQuestion plainJwt).presents env = some bobsClaims ∧
      EveryStep (record (Step.next env)) (fun step _ => ∀ later claims, step = .arrives later →
        later.presents env = some claims →
          claims.payload.sub = 31 → claims.payload.identityType = "USER" →
            (seconds later.now : Int) < seconds
              (bobsDeactivation plainJwt).now + env.services.auth.accessLifetime)
        (record (Step.next env) (.arrives (bobsDeactivation plainJwt)) there)
            [.arrives (bobsQuestion plainJwt)] := by
  intro env there
  refine ⟨bearing_presents plainJwt_opens plainJwt_bobs 4 rfl, ?_⟩
  refine out_after_lifetime plainJwt_opens ?_ logins_deactivates ?_ ⟨?_, trivial⟩
  · refine ⟨adasLogin_unforged _ _, bobsLogin_unforged _ _, ?_, ?_, trivial⟩
    · exact bearing_unforged plainJwt_adas (adasLogin_answer plainJwt) (List.mem_cons_self ..)
    · exact bearing_unforged plainJwt_bobs (bobsLogin_answer plainJwt)
        (List.mem_cons_of_mem _ (List.mem_cons_self ..))
  · intro earlier state member
    rcases List.mem_cons.mp member with first | others
    · cases first
      exact Nat.le_refl _
    · cases List.mem_singleton.mp others
      exact Nat.le_refl _
  · exact Reactivation.not_reactivated (congrArg Db.users (question_db rfl env _))

end Example
end GenericIam.TokenPowers
