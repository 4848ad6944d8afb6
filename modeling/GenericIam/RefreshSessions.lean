import GenericIam.RefreshTokens
import GenericIam.AccountServices

/-! Calls that log in, refresh, log out and change users one after the other, and the
history of tokens that they leave. A token is good for a refresh exactly as long as the
history says so. -/

namespace GenericIam.RefreshSessions
open Table Database Identifiers Transaction Handlers AccountServices AuthService RefreshTokens

/-- What may happen to tokens: a pair is generated for a user, the token with a secret is
exchanged, the tokens of a user are revoked. -/
inductive Happened where
  | issued (draw : Draw) (user : UserEntity)
  | exchanged (secret : String)
  | revoked (userId : Uuid)

def RevokedSince (history : List Happened) (draw : Draw) (user : UserEntity) : Prop :=
  [Happened.issued draw user, .revoked user.id].Sublist history

def Live (history : List Happened) (draw : Draw) (user : UserEntity) : Prop :=
  Happened.exchanged draw.secret ∉ history ∧ ¬ RevokedSince history draw user

section Histories
variable {history : List Happened} {draw : Draw} {user : UserEntity}

theorem revokedSince_append (next : Happened) : RevokedSince (history ++ [next]) draw user ↔
    RevokedSince history draw user ∨
      (next = .revoked user.id ∧ Happened.issued draw user ∈ history) := by
  unfold RevokedSince
  constructor
  · intro both
    obtain ⟨early, late, split, left, right⟩ := List.sublist_append_iff.mp both
    rcases List.sublist_singleton.mp right with empty | last
    · subst empty
      rw [List.append_nil] at split
      exact .inl (split ▸ left)
    · subst last
      cases early with
      | nil => cases split
      | cons first rest =>
        cases rest with
        | nil =>
          cases split
          exact .inr ⟨rfl, left.subset List.mem_cons_self⟩
        | cons second more => cases more <;> cases split
  · intro either
    rcases either with before | ⟨now, issued⟩
    · exact before.trans (List.sublist_append_left _ _)
    · subst now
      exact List.Sublist.append (List.singleton_sublist.mpr issued) (List.Sublist.refl _)

theorem live_issued (other : Draw) (owner : UserEntity) :
    Live (history ++ [.issued other owner]) draw user ↔ Live history draw user := by
  simp [Live, revokedSince_append]

theorem live_exchanged (secret : String) : Live (history ++ [.exchanged secret]) draw user ↔
    Live history draw user ∧ draw.secret ≠ secret := by
  simp only [Live, revokedSince_append, List.mem_append, List.mem_singleton,
    Happened.exchanged.injEq, not_or,
    reduceCtorEq, false_and, or_false]
  exact and_right_comm

theorem live_revoked (issued : Happened.issued draw user ∈ history) (userId : Uuid) :
    Live (history ++ [.revoked userId]) draw user ↔ Live history draw user ∧ user.id ≠ userId := by
  simp only [Live, revokedSince_append, List.mem_append, List.mem_singleton,
    reduceCtorEq, or_false, not_or,
    Happened.revoked.injEq, issued, and_true, and_assoc, ne_comm (a := user.id), Ne]

end Histories

/-- The stored tokens are those of the history: a token is stored while it is live, unless
it has expired, and not any more afterwards. -/
structure Kept (env : Environment) (now : Time) (drawn : List String) (history : List Happened)
    (tokens : Table RefreshTokenEntity) : Prop where
  accounted : Accounted env id drawn tokens
  issued : ∀ draw user, Happened.issued draw user ∈ history → draw.secret ∈ drawn
  exchanged : ∀ secret, Happened.exchanged secret ∈ history → secret ∈ drawn
  itself : ∀ draw user, Happened.issued draw user ∈ history →
    ∀ row ∈ tokens, StandsFor env id row draw.secret →
    row = createToken env draw user
  present : ∀ draw user, Happened.issued draw user ∈ history → Live history draw user →
    createToken env draw user ∈ tokens ∨ (createToken env draw user).expiresAt < now
  absent : ∀ draw user, Happened.issued draw user ∈ history → ¬ Live history draw user →
    ∀ row ∈ tokens, ¬ StandsFor env id row draw.secret

section Kept
variable {env : Environment} {now : Time} {drawn : List String} {history : List Happened}
  {tokens later : Table RefreshTokenEntity}

/-- Time passes and more secrets are drawn. -/
theorem Kept.wait (kept : Kept env now drawn history tokens) {then_ : Time} {more : List String}
    (passed : now ≤ then_) (known : ∀ secret ∈ drawn, secret ∈ more) :
    Kept env then_ more history tokens where
  accounted := kept.accounted.subset (fun _ member => member) known
  issued := fun draw user member => known _ (kept.issued draw user member)
  exchanged := fun other member => known _ (kept.exchanged other member)
  itself := kept.itself
  present := fun draw user member live =>
    (kept.present draw user member live).imp_right fun expired => Nat.lt_of_lt_of_le expired passed
  absent := kept.absent

theorem Kept.expire (kept : Kept env now drawn history tokens) {row : RefreshTokenEntity}
    (member : row ∈ tokens) (expired : row.expiresAt < now)
    (rest : ∀ other, other ∈ later ↔ other ∈ tokens ∧ other.id ≠ row.id) :
    Kept env now drawn history later where
  accounted := kept.accounted.subset (fun other present => ((rest other).mp present).1) fun _ known => known
  issued := kept.issued
  exchanged := kept.exchanged
  itself := fun draw user issued other present =>
    kept.itself draw user issued other ((rest other).mp present).1
  present := by
    intro draw user issued live
    rcases kept.present draw user issued live with stored | before
    · by_cases same : (createToken env draw user).id = row.id
      · have whole : createToken env draw user = row := eq_of_key_eq stored member same
        exact .inr (whole ▸ expired)
      · exact .inl ((rest _).mpr ⟨stored, same⟩)
    · exact .inr before
  absent := fun draw user issued dead other present =>
    kept.absent draw user issued dead other ((rest other).mp present).1

theorem mem_issued_append {next : Happened} {draw : Draw} {user : UserEntity}
    (other : ∀ draw user, next ≠ .issued draw user)
    (member : Happened.issued draw user ∈ history ++ [next]) :
    Happened.issued draw user ∈ history := by
  rcases List.mem_append.mp member with old | new
  · exact old
  · exact absurd (List.mem_singleton.mp new).symm (other draw user)

theorem Kept.revoke (kept : Kept env now drawn history tokens) (userId : Uuid)
    (rest : ∀ other, other ∈ later ↔ other ∈ tokens ∧ other.userId ≠ userId) :
    Kept env now drawn (history ++ [.revoked userId]) later := by
  have old : ∀ draw user, Happened.issued draw user ∈ history ++ [.revoked userId] →
    Happened.issued draw user ∈ history :=
    fun _ _ => mem_issued_append (by simp)
  refine ⟨?_, ?_, ?_, ?_, ?_, ?_⟩
  · exact kept.accounted.subset (fun other present => ((rest other).mp present).1) fun _ known => known
  · exact fun draw user member => kept.issued draw user (old draw user member)
  · intro secret member
    exact kept.exchanged secret (by simpa using member)
  · intro draw user member other present
    exact kept.itself draw user (old draw user member) other ((rest other).mp present).1
  · intro draw user member live
    obtain ⟨alive, another⟩ := (live_revoked (old draw user member) userId).mp live
    exact (kept.present draw user (old draw user member) alive).imp_left fun stored =>
      (rest _).mpr ⟨stored, another⟩
  · intro draw user member dead other present stands
    obtain ⟨stored, another⟩ := (rest other).mp present
    have issued := old draw user member
    have own : other = createToken env draw user := kept.itself draw user issued other stored stands
    have different : user.id ≠ userId := by
      intro same
      exact another (by rw [own]; exact same)
    have gone : ¬ Live history draw user := fun alive =>
      dead ((live_revoked issued userId).mpr ⟨alive, different⟩)
    exact kept.absent draw user issued gone other stored stands

theorem Kept.exchange (exact : env.Exact) (kept : Kept env now drawn history tokens)
    {row : RefreshTokenEntity} {secret : String} (member : row ∈ tokens)
    (stands : StandsFor env id row secret) (known : secret ∈ drawn)
    (rest : ∀ other, other ∈ later ↔ other ∈ tokens ∧ other.id ≠ row.id) :
    Kept env now drawn (history ++ [.exchanged secret]) later := by
  have old : ∀ draw user, Happened.issued draw user ∈ history ++ [.exchanged secret] →
    Happened.issued draw user ∈ history :=
    fun _ _ => mem_issued_append (by simp)
  refine ⟨?_, ?_, ?_, ?_, ?_, ?_⟩
  · exact kept.accounted.subset (fun other present => ((rest other).mp present).1) fun _ drawn => drawn
  · exact fun draw user issued => kept.issued draw user (old draw user issued)
  · intro other spent
    rcases List.mem_append.mp spent with before | now
    · exact kept.exchanged other before
    · cases List.mem_singleton.mp now
      exact known
  · intro draw user issued other present
    exact kept.itself draw user (old draw user issued) other ((rest other).mp present).1
  · intro draw user issued live
    obtain ⟨alive, another⟩ := (live_exchanged secret).mp live
    rcases kept.present draw user (old draw user issued) alive with stored | expired
    · refine .inl ((rest _).mpr ⟨stored, fun same => ?_⟩)
      have whole : createToken env draw user = row := eq_of_key_eq stored member same
      exact another ((createToken_standsFor (compares_of_exact exact) draw user).eq (whole ▸ stands))
    · exact .inr expired
  · intro draw user issued dead other present opens
    obtain ⟨stored, different⟩ := (rest other).mp present
    by_cases same : draw.secret = secret
    · rw [same] at opens
      exact different (by rw [kept.accounted.single other stored row member secret opens stands])
    · have gone : ¬ Live history draw user := fun alive =>
        dead ((live_exchanged secret).mpr ⟨alive, same⟩)
      exact kept.absent draw user (old draw user issued) gone other stored opens

theorem Kept.issue (exact : env.Exact) (kept : Kept env now drawn history tokens) {draw : Draw}
    {user : UserEntity} (fresh : draw.secret ∉ drawn)
    (inserted : tokens.insert (createToken env draw user) = some later) :
    Kept env now (draw.secret :: drawn) (history ++ [.issued draw user]) later := by
  have stands := createToken_standsFor (compares_of_exact exact) draw user
  have either : ∀ other owner, Happened.issued other owner ∈ history ++ [.issued draw user] →
      Happened.issued other owner ∈ history ∨ (other = draw ∧ owner = user) := by
    intro other owner member
    simpa using member
  have unissued : id draw.secret ∉ drawn.map id := by rwa [List.map_id]
  -- no event of the history carries the new secret
  have live : Live history draw user := by
    constructor
    · exact fun spent => fresh (kept.exchanged draw.secret spent)
    · exact fun since => fresh (kept.issued draw user (since.subset List.mem_cons_self))
  refine ⟨kept.accounted.insert stands unissued inserted, ?_, ?_, ?_, ?_, ?_⟩
  · intro other owner member
    rcases either other owner member with old | ⟨same, _⟩
    · exact List.mem_cons_of_mem _ (kept.issued other owner old)
    · rw [same]
      exact List.mem_cons_self
  · intro secret member
    exact List.mem_cons_of_mem _ (kept.exchanged secret (by simpa using member))
  · intro other owner member row present opens
    rcases either other owner member with old | ⟨same, own⟩
    · rcases (mem_insert inserted).mp present with stored | new
      · exact kept.itself other owner old row stored opens
      · have clash : other.secret = draw.secret := opens.eq (new ▸ stands)
        exact absurd (clash ▸ kept.issued other owner old) fresh
    · subst same own
      rcases (mem_insert inserted).mp present with stored | new
      · exact absurd opens (kept.accounted.unopened stored unissued)
      · exact new
  · intro other owner member alive
    rcases either other owner member with old | ⟨same, own⟩
    · have before := kept.present other owner old ((live_issued draw user).mp alive)
      exact before.imp_left fun stored => (mem_insert inserted).mpr (.inl stored)
    · subst same own
      exact .inl ((mem_insert inserted).mpr (.inr rfl))
  · intro other owner member dead row present opens
    rcases either other owner member with old | ⟨same, own⟩
    · have gone : ¬ Live history other owner := fun alive => dead ((live_issued draw user).mpr alive)
      rcases (mem_insert inserted).mp present with stored | new
      · exact kept.absent other owner old gone row stored opens
      · have clash : other.secret = draw.secret := opens.eq (new ▸ stands)
        exact fresh (clash ▸ kept.issued other owner old)
    · subst same own
      exact dead ((live_issued other owner).mpr live)

end Kept

/-! What the handlers of the user service do to tokens. -/

section Handlers
variable {Id : Type} {session : Session} {keys : Nat → Uuid} {db : Db} {tx : Tx (effects Id) Db}

def anything : Monitor (effects Id) Db := ⟨fun _ _ => True, fun _ _ => True⟩

def Untouched (db : Db) (tx : Tx (effects Id) Db) : Prop :=
  tx.db.refreshTokens = db.refreshTokens ∧ tx.outside = []

theorem wp_saveUser (user : UserEntity) (untouched : Untouched db tx) :
    wp (engine Id session) keys anything (saveUser user) (fun _ after => Untouched db after)
      (fun _ after => Untouched db after) tx := by
  unfold saveUser
  rw [wp_bind, wp_visible]
  split
  · next stored _ =>
    refine wp_persist trivial ?_ untouched
    intro next applied
    have whole := updateUser_some applied
    subst whole
    exact untouched
  · refine wp_persist trivial ?_ untouched
    intro next applied
    simp only [Write.apply] at applied
    split at applied
    · obtain ⟨users, _, rfl⟩ := insertUser_some applied
      exact untouched
    · cases applied

variable [Identifier Id]

theorem wp_findUser {id : Id} {post : UserEntity → Tx (effects Id) Db → Prop}
    {fail : HttpException → Tx (effects Id) Db → Prop} (found : ∀ user, post user tx)
    (missing : fail (.notFound "Entity not found") tx) :
    wp (engine Id session) keys anything (findUser id) post fail tx := by
  unfold findUser
  rw [wp_bind, wp_visible]
  exact wp_orThrow (fun user _ => found user) fun _ => missing

variable [DecidableEq Id]

variable (session keys) in
theorem wp_updateUser (id : Id) (dto : UpdateUserDto Id) (tenantId actorId : Id)
    (untouched : Untouched db tx) :
    wp (engine Id session) keys anything (updateUser id dto tenantId actorId) (fun _ after =>
      Untouched db after)
      (fun _ after => Untouched db after) tx := by
  unfold updateUser
  rw [wp_bind]
  refine wp_findUser ?_ untouched
  intro user
  rw [wp_bind]
  refine wp_refuseIf (fun _ => ?_) fun _ => untouched
  rw [wp_bind]
  refine wp_refuseIf (fun _ => ?_) fun _ => untouched
  rw [wp_bind]
  exact wp_mono (wp_saveUser _ untouched) (fun _ _ kept => kept) fun _ _ kept => kept

/-- What a change of the status leaves: the tokens are deleted when it takes access away. -/
def Deactivated (db : Db) (userId : Uuid) (isActive : Bool) (tx : Tx (effects Id) Db) : Prop :=
  tx.db.refreshTokens = if isActive then db.refreshTokens
    else (db.deleteRefreshTokensOf userId).refreshTokens

variable (session keys) in
theorem wp_setActivation (id tenantId : Id) (isActive : Bool) (actorId : Id)
    (untouched : Untouched db tx) :
    wp (engine Id session) keys anything (setActivation id tenantId isActive actorId)
      (fun _ after => Deactivated db (value id) isActive after) (fun _ after =>
        Untouched db after) tx := by
  unfold setActivation
  rw [wp_bind]
  refine wp_findUser ?_ untouched
  intro user
  rw [wp_bind]
  refine wp_refuseIf (fun _ => ?_) fun _ => untouched
  rw [wp_bind]
  refine wp_mono (wp_saveUser _ untouched) ?_ fun _ _ kept => kept
  intro _ after kept
  cases isActive with
  | true => exact kept.1
  | false =>
    simp only [Bool.not_false, if_true, wp_bind]
    refine wp_attemptDetached trivial ?_ ?_
    · intro next sent
      have went : send .bypassRls (.deleteRefreshTokensOf (value id)) after.db = .ok next := sent
      have applied : next = after.db.deleteRefreshTokensOf (value id) :=
        (Option.some.inj (send_ok went)).symm
      simp only [wp_bind, wp_emit, Deactivated, applied, Db.deleteRefreshTokensOf, kept.1]
      rfl
    · intro why refused
      cases refused

theorem serve_updateUser (id : Id) (dto : UpdateUserDto Id) (tenantId actorId : Id) :
    (serve (engine Id session) keys (updateUser id dto tenantId actorId) db).db.refreshTokens =
      db.refreshTokens := by
  have start : Untouched db (⟨db, [], [], [], 0⟩ : Tx (effects Id) Db) := ⟨rfl, rfl⟩
  have ended := serve_post (wp_updateUser session keys id dto tenantId actorId start)
  split at ended
  · rw [ended.2]
    exact ended.1.1
  · rw [ended.2, ended.1.2]
    rfl

/-- Only a request that takes access away and goes through deletes tokens, those of its user. -/
theorem serve_setActivation (id tenantId : Id) (isActive : Bool) (actorId : Id) :
    let served := serve (engine Id session) keys (setActivation id tenantId isActive actorId) db
    served.db.refreshTokens = if served.result.isOk &&
      !isActive then (db.deleteRefreshTokensOf (value id)).refreshTokens
      else db.refreshTokens := by
  intro served
  have start : Untouched db (⟨db, [], [], [], 0⟩ : Tx (effects Id) Db) := ⟨rfl, rfl⟩
  have ended := serve_post (wp_setActivation session keys id tenantId isActive actorId start)
  cases returned : served.result with
  | ok value =>
    rw [returned] at ended
    rw [ended.2]
    cases isActive with
    | true => exact ended.1
    | false => exact ended.1
  | error error =>
    rw [returned] at ended
    rw [ended.2, ended.1.2]
    rfl

end Handlers

/-! The calls. -/

inductive Call (Id : Type) where
  | login (dto : LoginDto)
  | refresh (refreshToken : String)
  | logout (userId : Id)
  | setActivation (id tenantId : Id) (isActive : Bool) (actorId : Id)
  | updateUser (id : Id) (dto : UpdateUserDto Id) (tenantId actorId : Id)

/-- A call with the time at which it reads the clock, the draw for the tokens that it may
generate and the session and keys of its transaction. -/
structure Request (Id : Type) where
  call : Call Id
  now : Time
  draw : Draw
  session : Session
  keys : Nat → Uuid

structure Ledger where
  db : Db
  now : Time
  drawn : List String
  history : List Happened := []

def generated (env : Environment) (draw : Draw) (user : UserEntity) (db : Db) : List Happened :=
  if (generateTokens env draw user db).1.isOk then [.issued draw user] else []

def loggedIn (env : Environment) (draw : Draw) (dto : LoginDto) (db : Db) : List Happened :=
  match authenticate env dto db with
  | .ok (.inl user) => generated env draw user db
  | _ => []

def refreshed (env : Environment) (now : Time) (draw : Draw) (refreshToken : String)
    (db : Db) : List Happened :=
  match findValidToken env refreshToken db, redeem env now refreshToken db with
  | .ok (secret, _), (.ok user, rest) =>
      if (generateTokens env draw user rest).1.isOk then [.exchanged secret, .issued draw user] else []
  | _, _ => []

variable {Id : Type} [Identifier Id] [DecidableEq Id]

def outcome (env : Environment) (request : Request Id) (db : Db) : Db × List Happened :=
  match request.call with
  | .login dto => ((login env request.draw dto db).2, loggedIn env request.draw dto db)
  | .refresh refreshToken =>
      ((refresh env request.now request.draw refreshToken db).2,
        refreshed env request.now request.draw refreshToken db)
  | .logout userId => (logout (value userId) db, [.revoked (value userId)])
  | .setActivation id tenantId isActive actorId =>
      let served :=
        serve (engine Id request.session) request.keys (setActivation id tenantId isActive actorId) db
      (served.db, if served.result.isOk && !isActive then [.revoked (value id)] else [])
  | .updateUser id dto tenantId actorId =>
      ((serve (engine Id request.session) request.keys (updateUser id dto tenantId actorId) db).db, [])

/-- The clock has not gone back, the secret has not been drawn before and the key of the
row is not taken. -/
structure Valid (ledger : Ledger) (now : Time) (draw : Draw) : Prop where
  later : ledger.now ≤ now
  ordered : now ≤ draw.now
  secret : draw.secret ∉ ledger.drawn
  rowId : ∀ row ∈ ledger.db.refreshTokens, row.id ≠ draw.rowId

def Ledger.after (env : Environment) (ledger : Ledger) (request : Request Id) : Ledger where
  db := (outcome env request ledger.db).1
  now := request.draw.now
  drawn := request.draw.secret :: ledger.drawn
  history := ledger.history ++ (outcome env request ledger.db).2

inductive Runs (Id : Type) [Identifier Id] [DecidableEq Id] (env : Environment) (first : Ledger) :
    Ledger → Prop where
  | start : Runs Id env first first
  | next {last : Ledger} {request : Request Id} (run : Runs Id env first last)
      (valid : Valid last request.now request.draw) : Runs Id env first (last.after env request)

section Served
variable {env : Environment}

theorem activeOwner_some {db : Db} {token : RefreshTokenEntity} {user : UserEntity}
    (owner : activeOwner db token = some user) :
    user ∈ db.users ∧ user.id = token.userId ∧ user.isActive = true := by
  obtain ⟨found, active⟩ := Option.filter_eq_some_iff.mp owner
  obtain ⟨member, same⟩ := findOne_some found
  exact ⟨member, by simpa using same, active⟩

theorem activeOwner_none {db : Db} {token : RefreshTokenEntity} (owner : activeOwner db token = none) :
    ¬ ∃ user ∈ db.users, user.id = token.userId ∧ user.isActive = true := by
  intro ⟨user, member, same, active⟩
  have found : (db.users.findOne fun user => user.id == token.userId) = some user := by
    apply findOne_of_mem member (by simpa using same)
    intro other matched
    simp only [beq_iff_eq] at matched
    exact matched.trans same.symm
  simp [activeOwner, found, active] at owner

variable (env : Environment) {now : Time} {draw : Draw} {db : Db}

/-- Generating tokens for a stored user under a fresh key succeeds. -/
theorem generateTokens_ok {user : UserEntity} (member : user ∈ db.users)
    (fresh : ∀ row ∈ db.refreshTokens, row.id ≠ draw.rowId) :
    ∃ tokens, db.refreshTokens.insert (createToken env draw user) = some tokens ∧
      generateTokens env draw user db =
        (.ok (tokenResponse env draw user), { db with refreshTokens := tokens }) := by
  have free : (db.refreshTokens.insert (createToken env draw user)).isSome = true :=
    insert_isSome.mpr fresh
  obtain ⟨tokens, inserted⟩ := Option.isSome_iff_exists.mp free
  have known : db.hasUser (createToken env draw user).userId = true :=
    any_iff.mpr ⟨user, member, by simp [createToken]⟩
  refine ⟨tokens, inserted, ?_⟩
  simp only [generateTokens, Db.insertRefreshToken, known, if_true, inserted, Option.map_some]

theorem authenticate_user {dto : LoginDto} {user : UserEntity}
    (passed : authenticate env dto db = .ok (.inl user)) :
    user ∈ db.users := by
  unfold authenticate at passed
  split at passed
  · next other found =>
    cases checked : checkUser env dto other with
    | ok _ =>
      rw [checked] at passed
      cases passed
      exact (findOne_some found).1
    | error error =>
      rw [checked] at passed
      cases passed
  · split at passed
    · cases passed
    · next superAdmin _ =>
      cases checked : checkSuperAdmin env dto superAdmin with
      | ok _ =>
        rw [checked] at passed
        cases passed
      | error error =>
        rw [checked] at passed
        cases passed

/-- A login adds the token of the user who logged in, or nothing. -/
theorem login_cases (dto : LoginDto) (fresh : ∀ row ∈ db.refreshTokens, row.id ≠ draw.rowId) :
    (∃ user tokens, db.refreshTokens.insert (createToken env draw user) = some tokens ∧
      (login env draw dto db).2 = { db with refreshTokens := tokens } ∧
      loggedIn env draw dto db = [.issued draw user]) ∨
    ((login env draw dto db).2 = db ∧ loggedIn env draw dto db = []) := by
  unfold login loggedIn
  cases passed : authenticate env dto db with
  | error error => exact .inr ⟨rfl, rfl⟩
  | ok account =>
    cases account with
    | inl user =>
      obtain ⟨tokens, inserted, whole⟩ := generateTokens_ok env (authenticate_user env passed) fresh
      refine .inl ⟨user, tokens, inserted, by simp only [whole], ?_⟩
      simp [generated, whole, Except.isOk, Except.toBool]
    | inr superAdmin => exact .inr ⟨rfl, rfl⟩

/-- What a refresh may come to: its answer with the database it leaves, and what happens
to tokens. -/
inductive Refreshed (now : Time) (draw : Draw) (refreshToken : String) (db : Db) :
    Except HttpException TokenResponseDto × Db → List Happened → Prop where
  | unknown {error : HttpException} (missed : findValidToken env refreshToken db = .error error) :
      Refreshed now draw refreshToken db (.error error, db) []
  | expired {secret : String} {token : RefreshTokenEntity}
      (found : findValidToken env refreshToken db = .ok (secret, token))
      (late : token.expiresAt < now) :
      Refreshed now draw refreshToken db
        (.error (.unauthorized "Refresh token expired"), db.deleteRefreshToken token.id) []
  | ownerless {secret : String} {token : RefreshTokenEntity}
      (found : findValidToken env refreshToken db = .ok (secret, token))
        (lasting : ¬ token.expiresAt < now)
      (nobody : activeOwner db token = none) :
      Refreshed now draw refreshToken db (.error (.unauthorized "User inactive or deleted"), db) []
  | exchanged {secret : String} {token : RefreshTokenEntity} {user : UserEntity}
      {tokens : Table RefreshTokenEntity}
      (found : findValidToken env refreshToken db = .ok (secret, token))
        (lasting : ¬ token.expiresAt < now)
      (owner : activeOwner db token = some user)
      (inserted : (db.deleteRefreshToken token.id).refreshTokens.insert (createToken env draw user) =
        some tokens) :
      Refreshed now draw refreshToken db
        (.ok (tokenResponse env draw user),
          { db.deleteRefreshToken token.id with refreshTokens := tokens })
        [.exchanged secret, .issued draw user]

theorem refresh_cases (now : Time) (refreshToken : String)
    (fresh : ∀ row ∈ db.refreshTokens, row.id ≠ draw.rowId) :
    Refreshed env now draw refreshToken db (refresh env now draw refreshToken db)
      (refreshed env now draw refreshToken db) := by
  unfold refresh refreshed redeem
  cases found : findValidToken env refreshToken db with
  | error error => exact .unknown found
  | ok valid =>
    obtain ⟨secret, token⟩ := valid
    simp only
    by_cases late : token.expiresAt < now
    · rw [if_pos late]
      exact .expired found late
    · rw [if_neg late]
      cases owner : activeOwner db token with
      | none => exact .ownerless found late owner
      | some user =>
        have member : user ∈ (db.deleteRefreshToken token.id).users := (activeOwner_some owner).1
        have free : ∀ row ∈ (db.deleteRefreshToken token.id).refreshTokens, row.id ≠ draw.rowId :=
          fun row present => fresh row (mem_deleteRefreshToken.mp present).1
        obtain ⟨tokens, inserted, whole⟩ := generateTokens_ok env member free
        simp only [whole, Except.isOk, Except.toBool, if_true]
        exact .exchanged found late owner inserted

variable {env : Environment} {Id : Type} [Identifier Id] [DecidableEq Id]

/-- A refresh that has found a row succeeds when that row has not expired and its user is
active. -/
theorem Refreshed.isOk_iff {now : Time} {refreshToken secret : String} {token : RefreshTokenEntity}
    {result : Except HttpException TokenResponseDto × Db} {happened : List Happened}
    (answered : Refreshed env now draw refreshToken db result happened)
    (found : findValidToken env refreshToken db = .ok (secret, token)) :
    result.1.isOk = true ↔ ¬ token.expiresAt < now ∧ ∃ row ∈ db.users, row.id = token.userId ∧
      row.isActive = true := by
  cases answered with
  | unknown missed =>
    rw [found] at missed
    cases missed
  | expired found' late =>
    rw [found] at found'
    cases found'
    simp [Except.isOk, Except.toBool, late]
  | ownerless found' lasting nobody =>
    rw [found] at found'
    cases found'
    have nobody := activeOwner_none nobody
    simp only [Except.isOk, Except.toBool, Bool.false_eq_true, false_iff]
    exact fun both => nobody both.2
  | exchanged found' lasting owner inserted =>
    rw [found] at found'
    cases found'
    exact ⟨fun _ => ⟨lasting, _, activeOwner_some owner⟩, fun _ => rfl⟩

/-- A refresh touches the row that it has found and adds one for the same user. -/
theorem Refreshed.others {now : Time} {refreshToken : String}
    {result : Except HttpException TokenResponseDto × Db} {happened : List Happened}
    (answered : Refreshed env now draw refreshToken db result happened) {userId : Uuid}
    (owned : ∀ secret token, findValidToken env refreshToken db = .ok (secret, token) →
      token.userId = userId)
    {row : RefreshTokenEntity} (other : row.userId ≠ userId) :
    row ∈ result.2.refreshTokens ↔ row ∈ db.refreshTokens := by
  have kept : ∀ {secret token}, findValidToken env refreshToken db = .ok (secret, token) →
      (row ∈ (db.deleteRefreshToken token.id).refreshTokens ↔ row ∈ db.refreshTokens) := by
    intro secret token found
    rw [mem_deleteRefreshToken]
    refine ⟨fun both => both.1, fun member => ⟨member, fun same => ?_⟩⟩
    have whole : row = token := eq_of_key_eq member (findValidToken_ok found).1 same
    exact other (whole ▸ owned secret token found)
  cases answered with
  | unknown missed => exact Iff.rfl
  | expired found late => exact kept found
  | ownerless found lasting nobody => exact Iff.rfl
  | exchanged found lasting owner inserted =>
    rw [mem_insert inserted, kept found]
    refine ⟨fun either => either.resolve_right fun new => ?_, .inl⟩
    obtain ⟨_, same, _⟩ := activeOwner_some owner
    exact other (new ▸ same.trans (owned _ _ found))

theorem Kept.refreshed (exact : env.Exact) {now ends : Time} {drawn : List String}
    {history happened : List Happened} {db : Db} {draw : Draw} {refreshToken : String}
    {result : Except HttpException TokenResponseDto × Db}
    (kept : Kept env now drawn history db.refreshTokens) (fresh : draw.secret ∉ drawn)
    (later : now ≤ ends) (answered : Refreshed env now draw refreshToken db result happened) :
    Kept env ends (draw.secret :: drawn) (history ++ happened) result.2.refreshTokens := by
  have known : ∀ secret ∈ drawn, secret ∈ draw.secret :: drawn := fun _ member =>
    List.mem_cons_of_mem _ member
  cases answered with
  | unknown missed =>
    rw [List.append_nil]
    exact kept.wait later known
  | expired found late =>
    obtain ⟨member, _, _⟩ := kept.accounted.found found
    rw [List.append_nil]
    exact (kept.expire member late fun _ => mem_deleteRefreshToken).wait later known
  | ownerless found lasting nobody =>
    rw [List.append_nil]
    exact kept.wait later known
  | exchanged found lasting owner inserted =>
    obtain ⟨member, issued, stands⟩ := kept.accounted.found found
    rw [List.map_id] at issued
    have used := kept.exchange exact member stands issued fun _ => mem_deleteRefreshToken
    have renewed := used.issue exact fresh inserted
    rw [List.append_assoc] at renewed
    exact renewed.wait later fun _ member => member

abbrev Ledger.Kept (env : Environment) (ledger : Ledger) : Prop :=
  RefreshSessions.Kept env ledger.now ledger.drawn ledger.history ledger.db.refreshTokens

/-- Each request keeps the books. -/
theorem kept_after (exact : env.Exact) {ledger : Ledger} {request : Request Id} (kept : ledger.Kept env)
    (valid : Valid ledger request.now request.draw) : (ledger.after env request).Kept env := by
  have known : ∀ secret ∈ ledger.drawn, secret ∈ request.draw.secret :: ledger.drawn :=
    fun _ member => List.mem_cons_of_mem _ member
  have asked := kept.wait valid.later fun _ member => member
  have idle := asked.wait valid.ordered known
  simp only [Ledger.Kept, Ledger.after, outcome]
  cases request.call with
  | login dto =>
    rcases login_cases env dto valid.rowId with ⟨user, tokens, inserted, after,
      happened⟩ | ⟨after, happened⟩
    · simp only [after, happened]
      exact (asked.wait valid.ordered fun _ member => member).issue exact valid.secret inserted
    · simp only [after, happened, List.append_nil]
      exact idle
  | refresh refreshToken =>
    exact asked.refreshed exact valid.secret valid.ordered
      (refresh_cases env request.now refreshToken valid.rowId)
  | logout userId => exact idle.revoke (value userId) fun _ => mem_deleteRefreshTokensOf
  | setActivation id tenantId isActive actorId =>
    simp only
    rw [serve_setActivation]
    split
    · exact idle.revoke (value id) fun _ => mem_deleteRefreshTokensOf
    · rw [List.append_nil]
      exact idle
  | updateUser id dto tenantId actorId =>
    simp only
    rw [serve_updateUser, List.append_nil]
    exact idle

theorem kept_throughout (exact : env.Exact) {first last : Ledger} (start : first.Kept env)
    (run : Runs Id env first last) :
    last.Kept env := by
  induction run with
  | start => exact start
  | next _ valid ih => exact kept_after exact ih valid

/-- Before a run nothing has happened, and the tokens that are stored stand for secrets
that have been drawn. -/
structure Opening (env : Environment) (ledger : Ledger) : Prop where
  history : ledger.history = []
  accounted : Accounted env id ledger.drawn ledger.db.refreshTokens

theorem Opening.kept {ledger : Ledger} (opening : Opening env ledger) : ledger.Kept env := by
  have nothing : ∀ happened, happened ∉ ledger.history := by
    rw [opening.history]
    exact fun _ => List.not_mem_nil
  exact {
    accounted := opening.accounted
    issued := fun _ _ member => absurd member (nothing _)
    exchanged := fun _ member => absurd member (nothing _)
    itself := fun _ _ member => absurd member (nothing _)
    present := fun _ _ member => absurd member (nothing _)
    absent := fun _ _ member => absurd member (nothing _) }

/-- The calls run one after the other. A token issued in the run is good for a refresh
exactly when it has not been exchanged, not been revoked since it was issued, has not
expired and belongs to an active user; whatever the answer, the tokens of everyone else
stay as they are. -/
theorem refresh_succeeds_iff (exact : env.Exact) (reads : env.ReadsBack) {first last : Ledger}
    (opening : Opening env first) (run : Runs Id env first last) {draw : Draw} {user : UserEntity}
    (issued : Happened.issued draw user ∈ last.history) {now : Time} {next : Draw}
    (valid : Valid last now next) :
    ((refresh env now next (refreshTokenText user.id draw.secret) last.db).1.isOk = true ↔
      Happened.exchanged draw.secret ∉ last.history ∧ ¬ RevokedSince last.history draw user ∧
        ¬ (createToken env draw user).expiresAt < now ∧
          ∃ row ∈ last.db.users, row.id = user.id ∧ row.isActive = true) ∧
    ∀ row, row.userId ≠ user.id →
      (row ∈ (refresh env now next (refreshTokenText user.id draw.secret) last.db).2.refreshTokens ↔
        row ∈ last.db.refreshTokens) := by
  have kept := (kept_throughout exact opening.kept run).wait valid.later fun _ member => member
  have own : ∀ row ∈ last.db.refreshTokens, StandsFor env id row draw.secret →
    row = createToken env draw user :=
    kept.itself draw user issued
  have answered := refresh_cases env now (refreshTokenText user.id draw.secret) valid.rowId
  by_cases stored : createToken env draw user ∈ last.db.refreshTokens
  · have stands := createToken_standsFor (compares_of_exact exact) draw user
    have found := kept.accounted.finds reads stored stands
    rw [createToken_userId] at found
    have live : Live last.history draw user := by
      apply Classical.byContradiction
      intro dead
      exact kept.absent draw user issued dead _ stored stands
    constructor
    · rw [answered.isOk_iff found]
      exact ⟨fun both => ⟨live.1, live.2, both⟩, fun all => all.2.2⟩
    · intro row other
      refine answered.others ?_ other
      intro secret token found'
      rw [found] at found'
      cases found'
      rfl
  · have gone : ∀ row ∈ last.db.refreshTokens, ¬ StandsFor env id row draw.secret := by
      intro row member stands
      exact stored (own row member stands ▸ member)
    have missed := kept.accounted.misses reads gone user.id
    constructor
    · have failed : (refresh env now next (refreshTokenText user.id draw.secret) last.db).1.isOk =
        false := by
        simp [refresh, redeem, missed, Except.isOk, Except.toBool]
      rw [failed]
      simp only [Bool.false_eq_true, false_iff]
      intro ⟨unused, unrevoked, lasting, _⟩
      exact (kept.present draw user issued ⟨unused, unrevoked⟩).elim stored lasting
    · intro row other
      refine answered.others ?_ other
      intro secret token found
      rw [missed] at found
      cases found

end Served

def annsLogin : Request Uuid := ⟨.login ⟨"ann@acme.io", "pass"⟩, 1000, drawn 1, .bypassRls, fun _ => 0⟩

def annsLedger : Ledger := { db := annsDb .empty, now := 0, drawn := [] }

theorem annsLogin_outcome :
    outcome openEnvironment annsLogin (annsDb .empty) =
      (annsDb (stored 1), [.issued (drawn 1) ann]) := by
  have passed : authenticate openEnvironment ⟨"ann@acme.io", "pass"⟩ (annsDb .empty) = .ok (.inl ann) := rfl
  have saved : generateTokens openEnvironment (drawn 1) ann (annsDb .empty) =
      (.ok (tokenResponse openEnvironment (drawn 1) ann), annsDb (stored 1)) := by
    have inserted := save_first 1
    simp only [annsToken] at inserted
    simp only [generateTokens, inserted]
  simp only [outcome, annsLogin, login, loggedIn, passed, generated, saved, Except.isOk,
    Except.toBool, if_true]

theorem annsLogin_issues :
    Happened.issued (drawn 1) ann ∈ (annsLedger.after openEnvironment annsLogin).history := by
  simp only [Ledger.after, annsLedger, annsLogin_outcome]
  exact List.mem_cons_self

/-- The token that Ann has got. -/
theorem refresh_after_login :
    ((refresh openEnvironment 1000 (drawn 2) (refreshTokenText ann.id (drawn 1).secret)
        (annsLedger.after openEnvironment annsLogin).db).1.isOk = true ↔
      Happened.exchanged (drawn 1).secret ∉ (annsLedger.after openEnvironment annsLogin).history ∧
        ¬ RevokedSince (annsLedger.after openEnvironment annsLogin).history (drawn 1) ann ∧
          ¬ (createToken openEnvironment (drawn 1) ann).expiresAt < 1000 ∧
            ∃ row ∈ (annsLedger.after openEnvironment annsLogin).db.users, row.id = ann.id ∧
              row.isActive = true) ∧
    ∀ row, row.userId ≠ ann.id →
      (row ∈ (refresh openEnvironment 1000 (drawn 2) (refreshTokenText ann.id (drawn 1).secret)
          (annsLedger.after openEnvironment annsLogin).db).2.refreshTokens ↔
        row ∈ (annsLedger.after openEnvironment annsLogin).db.refreshTokens) := by
  have opening : Opening openEnvironment annsLedger := ⟨rfl, accounted_empty openEnvironment id []⟩
  have first : Valid annsLedger annsLogin.now annsLogin.draw :=
    ⟨by decide, by decide, List.not_mem_nil, fun _ member => nomatch member⟩
  have second : Valid (annsLedger.after openEnvironment annsLogin) 1000 (drawn 2) := by
    refine ⟨by decide, by decide, ?_, ?_⟩
    · exact List.not_mem_cons_of_ne_of_not_mem (secret_ne (by decide)) List.not_mem_nil
    · intro row member
      simp only [Ledger.after, annsLedger, annsLogin_outcome] at member
      rw [List.mem_singleton.mp member]
      decide
  exact refresh_succeeds_iff openEnvironment_exact openEnvironment_readsBack opening
    (.next .start first)
    annsLogin_issues second

end GenericIam.RefreshSessions
