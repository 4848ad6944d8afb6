import GenericIam.RefreshTokens
import GenericIam.ReachableStates
import GenericIam.Statements

/-! Whether a principal who logs in with the own email and password gets a token of the
own, when a query without an order may return the matching rows in any order. -/

namespace GenericIam.PrincipalLogin
open Table Database Identifiers Transaction Handlers AccountServices Operations AuthService

abbrev Principal := UserEntity ⊕ SuperAdminEntity

def id : Principal → Uuid
  | .inl user => user.id
  | .inr superAdmin => superAdmin.id

def tenantId : Principal → Option Uuid
  | .inl user => some user.tenantId
  | .inr _ => none

def email : Principal → String
  | .inl user => user.email
  | .inr superAdmin => superAdmin.email

def passwordHash : Principal → String
  | .inl user => user.passwordHash
  | .inr superAdmin => superAdmin.passwordHash

def IsActive : Principal → Prop
  | .inl user => user.isActive = true
  | .inr superAdmin => superAdmin.isActive = true

def Stored (db : Db) : Principal → Prop
  | .inl user => user ∈ db.users
  | .inr superAdmin => superAdmin ∈ db.superAdmins

def seedSuperAdmin (id : Uuid) (email passwordHash : String) (db : Db) : Option Db :=
  if db.superAdmins.any fun row => row.email == email then some db
  else (db.superAdmins.insert ⟨id, email, passwordHash, true⟩).map fun superAdmins =>
    { db with superAdmins }

/-- Super admins, permissions and roles are seeded, tenants created and the requests of
tenant principals served, in any order. -/
inductive Registered : Db → Prop where
  | empty : Registered {}
  | superAdminSeeded {db db' : Db} (id : Uuid) (email passwordHash : String) (reached : Registered db)
      (seeded : seedSuperAdmin id email passwordHash db = some db') : Registered db'
  | permissionsSeeded {db : Db} (ids : Nat → Uuid) (codes : List String) (reached : Registered db) :
      Registered (run (engine Uuid .bypassRls) ids (seedPermissions codes) { db }).2.db
  | rolesSeeded {db : Db} (clock : Uuid → Time) (ids : Nat → Uuid) (rolesData : List RoleDefinition)
      (reached : Registered db) :
      Registered (run (engine Uuid .bypassRls) ids (seedRoles clock rolesData) { db }).2.db
  | tenantCreated {db : Db} (env : Operations.Environment) (ids : Nat →
      Uuid) (dto : CreateTenantDto) (actorId : Uuid)
      (reached : Registered db) :
      Registered
        (serve (engine Uuid .bypassRls) ids (createTenantWithAdmin env.hashPassword dto actorId) db).db
  | requested {db : Db} (env : Operations.Environment) (ids : Nat → Uuid) (tenantId actorId : Uuid)
      (operation : Operation Uuid)
      (reached : Registered db) :
      Registered
        (serve (engine Uuid (.tenantUser tenantId)) ids (operation.handler env tenantId actorId) db).db

def EmailsDistinct (db : Db) : Prop :=
  ∀ first ∈ db.superAdmins, ∀ second ∈ db.superAdmins, first.email = second.email → first = second

section Registered

theorem emails_send {session : Session} {write : Write} {db db' : Db} (distinct : EmailsDistinct db)
    (sent : send session write db = .ok db') : EmailsDistinct db' := by
  unfold EmailsDistinct
  rw [(sameBut_apply (send_ok sent)).superAdmins]
  exact distinct

theorem emails_seed {id : Uuid} {email passwordHash : String} {db db' : Db}
    (distinct : EmailsDistinct db) (seeded : seedSuperAdmin id email passwordHash db = some db') :
    EmailsDistinct db' := by
  unfold seedSuperAdmin at seeded
  split at seeded
  · cases seeded
    exact distinct
  next absent =>
    obtain ⟨superAdmins, inserted, rfl⟩ := Option.map_eq_some_iff.mp seeded
    have new : ∀ old ∈ db.superAdmins, old.email ≠ email := by
      intro old member same
      exact absent (any_iff.mpr ⟨old, member, by simpa using same⟩)
    intro first left second right same
    rcases (mem_insert inserted).mp left with before | rfl
    · rcases (mem_insert inserted).mp right with before' | rfl
      · exact distinct first before second before' same
      · exact absurd same (new first before)
    · rcases (mem_insert inserted).mp right with before' | rfl
      · exact absurd same.symm (new second before')
      · rfl

theorem Registered.emails {db : Db} (reached : Registered db) : EmailsDistinct db := by
  induction reached with
  | empty =>
    intro first member
    cases member
  | superAdminSeeded id email passwordHash _ seeded ih => exact emails_seed ih seeded
  | permissionsSeeded ids codes _ ih => exact run_invariant emails_send emails_send _ ih
  | rolesSeeded clock ids rolesData _ ih => exact run_invariant emails_send emails_send _ ih
  | tenantCreated env ids dto actorId _ ih => exact serve_keeps emails_send emails_send _ ih
  | requested env ids tenantId actorId operation _ ih => exact serve_keeps emails_send emails_send _ ih

end Registered

structure Shuffled (db db' : Db) : Prop where
  users : db'.users.rows.Perm db.users.rows
  superAdmins : db'.superAdmins.rows.Perm db.superAdmins.rows
  refreshTokens : db'.refreshTokens = db.refreshTokens

def Readable (env : AuthService.Environment) : Prop :=
  ∀ first second life life', env.sign first life = env.sign second life' →
    first.sub = second.sub ∧ first.tenantId = second.tenantId

def TokenOf (env : AuthService.Environment) (principal : Principal)
    (answer : Except HttpException TokenResponseDto) : Prop :=
  ∃ response, answer = .ok response ∧ ∃ payload life, response.accessToken = env.sign payload life ∧
    payload.sub = id principal ∧ payload.tenantId = tenantId principal

section Login
variable {env : AuthService.Environment} {db db' : Db} {draw : Draw} {password : String}

theorem Shuffled.mem_users (shuffled : Shuffled db db') {user : UserEntity} :
    user ∈ db'.users ↔ user ∈ db.users :=
  shuffled.users.mem_iff

theorem Shuffled.mem_superAdmins (shuffled : Shuffled db db') {row : SuperAdminEntity} :
    row ∈ db'.superAdmins ↔ row ∈ db.superAdmins := shuffled.superAdmins.mem_iff

theorem checkAccount_ok {dto : LoginDto} {isActive : Bool} {hash inactive : String}
    (active : isActive = true) (accepted : env.comparePassword dto.password hash = true) :
    checkAccount env dto isActive hash inactive = .ok () := by
  simp [checkAccount, active, accepted]

theorem generateTokens_ok {user : UserEntity} (member : user ∈ db.users)
    (fresh : ∀ token ∈ db.refreshTokens, token.id ≠ draw.rowId) :
    (generateTokens env draw user db).1 = .ok (tokenResponse env draw user) := by
  have known : db.hasUser user.id = true := any_iff.mpr ⟨user, member, by simp⟩
  have stores : (db.refreshTokens.insert (createToken env draw user)).isSome = true :=
    insert_isSome.mpr fresh
  obtain ⟨tokens, inserted⟩ := Option.isSome_iff_exists.mp stores
  simp [generateTokens, Db.insertRefreshToken, createToken] at inserted ⊢
  simp [known, inserted]

/-- A user who alone has the email logs in. -/
theorem login_user {user : UserEntity} (member : user ∈ db.users)
    (alone : ∀ other ∈ db.users, other.email = user.email → other = user)
    (active : user.isActive = true)
    (accepted : env.comparePassword password user.passwordHash = true)
    (fresh : ∀ token ∈ db.refreshTokens, token.id ≠ draw.rowId) :
    (login env draw ⟨user.email, password⟩ db).1 = .ok (tokenResponse env draw user) := by
  have found : (db.users.findOne fun row => row.email == user.email) = some user := by
    cases here : db.users.findOne fun row => row.email == user.email with
    | none =>
      have missed := findOne_none.mp here user member
      simp at missed
    | some other =>
      obtain ⟨present, same⟩ := findOne_some here
      rw [alone other present (by simpa using same)]
  have passed : checkUser env ⟨user.email, password⟩ user = .ok () := checkAccount_ok active accepted
  simp only [login, authenticate, found, passed, Except.map]
  exact generateTokens_ok member fresh

theorem login_superAdmin {superAdmin : SuperAdminEntity} (member : superAdmin ∈ db.superAdmins)
    (distinct : EmailsDistinct db) (alone : ∀ user ∈ db.users, user.email ≠ superAdmin.email)
    (active : superAdmin.isActive = true)
    (accepted : env.comparePassword password superAdmin.passwordHash = true) :
    (login env draw ⟨superAdmin.email, password⟩ db).1 =
      .ok (generateSuperAdminTokens env draw superAdmin) := by
  have nobody : (db.users.findOne fun row => row.email == superAdmin.email) = none := by
    rw [findOne_none]
    intro user present
    simpa using alone user present
  have found : (db.superAdmins.findOne fun row => row.email == superAdmin.email) = some superAdmin := by
    cases here : db.superAdmins.findOne fun row => row.email == superAdmin.email with
    | none =>
      have missed := findOne_none.mp here superAdmin member
      simp at missed
    | some other =>
      obtain ⟨present, same⟩ := findOne_some here
      rw [distinct other present superAdmin member (by simpa using same)]
  have passed : checkSuperAdmin env ⟨superAdmin.email, password⟩ superAdmin = .ok () :=
    checkAccount_ok active accepted
  simp only [login, authenticate, nobody, found, passed, Except.map]

/-- Whoever is found first with the email is the one that a token is for. -/
theorem login_first {user : UserEntity} {dto : LoginDto} {response : TokenResponseDto}
    (found : (db.users.findOne fun row => row.email == dto.email) = some user)
    (answered : (login env draw dto db).1 = .ok response) :
    response.accessToken =
      env.sign ⟨user.id, user.email, some user.tenantId, "USER"⟩ env.accessLifetime := by
  simp only [login, authenticate, found] at answered
  cases checked : checkUser env dto user with
  | error error =>
    rw [checked] at answered
    cases answered
  | ok _ =>
    rw [checked] at answered
    simp only [Except.map, generateTokens] at answered
    split at answered
    · cases answered
      rfl
    · cases answered

def inFront (user : UserEntity) (member : user ∈ db.users) : Table UserEntity where
  rows := user :: db.users.rows.erase user
  distinct := ((List.perm_cons_erase member).map key).nodup db.users.distinct

end Login

/-- A principal can be sure of a token of the own exactly when no other user, of any
tenant, has the same email. -/
theorem login_own_iff {env : AuthService.Environment} (readable : Readable env) {db : Db}
    (reached : Registered db) {principal : Principal} (stored : Stored db principal)
    (active : IsActive principal) {password : String}
    (accepted : env.comparePassword password (passwordHash principal) = true) {draw : Draw}
    (fresh : ∀ token ∈ db.refreshTokens, token.id ≠ draw.rowId) :
    (∀ db', Shuffled db db' →
      TokenOf env principal (login env draw ⟨email principal, password⟩ db').1) ↔
      ∀ user ∈ db.users, user.email = email principal → principal = .inl user := by
  constructor
  · intro always other member same
    have shuffled : Shuffled db { db with users := inFront other member } :=
      ⟨(List.perm_cons_erase member).symm, List.Perm.refl _, rfl⟩
    obtain ⟨response, answered, payload, life, token, subject, tenant⟩ := always _ shuffled
    have found : ((inFront other member).findOne fun row => row.email == email principal) =
        some other := by
      simp [findOne, inFront, same]
    have issued := login_first found answered
    obtain ⟨sameSub, sameTenant⟩ := readable _ _ _ _ (issued.symm.trans token)
    cases principal with
    | inl user =>
      have key : other.id = user.id := sameSub.trans subject
      rw [eq_of_key_eq member stored key]
    | inr superAdmin => cases sameTenant.trans tenant
  · intro alone db' shuffled
    have unused : ∀ token ∈ db'.refreshTokens, token.id ≠ draw.rowId := by
      rw [shuffled.refreshTokens]
      exact fresh
    cases principal with
    | inl user =>
      have single : ∀ other ∈ db'.users, other.email = user.email → other = user := by
        intro other member same
        exact (Sum.inl.inj (alone other (shuffled.mem_users.mp member) same)).symm
      exact ⟨_, login_user (shuffled.mem_users.mpr stored) single active accepted unused,
        _, _, rfl, rfl, rfl⟩
    | inr superAdmin =>
      have nobody : ∀ user ∈ db'.users, user.email ≠ superAdmin.email := by
        intro user member same
        cases alone user (shuffled.mem_users.mp member) same
      have distinct : EmailsDistinct db' := by
        intro first left second right
        exact reached.emails first (shuffled.mem_superAdmins.mp left) second
          (shuffled.mem_superAdmins.mp right)
      exact ⟨_, login_superAdmin (shuffled.mem_superAdmins.mpr stored) distinct nobody active accepted,
        _, _, rfl, rfl, rfl⟩

/-! Two tenants, each with an admin of the same email. -/

section Example

def plainTokens : AuthService.Environment :=
  { RefreshTokens.openEnvironment with
    sign := fun payload _ => printUuid payload.sub ++ payload.tenantId.elim "" printUuid }

theorem printUuid_length (id : Uuid) : (printUuid id).toList.length = 36 := by
  simp [printUuid, digits]

theorem printUuid_inj {first second : Uuid} (same : printUuid first = printUuid second) :
    first = second := by
  have texts : (⟨printUuid first, isUuid_printUuid first⟩ : UuidText) =
    ⟨printUuid second, isUuid_printUuid second⟩ :=
    UuidText.eq_of_text_eq same
  rw [← toUuid_printUuid first, texts, toUuid_printUuid]

theorem plainTokens_readable : Readable plainTokens := by
  intro first second life life' same
  have letters := congrArg String.toList same
  simp only [plainTokens, String.toList_append] at letters
  obtain ⟨heads, tails⟩ := List.append_inj letters (by rw [printUuid_length, printUuid_length])
  refine ⟨printUuid_inj (String.toList_inj.mp heads), ?_⟩
  cases left : first.tenantId with
  | none =>
    cases right : second.tenantId with
    | none => rfl
    | some tenant =>
      rw [left, right] at tails
      have lengths := congrArg List.length tails
      simp [printUuid_length] at lengths
  | some tenant =>
    cases right : second.tenantId with
    | none =>
      rw [left, right] at tails
      have lengths := congrArg List.length tails
      simp [printUuid_length] at lengths
    | some other =>
      rw [left, right] at tails
      rw [printUuid_inj (String.toList_inj.mp tails)]

def keepPlain : Operations.Environment where
  hashPassword password := password
  driver := ⟨fun _ => none, Json.asString, fun _ => none, fun _ => none⟩

def firstTenant : Db :=
  (serve (engine Uuid .bypassRls) (fun index => BitVec.ofNat 128 (index + 1))
    (createTenantWithAdmin keepPlain.hashPassword ⟨"Acme", "acme", none, "admin@mail.io", "secret",
      "Ada", "Ames"⟩ 9) {}).db

def secondTenant : Db :=
  (serve (engine Uuid .bypassRls) (fun index => BitVec.ofNat 128 (index + 11))
    (createTenantWithAdmin keepPlain.hashPassword ⟨"Beta", "beta", none, "admin@mail.io",
      "hidden", "Bob", "Bell"⟩ 9)
    firstTenant).db

def ada : UserEntity := ⟨2, 1, "admin@mail.io", "secret", "Ada", "Ames", true, none⟩

def bob : UserEntity := ⟨12, 11, "admin@mail.io", "hidden", "Bob", "Bell", true, none⟩

theorem firstTenant_registered : Registered firstTenant := .tenantCreated keepPlain _ _ 9 .empty

theorem firstTenant_users : firstTenant.users.rows = [ada] := by decide

theorem secondTenant_users : secondTenant.users.rows = [ada, bob] := by decide

theorem login_own_ada : (∀ db', Shuffled firstTenant db' →
      TokenOf plainTokens (.inl ada)
        (login plainTokens (RefreshTokens.drawn 1) ⟨"admin@mail.io", "secret"⟩ db').1) ↔
    ∀ user ∈ firstTenant.users, user.email = "admin@mail.io" →
      (Sum.inl ada : Principal) = .inl user := by
  have stored : Stored firstTenant (.inl ada) := by
    rw [Stored, mem_rows, firstTenant_users]
    exact List.mem_singleton_self _
  have active : IsActive (.inl ada) := rfl
  have accepted : plainTokens.comparePassword "secret" (passwordHash (.inl ada)) = true := by decide
  have fresh : ∀ token ∈ firstTenant.refreshTokens, token.id ≠ (RefreshTokens.drawn 1).rowId := by
    intro token member
    cases member
  exact login_own_iff plainTokens_readable firstTenant_registered stored active accepted fresh

/-- Bob is active and knows his password, but is never logged in. -/
theorem login_refused : Registered secondTenant ∧ Stored secondTenant (.inl bob) ∧ IsActive (.inl bob) ∧
    plainTokens.comparePassword "hidden" bob.passwordHash = true ∧
      ¬TokenOf plainTokens (.inl bob)
        (login plainTokens (RefreshTokens.drawn 1) ⟨bob.email, "hidden"⟩ secondTenant).1 := by
  refine ⟨.tenantCreated keepPlain _ _ 9 firstTenant_registered, ?_, rfl, by decide, ?_⟩
  · rw [Stored, mem_rows, secondTenant_users]
    exact List.mem_cons_of_mem _ (List.mem_singleton_self _)
  · intro issued
    obtain ⟨response, answered, _⟩ := issued
    have found : (secondTenant.users.findOne fun row => row.email == bob.email) = some ada := by
      rw [findOne, secondTenant_users]
      rfl
    have refused : checkUser plainTokens ⟨bob.email, "hidden"⟩ ada =
      .error (.unauthorized "Invalid credentials") := rfl
    simp only [login, authenticate, found, refused] at answered
    cases answered

end Example
end GenericIam.PrincipalLogin
