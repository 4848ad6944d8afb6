import GenericIam.Handlers
import GenericIam.PermissionMatcher

/-! Logging in, refreshing and logging out: the service as it is written, and the same
calls as sequences of atomic steps on the database. -/

namespace GenericIam.AuthService
open Table Database Identifiers Handlers PermissionMatcher

structure LoginDto where
  email : String
  password : String
  deriving DecidableEq

structure AccessPayload where
  sub : Uuid
  email : String
  tenantId : Option Uuid
  identityType : String
  deriving DecidableEq

structure TokenResponseDto where
  accessToken : String
  refreshToken : String
  tokenType : String := "Bearer"
  expiresIn : Int
  deriving DecidableEq

/-- Hashing with a salt and comparing a text with a hash, the signing of access tokens,
the `uuid` that a text is taken for, and the configured lifetimes in seconds. -/
structure Environment where
  hashPassword : String → String → String
  comparePassword : String → String → Bool
  sign : AccessPayload → Int → String
  readUuid : String → Option Uuid
  accessTtl : Int
  refreshTtl : Int

/-- A text passes for a hash exactly when it is what has been hashed. -/
def Environment.Exact (env : Environment) : Prop :=
  ∀ salt hashed plain, env.comparePassword plain (env.hashPassword salt hashed) = true ↔ plain = hashed

def Environment.ReadsBack (env : Environment) : Prop := ∀ id, env.readUuid (printUuid id) = some id

def orDefault (configured default : Int) : Int := if configured = 0 then default else configured

def Environment.accessLifetime (env : Environment) : Int := orDefault env.accessTtl 900

def Environment.refreshLifetime (env : Environment) : Int := orDefault env.refreshTtl 604800

structure RandomBytes where
  bytes : List (BitVec 8)
  size : bytes.length = 40

def RandomBytes.hex (random : RandomBytes) : String :=
  String.ofList (random.bytes.flatMap fun byte =>
    [hexDigit (byte.toNat / 16), hexDigit (byte.toNat % 16)])

structure Draw where
  now : Time
  randomBytes : RandomBytes
  salt : String
  rowId : Uuid

def Draw.secret (draw : Draw) : String := draw.randomBytes.hex

def refreshTokenText (id : Uuid) (secret : String) : String := printUuid id ++ "." ++ secret

def createToken (env : Environment) (draw : Draw) (user : UserEntity) : RefreshTokenEntity where
  id := draw.rowId
  userId := user.id
  tokenHash := env.hashPassword draw.salt draw.secret
  expiresAt := (draw.now + 1000 * env.refreshLifetime).toNat

def tokenResponse (env : Environment) (draw : Draw) (user : UserEntity) : TokenResponseDto where
  accessToken := env.sign ⟨user.id, user.email, some user.tenantId, "USER"⟩ env.accessLifetime
  refreshToken := refreshTokenText user.id draw.secret
  expiresIn := env.accessLifetime

def generateTokens (env : Environment) (draw : Draw) (user : UserEntity) (db : Db) :
    Except HttpException TokenResponseDto × Db :=
  match db.insertRefreshToken (createToken env draw user) with
  | some db => (.ok (tokenResponse env draw user), db)
  | none => (.error .queryFailed, db)

/-- The refresh token of a super admin is not stored. -/
def generateSuperAdminTokens (env : Environment) (draw : Draw) (superAdmin : SuperAdminEntity) :
    TokenResponseDto where
  accessToken := env.sign ⟨superAdmin.id, superAdmin.email, none, "SUPER_ADMIN"⟩ env.accessLifetime
  refreshToken := refreshTokenText superAdmin.id draw.secret
  expiresIn := env.accessLifetime

def checkAccount (env : Environment) (dto : LoginDto) (isActive : Bool)
    (passwordHash inactive : String) :
    Except HttpException Unit :=
  if !isActive then .error (.unauthorized inactive)
  else if env.comparePassword dto.password passwordHash then .ok ()
  else .error (.unauthorized "Invalid credentials")

def checkUser (env : Environment) (dto : LoginDto) (user : UserEntity) : Except HttpException Unit :=
  checkAccount env dto user.isActive user.passwordHash "User account is inactive"

def checkSuperAdmin (env : Environment) (dto : LoginDto) (superAdmin : SuperAdminEntity) :
    Except HttpException Unit :=
  checkAccount env dto superAdmin.isActive superAdmin.passwordHash "SuperAdmin account is inactive"

def authenticate (env : Environment) (dto : LoginDto) (db : Db) :
    Except HttpException (UserEntity ⊕ SuperAdminEntity) :=
  match db.users.findOne fun user => user.email == dto.email with
  | some user => (checkUser env dto user).map fun _ => .inl user
  | none =>
      match db.superAdmins.findOne fun superAdmin => superAdmin.email == dto.email with
      | none => .error (.unauthorized "Invalid credentials")
      | some superAdmin => (checkSuperAdmin env dto superAdmin).map fun _ => .inr superAdmin

def login (env : Environment) (draw : Draw) (dto : LoginDto) (db : Db) :
    Except HttpException TokenResponseDto × Db :=
  match authenticate env dto db with
  | .ok (.inl user) => generateTokens env draw user db
  | .ok (.inr superAdmin) => (.ok (generateSuperAdminTokens env draw superAdmin), db)
  | .error error => (.error error, db)

def readToken (refreshToken : String) : Option (String × String) :=
  match splitDots refreshToken with
  | userIdPart :: actualToken :: _ => if userIdPart = "" || actualToken = "" then none
      else some (userIdPart, actualToken)
  | _ => none

def findValidToken (env : Environment) (refreshToken : String) (db : Db) :
    Except HttpException (String × RefreshTokenEntity) :=
  match readToken refreshToken with
  | none => .error (.unauthorized "Invalid refresh token format")
  | some (userIdPart, actualToken) =>
      match env.readUuid userIdPart with
      | none => .error .queryFailed
      | some userId =>
          let hashedTokens := db.refreshTokens.find fun token => token.userId == userId
          match hashedTokens.find? fun token => env.comparePassword actualToken token.tokenHash with
          | some validToken => .ok (actualToken, validToken)
          | none => .error (.unauthorized "Invalid refresh token")

def activeOwner (db : Db) (token : RefreshTokenEntity) : Option UserEntity :=
  (db.users.findOne fun user => user.id == token.userId).filter UserEntity.isActive

def redeem (env : Environment) (now : Time) (refreshToken : String) (db : Db) :
    Except HttpException UserEntity × Db :=
  match findValidToken env refreshToken db with
  | .error error => (.error error, db)
  | .ok (_, validToken) =>
      if validToken.expiresAt < now then
        (.error (.unauthorized "Refresh token expired"), db.deleteRefreshToken validToken.id)
      else
        match activeOwner db validToken with
        | none => (.error (.unauthorized "User inactive or deleted"), db)
        | some user => (.ok user, db.deleteRefreshToken validToken.id)

def refresh (env : Environment) (now : Time) (draw : Draw) (refreshToken : String) (db : Db) :
    Except HttpException TokenResponseDto × Db :=
  match redeem env now refreshToken db with
  | (.ok user, db) => generateTokens env draw user db
  | (.error error, db) => (.error error, db)

def logout (userId : Uuid) (db : Db) : Db := db.deleteRefreshTokensOf userId

/-! The same calls step by step. -/

/-- Where a call stands: which statement it sends next and what it carries. A call that
has exchanged a token keeps the secret of it. -/
inductive Point where
  | findUser (dto : LoginDto)
  | findSuperAdmin (dto : LoginDto)
  | findTokens (refreshToken : String)
  | dropExpired (token : RefreshTokenEntity)
  | findOwner (secret : String) (token : RefreshTokenEntity)
  | dropUsed (secret : String) (token : RefreshTokenEntity) (user : UserEntity)
  | saveToken (exchanged : Option String) (user : UserEntity)
  | dropAll (userId : Uuid)
  | answered (exchanged : Option String) (answer : Except HttpException (Option TokenResponseDto))

def Point.refused (error : HttpException) : Point := .answered none (.error error)

def step (env : Environment) (now : Time) (draw : Draw) (db : Db) : Point → Db × Point
  | .findUser dto =>
      match db.users.findOne fun user => user.email == dto.email with
      | none => (db, .findSuperAdmin dto)
      | some user =>
          match checkUser env dto user with
          | .ok _ => (db, .saveToken none user)
          | .error error => (db, .refused error)
  | .findSuperAdmin dto =>
      match db.superAdmins.findOne fun superAdmin => superAdmin.email == dto.email with
      | none => (db, .refused (.unauthorized "Invalid credentials"))
      | some superAdmin =>
          match checkSuperAdmin env dto superAdmin with
          | .ok _ => (db, .answered none (.ok (some (generateSuperAdminTokens env draw superAdmin))))
          | .error error => (db, .refused error)
  | .findTokens refreshToken =>
      match findValidToken env refreshToken db with
      | .error error => (db, .refused error)
      | .ok (secret, validToken) =>
          if validToken.expiresAt < now then (db, .dropExpired validToken)
            else (db, .findOwner secret validToken)
  | .dropExpired token =>
    (db.deleteRefreshToken token.id, .refused (.unauthorized "Refresh token expired"))
  | .findOwner secret token =>
      match activeOwner db token with
      | none => (db, .refused (.unauthorized "User inactive or deleted"))
      | some user => (db, .dropUsed secret token user)
  | .dropUsed secret token user => (db.deleteRefreshToken token.id, .saveToken (some secret) user)
  | .saveToken exchanged user =>
      match db.insertRefreshToken (createToken env draw user) with
      | some db => (db, .answered exchanged (.ok (some (tokenResponse env draw user))))
      | none => (db, .refused .queryFailed)
  | .dropAll userId => (db.deleteRefreshTokensOf userId, .answered none (.ok none))
  | .answered exchanged answer => (db, .answered exchanged answer)

def steps (env : Environment) (now : Time) (draw : Draw) : Nat → Db × Point → Db × Point
  | 0, state => state
  | count + 1, state => steps env now draw count (step env now draw state.1 state.2)

def Point.answer : Point → Option (Except HttpException (Option TokenResponseDto))
  | .answered _ answer => some answer
  | _ => none

section Alone
variable (env : Environment) (now : Time) (draw : Draw) (db : Db)

def Comes (start : Point) (result : Except HttpException (Option TokenResponseDto) × Db) : Prop :=
  ∃ count ≤ 4, (steps env now draw count (db, start)).1 = result.2 ∧
    (steps env now draw count (db, start)).2.answer = some result.1

def returned (result : Except HttpException TokenResponseDto × Db) :
    Except HttpException (Option TokenResponseDto) × Db :=
  (result.1.map some, result.2)

theorem steps_saveToken (exchanged : Option String) (user : UserEntity) :
    (step env now draw db (.saveToken exchanged user)).1 = (generateTokens env draw user db).2 ∧
      (step env now draw db (.saveToken exchanged user)).2.answer =
        some (returned (generateTokens env draw user db)).1 := by
  simp only [step, generateTokens]
  cases db.insertRefreshToken (createToken env draw user) with
  | none => exact ⟨rfl, rfl⟩
  | some next => exact ⟨rfl, rfl⟩

theorem steps_login (dto : LoginDto) :
    Comes env now draw db (.findUser dto) (returned (login env draw dto db)) := by
  unfold login authenticate
  cases found : db.users.findOne fun user => user.email == dto.email with
  | some user =>
    simp only
    cases checked : checkUser env dto user with
    | error error =>
      exact ⟨1, by decide, by simp [steps, step, found, checked, returned, Point.refused, Point.answer, Except.map]⟩
    | ok _ =>
      have saved := steps_saveToken env now draw db none user
      refine ⟨2, by decide, ?_⟩
      simpa [steps, step, found, checked, returned, Except.map] using saved
  | none =>
    simp only
    refine ⟨2, by decide, ?_⟩
    cases admin : db.superAdmins.findOne fun superAdmin => superAdmin.email == dto.email with
    | none => simp [steps, step, found, admin, returned, Point.refused, Point.answer, Except.map]
    | some superAdmin =>
      simp only
      cases checked : checkSuperAdmin env dto superAdmin with
      | error error =>
        simp [steps, step, found, admin, checked, returned, Point.refused, Point.answer, Except.map]
      | ok _ => simp [steps, step, found, admin, checked, returned, Point.answer, Except.map]

theorem steps_refresh (refreshToken : String) :
    Comes env now draw db (.findTokens refreshToken)
      (returned (refresh env now draw refreshToken db)) := by
  unfold refresh redeem
  cases found : findValidToken env refreshToken db with
  | error error =>
    exact ⟨1, by decide, by simp [steps, step, found, returned, Point.refused, Point.answer, Except.map]⟩
  | ok valid =>
    obtain ⟨secret, validToken⟩ := valid
    simp only
    by_cases expired : validToken.expiresAt < now
    · exact ⟨2,
        by decide, by simp [steps, step, found, expired, returned, Point.refused, Point.answer, Except.map]⟩
    · cases owner : activeOwner db validToken with
      | none =>
        exact ⟨2, by decide, by
          simp [steps, step, found, expired, owner, returned, Point.refused, Point.answer, Except.map]⟩
      | some user =>
        have saved :=
          steps_saveToken env now draw (db.deleteRefreshToken validToken.id) (some secret) user
        refine ⟨4, by decide, ?_⟩
        simpa [steps, step, found, expired, owner, returned] using saved

theorem steps_logout (userId : Uuid) :
    Comes env now draw db (.dropAll userId) (.ok none, logout userId db) :=
  ⟨1, by decide, rfl, rfl⟩

end Alone
end GenericIam.AuthService
