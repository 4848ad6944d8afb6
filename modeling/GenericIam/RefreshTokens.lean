import GenericIam.AuthService

/-! Which secret a stored refresh token stands for, and what the table of refresh tokens
keeps when every secret is drawn once. -/

namespace GenericIam.RefreshTokens
open Table Database Identifiers PermissionMatcher AuthService

def bytes (text : String) : List UInt8 := text.toUTF8.data.toList

/-- The part of a secret that bcrypt looks at. -/
def hashedBytes (text : String) : List UInt8 := (bytes text).take 72

/-- Of a secret bcrypt compares the first seventy-two bytes. -/
def Truncates (env : Environment) : Prop :=
  ∀ salt (draw : Draw) plain, env.comparePassword plain (env.hashPassword salt draw.secret) = true ↔
    hashedBytes plain = hashedBytes draw.secret

section
variable {env : Environment} {Part : Type} {part : String → Part}

/-- The hash of an issued secret is matched by the texts that share a part with it. -/
def Compares (env : Environment) (part : String → Part) : Prop :=
  ∀ salt (draw : Draw) plain, env.comparePassword plain (env.hashPassword salt draw.secret) = true ↔
    part plain = part draw.secret

theorem compares_of_exact (exact : env.Exact) : Compares env id :=
  fun salt draw plain => exact salt draw.secret plain

/-- The hash of the row is matched by the texts that share the part with the secret. -/
def StandsFor (env : Environment) (part : String → Part) (row : RefreshTokenEntity)
    (secret : String) : Prop :=
  ∀ plain, env.comparePassword plain row.tokenHash = true ↔ part plain = part secret

theorem StandsFor.matched {row : RefreshTokenEntity} {secret : String}
    (stands : StandsFor env part row secret) :
    env.comparePassword secret row.tokenHash = true := (stands secret).mpr rfl

theorem StandsFor.eq {row : RefreshTokenEntity} {first second : String}
    (left : StandsFor env part row first) (right : StandsFor env part row second) :
    part first = part second := (right first).mp left.matched

theorem StandsFor.congr {row : RefreshTokenEntity} {first second : String}
    (stands : StandsFor env part row first) (same : part first = part second) :
    StandsFor env part row second := fun plain => (stands plain).trans (by rw [same])

@[simp] theorem createToken_userId (draw : Draw) (user : UserEntity) :
    (createToken env draw user).userId = user.id := rfl

theorem createToken_standsFor (compares : Compares env part) (draw : Draw) (user : UserEntity) :
    StandsFor env part (createToken env draw user) draw.secret := fun plain =>
      compares draw.salt draw plain

/-- Every stored token stands for a secret that has been issued, no two for the same. -/
structure Accounted (env : Environment) (part : String → Part) (issued : List String)
    (tokens : Table RefreshTokenEntity) :
    Prop where
  stored : ∀ row ∈ tokens, ∃ secret ∈ issued, StandsFor env part row secret
  single : ∀ row ∈ tokens, ∀ other ∈ tokens, ∀ secret, StandsFor env part row secret →
    StandsFor env part other secret →
    row = other

variable {issued : List String} {tokens : Table RefreshTokenEntity}

theorem accounted_empty (env : Environment) (part : String → Part) (issued : List String) :
    Accounted env part issued .empty where
  stored := fun _ member => absurd member (not_mem_empty _)
  single := fun _ member => absurd member (not_mem_empty _)

theorem Accounted.subset {later : Table RefreshTokenEntity} {more : List String}
    (accounted : Accounted env part issued tokens) (fewer : ∀ row ∈ later, row ∈ tokens)
    (known : ∀ secret ∈ issued, secret ∈ more) : Accounted env part more later where
  stored := by
    intro row member
    obtain ⟨secret, drawn, stands⟩ := accounted.stored row (fewer row member)
    exact ⟨secret, known secret drawn, stands⟩
  single := fun row member other present =>
    accounted.single row (fewer row member) other (fewer other present)

/-- A secret that has not been issued opens none of the stored tokens. -/
theorem Accounted.unopened (accounted : Accounted env part issued tokens) {row : RefreshTokenEntity}
    (member : row ∈ tokens) {secret : String} (fresh : part secret ∉ issued.map part) :
    ¬ StandsFor env part row secret := by
  intro stands
  obtain ⟨other, drawn, opens⟩ := accounted.stored row member
  have same : part secret = part other := stands.eq opens
  exact fresh (same ▸ List.mem_map_of_mem drawn)

theorem Accounted.insert {later : Table RefreshTokenEntity} {row : RefreshTokenEntity} {secret : String}
    (accounted : Accounted env part issued tokens) (stands : StandsFor env part row secret)
    (fresh : part secret ∉ issued.map part) (inserted : tokens.insert row = some later) :
    Accounted env part (secret :: issued) later where
  stored := by
    intro other member
    rcases (mem_insert inserted).mp member with old | new
    · obtain ⟨known, drawn, opens⟩ := accounted.stored other old
      exact ⟨known, List.mem_cons_of_mem _ drawn, opens⟩
    · exact ⟨secret, List.mem_cons_self, new ▸ stands⟩
  single := by
    intro first left second right shared opens opens'
    rcases (mem_insert inserted).mp left with old | new
    · rcases (mem_insert inserted).mp right with old' | new'
      · exact accounted.single first old second old' shared opens opens'
      · subst new'
        exact absurd (opens.congr (opens'.eq stands)) (accounted.unopened old fresh)
    · subst new
      rcases (mem_insert inserted).mp right with old' | new'
      · exact absurd (opens'.congr (opens.eq stands)) (accounted.unopened old' fresh)
      · exact new'.symm

theorem mem_deleteRefreshToken {db : Db} {id : Uuid} {row : RefreshTokenEntity} :
    row ∈ (db.deleteRefreshToken id).refreshTokens ↔ row ∈ db.refreshTokens ∧ row.id ≠ id := by
  simp [Db.deleteRefreshToken]

theorem mem_deleteRefreshTokensOf {db : Db} {userId : Uuid} {row : RefreshTokenEntity} :
    row ∈ (db.deleteRefreshTokensOf userId).refreshTokens ↔ row ∈ db.refreshTokens ∧
      row.userId ≠ userId := by
  simp [Db.deleteRefreshTokensOf]

/-- What a search that succeeds has found. -/
theorem findValidToken_ok {text secret : String} {row : RefreshTokenEntity} {db : Db}
    (found : findValidToken env text db = .ok (secret, row)) :
    row ∈ db.refreshTokens ∧ env.comparePassword secret row.tokenHash = true := by
  unfold findValidToken at found
  split at found
  · cases found
  · split at found
    · cases found
    · simp only at found
      split at found
      · next matched =>
        cases found
        have member := List.mem_of_find?_eq_some matched
        exact ⟨(mem_find.mp member).1, by simpa using List.find?_some matched⟩
      · cases found

def rowsOf (db : Db) (userId : Uuid) : List RefreshTokenEntity :=
  db.refreshTokens.find fun token => token.userId == userId

theorem findValidToken_read {db : Db} {refreshToken secret userIdPart : String} {userId : Uuid}
    (parsed : readToken refreshToken = some (userIdPart, secret))
    (named : env.readUuid userIdPart = some userId) :
    findValidToken env refreshToken db = match (rowsOf db userId).find? fun token =>
      env.comparePassword secret token.tokenHash with
      | some validToken => .ok (secret, validToken)
      | none => .error (.unauthorized "Invalid refresh token") := by
  simp only [findValidToken, parsed, named]
  rfl

/-- What the two parts of a token that has been found are. -/
theorem findValidToken_found {db : Db} {refreshToken secret : String} {token : RefreshTokenEntity}
    (found : findValidToken env refreshToken db = .ok (secret, token)) :
    ∃ userIdPart, readToken refreshToken = some (userIdPart, secret) ∧
      env.readUuid userIdPart = some token.userId ∧
      (rowsOf db token.userId).find? (fun row => env.comparePassword secret row.tokenHash) =
        some token := by
  cases parsed : readToken refreshToken with
  | none => simp [findValidToken, parsed] at found
  | some parts =>
    obtain ⟨userIdPart, actualToken⟩ := parts
    cases named : env.readUuid userIdPart with
    | none => simp [findValidToken, parsed, named] at found
    | some userId =>
      rw [findValidToken_read parsed named] at found
      cases matched : (rowsOf db userId).find? fun row =>
          env.comparePassword actualToken row.tokenHash with
      | none => simp [matched] at found
      | some row =>
        simp only [matched, Except.ok.injEq, Prod.mk.injEq] at found
        obtain ⟨rfl, rfl⟩ := found
        have owned : row.userId = userId := by
          have member := mem_find.mp (List.mem_of_find?_eq_some matched)
          simpa using member.2
        subst owned
        exact ⟨userIdPart, rfl, named, matched⟩

/-- In an accounted table a text that passes for the hash of a row is the secret of it. -/
theorem Accounted.opened (accounted : Accounted env part issued tokens) {row : RefreshTokenEntity}
    (member : row ∈ tokens) {secret : String}
    (matched : env.comparePassword secret row.tokenHash = true) :
    part secret ∈ issued.map part ∧ StandsFor env part row secret := by
  obtain ⟨known, drawn, stands⟩ := accounted.stored row member
  have same : part secret = part known := (stands secret).mp matched
  exact ⟨same ▸ List.mem_map_of_mem drawn, stands.congr same.symm⟩

/-- The secret that a search reads out of the text is the one that the row it finds
stands for. -/
theorem Accounted.found {db : Db} (accounted : Accounted env part issued db.refreshTokens)
    {text secret : String} {row : RefreshTokenEntity}
    (found : findValidToken env text db = .ok (secret, row)) :
    row ∈ db.refreshTokens ∧ part secret ∈ issued.map part ∧ StandsFor env part row secret := by
  obtain ⟨member, matched⟩ := findValidToken_ok found
  exact ⟨member, accounted.opened member matched⟩

/-! The text of a token can be read back. -/

theorem dot_not_hex : isHexDigit '.' = false := by decide

theorem dot_not_mem_printUuid (id : Uuid) : '.' ∉ (printUuid id).toList :=
  UuidText.not_mem ⟨printUuid id, isUuid_printUuid id⟩ (by decide) dot_not_hex

theorem dot_not_mem_hex (random : RandomBytes) : '.' ∉ random.hex.toList := by
  intro member
  rw [RandomBytes.hex, String.toList_ofList] at member
  obtain ⟨byte, _, digit⟩ := List.mem_flatMap.mp member
  have high : byte.toNat / 16 < 16 := by
    have bound := byte.isLt
    omega
  have low : byte.toNat % 16 < 16 := Nat.mod_lt _ (by decide)
  simp only [List.mem_cons, List.not_mem_nil, or_false] at digit
  rcases digit with first | second
  · have hex := isHexDigit_hexDigit high
    rw [← first, dot_not_hex] at hex
    cases hex
  · have hex := isHexDigit_hexDigit low
    rw [← second, dot_not_hex] at hex
    cases hex

theorem hex_ne_empty (random : RandomBytes) : random.hex ≠ "" := by
  intro empty
  have letters : random.hex.toList = [] := by rw [empty]; rfl
  rw [RandomBytes.hex, String.toList_ofList, List.flatMap_eq_nil_iff] at letters
  cases shape : random.bytes with
  | nil =>
    have size := random.size
    rw [shape] at size
    cases size
  | cons byte rest =>
    have first := letters byte (by rw [shape]; exact List.mem_cons_self)
    cases first

theorem printUuid_ne_empty (id : Uuid) : printUuid id ≠ "" := by
  intro empty
  have shape := isUuid_printUuid id
  rw [empty] at shape
  revert shape
  decide

theorem splitDots_text (id : Uuid) (draw : Draw) :
    splitDots (refreshTokenText id draw.secret) = [printUuid id, draw.secret] := by
  have letters : (refreshTokenText id draw.secret).toList = (printUuid id).toList ++
      '.' :: draw.secret.toList := by
    simp [refreshTokenText]
  have whole : draw.secret.toList.splitOn '.' = [draw.secret.toList] :=
    List.splitOn_eq_singleton (dot_not_mem_hex draw.randomBytes)
  rw [splitDots, letters, List.splitOn_append_cons_self_of_not_mem (dot_not_mem_printUuid id), whole]
  simp

theorem readToken_text (id : Uuid) (draw : Draw) :
    readToken (refreshTokenText id draw.secret) = some (printUuid id, draw.secret) := by
  have secret : draw.secret ≠ "" := hex_ne_empty draw.randomBytes
  simp [readToken, splitDots_text, printUuid_ne_empty, secret]

/-- A token whose row is stored is found again. -/
theorem Accounted.finds {db : Db} (accounted : Accounted env part issued db.refreshTokens)
    (reads : env.ReadsBack) {draw : Draw} {row : RefreshTokenEntity}
    (member : row ∈ db.refreshTokens) (stands : StandsFor env part row draw.secret) :
    findValidToken env (refreshTokenText row.userId draw.secret) db = .ok (draw.secret, row) := by
  simp only [findValidToken, readToken_text, reads row.userId]
  split
  · next other matched =>
    have present := (mem_find.mp (List.mem_of_find?_eq_some matched)).1
    have opened : env.comparePassword draw.secret other.tokenHash = true := by
      simpa using List.find?_some matched
    have opens := (accounted.opened present opened).2
    rw [accounted.single other present row member draw.secret opens stands]
  · next missed =>
    have unmatched := List.find?_eq_none.mp missed row (mem_find.mpr ⟨member, by simp⟩)
    exact absurd stands.matched unmatched

/-- A token without a row is not. -/
theorem Accounted.misses {db : Db} (accounted : Accounted env part issued db.refreshTokens)
    (reads : env.ReadsBack) {draw : Draw}
    (gone : ∀ row ∈ db.refreshTokens, ¬ StandsFor env part row draw.secret) (id : Uuid) :
    findValidToken env (refreshTokenText id draw.secret) db =
      .error (.unauthorized "Invalid refresh token") := by
  simp only [findValidToken, readToken_text, reads id]
  split
  · next other matched =>
    have present := (mem_find.mp (List.mem_of_find?_eq_some matched)).1
    have opened : env.comparePassword draw.secret other.tokenHash = true := by
      simpa using List.find?_some matched
    exact absurd (accounted.opened present opened).2 (gone other present)
  · rfl

end
/-! A small environment and a database with one user. -/

section Example

def openEnvironment : Environment where
  hashPassword _ plain := plain
  comparePassword plain hashed := plain == hashed
  sign _ _ := ""
  readUuid text := if shape : isUuid text = true then some (UuidText.toUuid ⟨text, shape⟩) else none
  accessTtl := 900
  refreshTtl := 604800

theorem openEnvironment_exact : openEnvironment.Exact := by
  intro salt hashed plain
  simp [openEnvironment]

theorem openEnvironment_readsBack : openEnvironment.ReadsBack := by
  intro id
  simp only [openEnvironment, isUuid_printUuid, dif_pos]
  rw [toUuid_printUuid]

def truncatingEnvironment : Environment :=
  { openEnvironment with
    comparePassword := fun plain hashed => hashedBytes plain == hashedBytes hashed }

theorem truncatingEnvironment_truncates : Truncates truncatingEnvironment := by
  intro salt draw plain
  exact beq_iff_eq

theorem truncatingEnvironment_readsBack : truncatingEnvironment.ReadsBack := by
  have same : truncatingEnvironment.readUuid = openEnvironment.readUuid := rfl
  unfold Environment.ReadsBack
  rw [same]
  exact openEnvironment_readsBack

def drawn (digit : BitVec 8) : Draw where
  now := 1000
  randomBytes := ⟨List.replicate 40 (16 * digit), List.length_replicate⟩
  salt := ""
  rowId := digit.setWidth 128

theorem secret_head (digit : BitVec 8) :
    (drawn digit).secret.toList.head? = some (hexDigit ((16 * digit).toNat / 16)) := by
  simp [drawn, Draw.secret, RandomBytes.hex, List.replicate_succ]

theorem secret_ne {first second : BitVec 8}
    (differ : hexDigit ((16 * first).toNat / 16) ≠ hexDigit ((16 * second).toNat / 16)) :
    (drawn first).secret ≠ (drawn second).secret := by
  intro same
  have heads := secret_head first
  rw [same, secret_head second] at heads
  exact differ (Option.some.inj heads).symm

def ann : UserEntity := ⟨3, 1, "ann@acme.io", "pass", "Ann", "Lee", true, none⟩

def annsDb (tokens : Table RefreshTokenEntity) : Db where
  users := ⟨[ann], by simp⟩
  refreshTokens := tokens

def annsToken (digit : BitVec 8) : RefreshTokenEntity := createToken openEnvironment (drawn digit) ann

def stored (digit : BitVec 8) : Table RefreshTokenEntity := ⟨[annsToken digit], by simp⟩

def annsText (digit : BitVec 8) : String := refreshTokenText ann.id (drawn digit).secret

theorem save_first (digit : BitVec 8) :
    (annsDb .empty).insertRefreshToken (annsToken digit) = some (annsDb (stored digit)) := rfl

end Example
end GenericIam.RefreshTokens
