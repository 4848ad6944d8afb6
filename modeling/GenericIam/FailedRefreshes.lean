import GenericIam.RefreshSessions

/-! A refresh whose steps may fail: what is left of the session when one of them does. -/

namespace GenericIam.FailedRefreshes
open Table Database Identifiers Handlers AuthService RefreshTokens RefreshSessions

/-- The steps of a refresh that may fail: repository calls, comparing and making hashes, signing. -/
inductive Stage where
  | findTokens
  | comparePassword (tokenId : Uuid)
  | findOwner
  | deleteToken
  | sign
  | hashPassword
  | saveToken
  deriving DecidableEq

/-- The error that a step fails with, if it does. A statement that fails is not carried out. -/
abbrev Failures := Stage → Option HttpException

abbrev Answer := Except HttpException TokenResponseDto × Db

def attempt (fails : Failures) (stage : Stage) (db : Db) (next : Answer) : Answer :=
  match fails stage with
  | some error => (.error error, db)
  | none => next

def firstMatch (fails : Failures) (env : Environment) (actualToken : String) :
    List RefreshTokenEntity → Except HttpException (Option RefreshTokenEntity)
  | [] => .ok none
  | token :: rest =>
      match fails (.comparePassword token.id) with
      | some error => .error error
      | none => if env.comparePassword actualToken token.tokenHash then .ok (some token)
        else firstMatch fails env actualToken rest

def generateTokensWith (fails : Failures) (env : Environment) (draw : Draw) (user : UserEntity)
    (db : Db) : Answer :=
  attempt fails .sign db <| attempt fails .hashPassword db <| attempt fails .saveToken db <|
    generateTokens env draw user db

def refreshWith (fails : Failures) (env : Environment) (now : Time) (draw : Draw)
    (refreshToken : String) (db : Db) : Answer :=
  match readToken refreshToken with
  | none => (.error (.unauthorized "Invalid refresh token format"), db)
  | some (userIdPart, actualToken) =>
      match env.readUuid userIdPart with
      | none => attempt fails .findTokens db (.error .queryFailed, db)
      | some userId =>
          let hashedTokens := db.refreshTokens.find fun token => token.userId == userId
          attempt fails .findTokens db <|
            match firstMatch fails env actualToken hashedTokens with
            | .error error => (.error error, db)
            | .ok none => (.error (.unauthorized "Invalid refresh token"), db)
            | .ok (some validToken) =>
                if validToken.expiresAt < now then
                  attempt fails .deleteToken db (.error (.unauthorized "Refresh token expired"),
                    db.deleteRefreshToken validToken.id)
                else attempt fails .findOwner db <|
                  match activeOwner db validToken with
                  | none => (.error (.unauthorized "User inactive or deleted"), db)
                  | some user =>
                      attempt fails .deleteToken db <|
                        generateTokensWith fails env draw user (db.deleteRefreshToken validToken.id)

/-! Steps one after the other on one database: the first that fails is the answer. -/

section Attempts
variable {fails : Failures} {env : Environment} {db : Db}

def attempts (fails : Failures) (stages : List Stage) (db : Db) (next : Answer) : Answer :=
  match stages.findSome? fails with
  | some error => (.error error, db)
  | none => next

theorem attempt_eq (stage : Stage) (next : Answer) :
    attempt fails stage db next = attempts fails [stage] db next := by
  unfold attempt attempts
  cases failed : fails stage <;> simp [failed]

theorem attempts_append (earlier later : List Stage) (next : Answer) :
    attempts fails earlier db (attempts fails later db next) =
      attempts fails (earlier ++ later) db next := by
  unfold attempts
  rw [List.findSome?_append]
  cases failed : earlier.findSome? fails <;> rfl

theorem attempts_none (stages : List Stage) (next : Answer) :
    attempts (fun _ => none) stages db next = next := by
  have passed : stages.findSome? (fun _ => (none : Option HttpException)) = none := by simp
  simp only [attempts, passed]

theorem attempts_passed {stages : List Stage} (passed : ∀ stage ∈ stages, fails stage = none)
    (next : Answer) :
    attempts fails stages db next = next := by
  have unfailed : stages.findSome? fails = none := List.findSome?_eq_none_iff.mpr passed
  simp only [attempts, unfailed]

theorem attempts_failed {stages : List Stage} (failed : ∃ stage ∈ stages, fails stage ≠ none)
    (next : Answer) :
    ∃ error, attempts fails stages db next = (.error error, db) := by
  unfold attempts
  cases first : stages.findSome? fails with
  | some error => exact ⟨error, rfl⟩
  | none =>
    obtain ⟨stage, member, fault⟩ := failed
    exact absurd (List.findSome?_eq_none_iff.mp first stage member) fault

def compared (env : Environment) (actualToken : String) : List RefreshTokenEntity → List Stage
  | [] => []
  | token :: rest =>
      .comparePassword token.id :: if env.comparePassword actualToken token.tokenHash then []
        else compared env actualToken rest

theorem firstMatch_eq (actualToken : String) (tokens : List RefreshTokenEntity) :
    firstMatch fails env actualToken tokens =
      match (compared env actualToken tokens).findSome? fails with
      | some error => .error error
      | none => .ok (tokens.find? fun token => env.comparePassword actualToken token.tokenHash) := by
  induction tokens with
  | nil => rfl
  | cons token rest ih =>
    unfold firstMatch compared
    rw [List.findSome?_cons]
    cases failed : fails (.comparePassword token.id) with
    | some error => rfl
    | none =>
      cases matched : env.comparePassword actualToken token.tokenHash with
      | true => simp [matched]
      | false => simpa [matched] using ih

end Attempts

section Sessions
variable {env : Environment} {now : Time} {draw : Draw} {refreshToken secret : String} {db : Db}
  {token : RefreshTokenEntity}
  {user : UserEntity} {fails : Failures}

theorem generateTokensWith_eq : generateTokensWith fails env draw user db =
    attempts fails [.sign, .hashPassword, .saveToken] db (generateTokens env draw user db) := by
  simp only [generateTokensWith, attempt_eq, attempts_append, List.cons_append, List.nil_append]

/-- When no step fails the service is the one without failures. -/
theorem refreshWith_none (env : Environment) (now : Time) (draw : Draw) (refreshToken : String)
    (db : Db) :
    refreshWith (fun _ => none) env now draw refreshToken db =
      refresh env now draw refreshToken db := by
  unfold refreshWith refresh redeem
  cases parsed : readToken refreshToken with
  | none => simp [findValidToken, parsed]
  | some parts =>
    obtain ⟨userIdPart, actualToken⟩ := parts
    simp only [attempt_eq, attempts_none, generateTokensWith_eq]
    cases named : env.readUuid userIdPart with
    | none => simp [findValidToken, parsed, named]
    | some userId =>
      have unfailed : (compared env actualToken (rowsOf db userId)).findSome? (fun _ =>
        (none : Option HttpException)) = none := by simp
      simp only [findValidToken_read parsed named, firstMatch_eq, rowsOf] at unfailed ⊢
      simp only [unfailed]
      cases matched : (db.refreshTokens.find fun token => token.userId == userId).find?
          fun token => env.comparePassword actualToken token.tokenHash with
      | none => rfl
      | some validToken =>
        by_cases expired : validToken.expiresAt < now
        · simp [expired]
        · simp only [expired, if_false]
          cases owner : activeOwner db validToken <;> rfl

/-- The token would be exchanged at that time. -/
def Accepted (env : Environment) (now : Time) (refreshToken : String) (db : Db) : Prop :=
  ∃ user, (redeem env now refreshToken db).1 = .ok user

/-- The token opens a stored row that has not expired, of an active user. -/
structure Valid (env : Environment) (now : Time) (refreshToken : String) (db : Db) (secret : String)
    (token : RefreshTokenEntity)
    (user : UserEntity) : Prop where
  found : findValidToken env refreshToken db = .ok (secret, token)
  unexpired : now ≤ token.expiresAt
  owner : activeOwner db token = some user

def untilDeleted (env : Environment) (secret : String) (db : Db)
    (token : RefreshTokenEntity) : List Stage :=
  .findTokens :: compared env secret (rowsOf db token.userId) ++ [.findOwner, .deleteToken]

def untilSaved : List Stage := [.sign, .hashPassword, .saveToken]

theorem refreshWith_valid (valid : Valid env now refreshToken db secret token user) :
    refreshWith fails env now draw refreshToken db =
      attempts fails (untilDeleted env secret db token) db
      (attempts fails untilSaved (db.deleteRefreshToken token.id)
        (generateTokens env draw user (db.deleteRefreshToken token.id))) := by
  obtain ⟨userIdPart, parsed, named, matched⟩ := findValidToken_found valid.found
  have current : ¬token.expiresAt < now := Nat.not_lt.mpr valid.unexpired
  have loop := @firstMatch_eq fails env secret (rowsOf db token.userId)
  rw [matched] at loop
  have stages : untilDeleted env secret db token =
      [.findTokens] ++
        (compared env secret (rowsOf db token.userId) ++ ([.findOwner] ++ [.deleteToken])) := rfl
  unfold refreshWith
  simp only [parsed, named, attempt_eq, generateTokensWith_eq, untilSaved]
  rw [stages, ← attempts_append, ← attempts_append, ← attempts_append]
  congr 1
  simp only [rowsOf] at loop ⊢
  rw [loop]
  unfold attempts
  cases (compared env secret (db.refreshTokens.find fun row => row.userId == token.userId)).findSome?
      fails with
  | some error => rfl
  | none => simp only [current, if_false, valid.owner]

/-- What is left in the table decides by itself who the token is exchanged for. -/
theorem accepted_iff {userIdPart : String} (parsed : readToken refreshToken = some (userIdPart, secret))
    (named : env.readUuid userIdPart = some token.userId) (owner : activeOwner db token = some user) :
    Accepted env now refreshToken db ↔
      ∃ row, (rowsOf db token.userId).find? (fun row => env.comparePassword secret row.tokenHash) =
        some row ∧ now ≤ row.expiresAt := by
  unfold Accepted redeem
  rw [findValidToken_read parsed named]
  cases matched : (rowsOf db token.userId).find? fun row =>
      env.comparePassword secret row.tokenHash with
  | none => simp
  | some row =>
    have owned : row.userId = token.userId := by
      have member := mem_find.mp (List.mem_of_find?_eq_some matched)
      simpa using member.2
    have same : activeOwner db row = some user := by rw [← owner, activeOwner, activeOwner, owned]
    by_cases expired : row.expiresAt < now
    · simp [expired, Nat.not_le.mpr expired]
    · simp [expired, same, Nat.not_lt.mp expired]

theorem rowsOf_deleted (db : Db) (id userId : Uuid) :
    rowsOf (db.deleteRefreshToken id) userId = (rowsOf db userId).filter fun row => row.id != id := by
  simp only [rowsOf, Db.deleteRefreshToken, find, select, List.filter_filter]
  congr 1
  funext row
  exact Bool.and_comm _ _

def Spare (env : Environment) (secret : String) (db : Db) (token : RefreshTokenEntity) : Prop :=
  ∃ other, ((rowsOf db token.userId).filter fun row => row.id != token.id).find?
    (fun row => env.comparePassword secret row.tokenHash) = some other ∧
      token.expiresAt ≤ other.expiresAt

/-- After an error the token can be presented again until it would have expired; otherwise
the row of the new one is stored and the new one is accepted as long as it lasts. -/
def SessionKept (env : Environment) (now : Time) (draw : Draw) (refreshToken : String)
    (token : RefreshTokenEntity) (user : UserEntity) :
    Answer → Prop
  | (.error _, db) =>
    ∀ later, now ≤ later → later ≤ token.expiresAt → Accepted env later refreshToken db
  | (.ok response, db) => createToken env draw user ∈ db.refreshTokens ∧
      ∀ later ≤ (createToken env draw user).expiresAt, Accepted env later response.refreshToken db

/-- A valid token is accepted as long as its row lasts. -/
theorem Valid.accepted (valid : Valid env now refreshToken db secret token user) {later : Time}
    (lasting : later ≤ token.expiresAt) :
    Accepted env later refreshToken db := by
  obtain ⟨userIdPart, parsed, named, matched⟩ := findValidToken_found valid.found
  exact (accepted_iff parsed named valid.owner).mpr ⟨token, matched, lasting⟩

/-- Once its row is gone the token is accepted on when another row serves it. -/
theorem Valid.deleted_iff (valid : Valid env now refreshToken db secret token user) :
    (∀ later, now ≤ later → later ≤ token.expiresAt →
      Accepted env later refreshToken (db.deleteRefreshToken token.id)) ↔
      Spare env secret db token := by
  obtain ⟨userIdPart, parsed, named, -⟩ := findValidToken_found valid.found
  have owner : activeOwner (db.deleteRefreshToken token.id) token = some user := valid.owner
  simp only [accepted_iff parsed named owner, rowsOf_deleted]
  constructor
  · intro kept
    exact kept token.expiresAt valid.unexpired (Nat.le_refl _)
  · intro ⟨other, found, lasting⟩ later _ within
    exact ⟨other, found, Nat.le_trans within lasting⟩

/-- The key of the new row is not taken and none of the user's hashes is matched by the new
secret. -/
structure Unused (env : Environment) (draw : Draw) (user : UserEntity) (db : Db) : Prop where
  rowId : ∀ row ∈ db.refreshTokens, row.id ≠ draw.rowId
  secret : ∀ row ∈ db.refreshTokens, row.userId = user.id →
    env.comparePassword draw.secret row.tokenHash = false

theorem Unused.deleted (unused : Unused env draw user db) (id : Uuid) :
    Unused env draw user (db.deleteRefreshToken id) where
  rowId := fun row member => unused.rowId row (mem_deleteRefreshToken.mp member).1
  secret := fun row member => unused.secret row (mem_deleteRefreshToken.mp member).1

/-- A pair that is generated leaves a token that can be exchanged. -/
theorem generateTokens_kept
    (hashes : ∀ salt plain, env.comparePassword plain (env.hashPassword salt plain) = true)
    (reads : env.ReadsBack) (unused : Unused env draw user db)
    (owner : activeOwner db token = some user) :
    SessionKept env now draw refreshToken token user (generateTokens env draw user db) := by
  obtain ⟨stored, _, _⟩ := activeOwner_some owner
  obtain ⟨tokens, inserted, answered⟩ := generateTokens_ok env stored unused.rowId
  have member : createToken env draw user ∈ tokens := (mem_insert inserted).mpr (.inr rfl)
  rw [answered]
  refine ⟨member, fun later lasting => ?_⟩
  have served : activeOwner { db with refreshTokens := tokens } (createToken env draw user) =
      some user := by
    rw [← owner, activeOwner, activeOwner, createToken_userId]
    simp only [(activeOwner_some owner).2.1]
  refine (accepted_iff (readToken_text user.id draw) (reads user.id) served).mpr
    ⟨createToken env draw user, ?_, lasting⟩
  have matched : env.comparePassword draw.secret (createToken env draw user).tokenHash = true :=
    hashes draw.salt draw.secret
  cases found : (rowsOf { db with refreshTokens := tokens } user.id).find? fun row =>
      env.comparePassword draw.secret row.tokenHash with
  | none =>
    have missed :=
      List.find?_eq_none.mp found (createToken env draw user) (mem_find.mpr ⟨member, by simp⟩)
    exact absurd matched missed
  | some other =>
    obtain ⟨present, owned⟩ := mem_find.mp (List.mem_of_find?_eq_some found)
    have opened := List.find?_some found
    rcases (mem_insert inserted).mp present with old | new
    · have unopened := unused.secret other old (by simpa using owned)
      simp only [unopened, Bool.false_eq_true] at opened
    · rw [createToken_userId, found, new]

/-- A refresh keeps the session exactly when a step up to the delete fails, or none of those
after it does, or another row serves the token as long. -/
theorem sessionKept_iff
    (hashes : ∀ salt plain, env.comparePassword plain (env.hashPassword salt plain) = true)
    (reads : env.ReadsBack) (fails : Failures)
    (valid : Valid env now refreshToken db secret token user) (unused : Unused env draw user db) :
    SessionKept env now draw refreshToken token user (refreshWith fails env now draw refreshToken db) ↔
      (∃ stage ∈ untilDeleted env secret db token, fails stage ≠ none) ∨
        (∀ stage ∈ untilSaved, fails stage = none) ∨
        Spare env secret db token := by
  rw [refreshWith_valid valid]
  by_cases early : ∃ stage ∈ untilDeleted env secret db token, fails stage ≠ none
  · obtain ⟨error, answered⟩ := @attempts_failed fails db _ early
      (attempts fails untilSaved (db.deleteRefreshToken token.id)
        (generateTokens env draw user (db.deleteRefreshToken token.id)))
    rw [answered]
    exact ⟨fun _ => .inl early, fun _ later _ lasting => valid.accepted lasting⟩
  · have passed : ∀ stage ∈ untilDeleted env secret db token, fails stage = none := by simpa using early
    rw [attempts_passed passed]
    simp only [early, false_or]
    by_cases late : ∀ stage ∈ untilSaved, fails stage = none
    · rw [attempts_passed late]
      have owner : activeOwner (db.deleteRefreshToken token.id) token = some user := valid.owner
      exact ⟨fun _ => .inl late, fun _ =>
        generateTokens_kept hashes reads (unused.deleted token.id) owner⟩
    · have failed : ∃ stage ∈ untilSaved, fails stage ≠ none := by simpa using late
      obtain ⟨error, answered⟩ := @attempts_failed fails (db.deleteRefreshToken token.id) _ failed
        (generateTokens env draw user (db.deleteRefreshToken token.id))
      rw [answered]
      simp only [late, false_or]
      exact valid.deleted_iff

end Sessions

section Example

theorem ann_valid :
    Valid openEnvironment 0 (annsText 1) (annsDb (stored 1)) (drawn 1).secret (annsToken 1) ann where
  found := by
    have read :=
      @findValidToken_read openEnvironment (annsDb (stored 1)) _ _ _ _ (readToken_text ann.id (drawn 1))
      (openEnvironment_readsBack ann.id)
    have only : rowsOf (annsDb (stored 1)) ann.id = [annsToken 1] := rfl
    have opened : openEnvironment.comparePassword (drawn 1).secret (annsToken 1).tokenHash = true :=
      beq_self_eq_true _
    rw [annsText, read, only]
    simp only [List.find?_cons, opened]
  unexpired := Nat.zero_le _
  owner := rfl

theorem unused_second : Unused openEnvironment (drawn 2) ann (annsDb (stored 1)) where
  rowId := by decide
  secret := by
    intro row member _
    have only : row = annsToken 1 := List.mem_singleton.mp member
    subst only
    exact beq_false_of_ne (secret_ne (by decide))

theorem openEnvironment_hashes (salt plain : String) :
    openEnvironment.comparePassword plain (openEnvironment.hashPassword salt plain) = true :=
  beq_self_eq_true plain

def unanswered : Failures
  | .findOwner => some .queryFailed
  | _ => none

def unsigned : Failures
  | .sign => some .queryFailed
  | _ => none

def spareToken : RefreshTokenEntity := { annsToken 1 with id := (drawn 9).rowId }

def spared : Db := annsDb ⟨[annsToken 1, spareToken], by decide⟩

theorem ann_valid_spared :
    Valid openEnvironment 0 (annsText 1) spared (drawn 1).secret (annsToken 1) ann where
  found := by
    have read := @findValidToken_read openEnvironment spared _ _ _ _ (readToken_text ann.id (drawn 1))
      (openEnvironment_readsBack ann.id)
    have both : rowsOf spared ann.id = [annsToken 1, spareToken] := rfl
    have opened : openEnvironment.comparePassword (drawn 1).secret (annsToken 1).tokenHash = true :=
      beq_self_eq_true _
    rw [annsText, read, both]
    simp only [List.find?_cons, opened]
  unexpired := Nat.zero_le _
  owner := rfl

theorem mem_spared {row : RefreshTokenEntity} (member : row ∈ spared.refreshTokens) :
    row = annsToken 1 ∨ row = spareToken := by
  have either : row ∈ [annsToken 1, spareToken] := member
  simpa only [List.mem_cons, List.not_mem_nil, or_false] using either

theorem unused_spared : Unused openEnvironment (drawn 2) ann spared where
  rowId := by
    intro row member
    rcases mem_spared member with rfl | rfl
    · decide
    · decide
  secret := by
    intro row member _
    have hash : row.tokenHash = (drawn 1).secret := by
      rcases mem_spared member with rfl | rfl
      · rfl
      · rfl
    rw [hash]
    exact beq_false_of_ne (secret_ne (by decide))

theorem spare_row : Spare openEnvironment (drawn 1).secret spared (annsToken 1) := by
  have left : (rowsOf spared (annsToken 1).userId).filter (fun row => row.id != (annsToken 1).id) =
    [spareToken] := rfl
  have opened : openEnvironment.comparePassword (drawn 1).secret spareToken.tokenHash = true :=
    beq_self_eq_true _
  refine ⟨spareToken, ?_, Nat.le_refl _⟩
  rw [left]
  simp only [List.find?_cons, opened]

/-- Her session outlasts a lookup that fails, a refresh in which nothing fails, and, with
the other row, a signature that fails. -/
theorem sessionKept_ann :
    SessionKept openEnvironment 0 (drawn 2) (annsText 1) (annsToken 1) ann
        (refreshWith unanswered openEnvironment 0 (drawn 2) (annsText 1) (annsDb (stored 1))) ∧
      SessionKept openEnvironment 0 (drawn 2) (annsText 1) (annsToken 1) ann
          (refreshWith (fun _ => none) openEnvironment 0 (drawn 2) (annsText 1) (annsDb (stored 1))) ∧
        SessionKept openEnvironment 0 (drawn 2) (annsText 1) (annsToken 1) ann
          (refreshWith unsigned openEnvironment 0 (drawn 2) (annsText 1) spared) := by
  refine ⟨?_, ?_, ?_⟩
  · rw [sessionKept_iff openEnvironment_hashes openEnvironment_readsBack _ ann_valid unused_second]
    exact .inl ⟨.findOwner, by simp [untilDeleted], by decide⟩
  · rw [sessionKept_iff openEnvironment_hashes openEnvironment_readsBack _ ann_valid unused_second]
    exact .inr (.inl fun _ _ => rfl)
  · rw [sessionKept_iff openEnvironment_hashes openEnvironment_readsBack _
      ann_valid_spared unused_spared]
    exact .inr (.inr spare_row)

/-- The row of the presented token is gone and there is none for a new one. -/
theorem session_lost :
    Valid openEnvironment 0 (annsText 1) (annsDb (stored 1)) (drawn 1).secret (annsToken 1) ann ∧
      ¬SessionKept openEnvironment 0 (drawn 2) (annsText 1) (annsToken 1) ann
        (refreshWith unsigned openEnvironment 0 (drawn 2) (annsText 1) (annsDb (stored 1))) := by
  refine ⟨ann_valid, ?_⟩
  rw [refreshWith_valid ann_valid]
  refine mt ann_valid.deleted_iff.mp ?_
  intro ⟨other, found, _⟩
  have gone : (rowsOf (annsDb (stored 1)) (annsToken 1).userId).filter (fun row =>
    row.id != (annsToken 1).id) = [] := rfl
  rw [gone] at found
  cases found

end Example
end GenericIam.FailedRefreshes
