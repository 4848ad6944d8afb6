import GenericIam.RefreshSessions
import GenericIam.PermissionCodes
import Mathlib.Data.List.Find

/-! The texts that a refresh accepts, compared with those that have been given out. -/

namespace GenericIam.AcceptedTokens
open Table Database Identifiers PermissionMatcher
open PermissionCodes AuthService RefreshTokens RefreshSessions

def Issued (history : List Happened) (text : String) : Prop :=
  ∃ draw user, Happened.issued draw user ∈ history ∧ text = refreshTokenText user.id draw.secret

/-- The part of a secret that bcrypt does not look at. -/
def unreadBytes (text : String) : List UInt8 := (bytes text).drop 72

section Texts
variable {text userIdPart actualToken : String}

theorem bytes_inj {first second : String} : bytes first = bytes second ↔ first = second := by
  constructor
  · intro same
    have arrays : first.toUTF8 = second.toUTF8 := ByteArray.ext (Array.ext' same)
    exact String.toByteArray_inj.mp (by simpa using arrays)
  · exact congrArg bytes

/-- The bytes that are looked at and the others make up a text. -/
theorem eq_of_bytes {first second : String} (hashed : hashedBytes first = hashedBytes second)
    (unread : unreadBytes first = unreadBytes second) : first = second := by
  rw [← bytes_inj, ← List.take_append_drop 72 (bytes first), ← List.take_append_drop 72 (bytes second)]
  exact congrArg₂ _ hashed unread

theorem readToken_some : readToken text = some (userIdPart, actualToken) ↔
    (∃ rest, splitDots text = userIdPart :: actualToken :: rest) ∧ userIdPart ≠ "" ∧
      actualToken ≠ "" := by
  unfold readToken
  cases splitDots text with
  | nil => simp
  | cons first more =>
    cases more with
    | nil => simp
    | cons second rest =>
      by_cases blank : first = "" ∨ second = ""
      · simp only [Bool.or_eq_true, decide_eq_true_eq, blank, if_true, List.cons.injEq]
        grind
      · simp only [Bool.or_eq_true, decide_eq_true_eq, blank, if_false, List.cons.injEq]
        grind

/-- A text of two parts is these with a dot in between. -/
theorem text_of_parts (split : splitDots text = [userIdPart, actualToken]) :
    text = userIdPart ++ "." ++ actualToken := by
  rw [← joinDots_splitDots text, split, joinDots_cons_cons]
  rfl

theorem splitDots_append (text rest : String) :
    splitDots (text ++ "." ++ rest) = splitDots text ++ splitDots rest := by
  have letters : (text ++ "." ++ rest).toList = text.toList ++ '.' :: rest.toList := by simp
  rw [splitDots, letters, List.splitOn_append_cons_self, List.map_append]
  rfl

/-- What follows a second dot is not read. -/
theorem readToken_append (read : readToken text = some (userIdPart, actualToken)) (rest : String) :
    readToken (text ++ "." ++ rest) = some (userIdPart, actualToken) := by
  obtain ⟨⟨more, split⟩, filled⟩ := readToken_some.mp read
  refine readToken_some.mpr ⟨⟨more ++ splitDots rest, ?_⟩, filled⟩
  rw [splitDots_append, split, List.cons_append, List.cons_append]

/-- A text that has been issued has two parts. -/
theorem not_issued_append (history : List Happened)
    (read : readToken text = some (userIdPart, actualToken)) (rest : String) :
    ¬Issued history (text ++ "." ++ rest) := by
  intro ⟨draw, user, _, same⟩
  obtain ⟨⟨more, split⟩, -⟩ := readToken_some.mp read
  have parts := splitDots_append text rest
  rw [same, splitDots_text, split] at parts
  have lengths := congrArg List.length parts
  have some_piece : splitDots rest ≠ [] := by simp [splitDots]
  have pieces := List.length_pos_iff.mpr some_piece
  simp only [List.length_cons, List.length_nil, List.length_append] at lengths
  omega

end Texts

/-! What is stored has been issued. -/

section Runs
variable {env : Environment}

def Recorded (env : Environment) (history : List Happened) (tokens : Table RefreshTokenEntity) : Prop :=
  ∀ row ∈ tokens, ∃ draw user, Happened.issued draw user ∈ history ∧ row = createToken env draw user

variable {history : List Happened} {tokens later : Table RefreshTokenEntity}

theorem Recorded.subset (recorded : Recorded env history tokens)
    (fewer : ∀ row ∈ later, row ∈ tokens) (happened : List Happened) :
    Recorded env (history ++ happened) later := by
  intro row member
  obtain ⟨draw, user, issued, made⟩ := recorded row (fewer row member)
  exact ⟨draw, user, List.mem_append_left _ issued, made⟩

theorem Recorded.insert (recorded : Recorded env history tokens) {draw : Draw} {user : UserEntity}
    {happened : List Happened} (inserted : tokens.insert (createToken env draw user) = some later)
    (issued : Happened.issued draw user ∈ happened) :
    Recorded env (history ++ happened) later := by
  intro row member
  rcases (mem_insert inserted).mp member with old | new
  · exact recorded.subset (fun _ present => present) happened row old
  · exact ⟨draw, user, List.mem_append_right _ issued, new⟩

theorem Recorded.refreshed {now : Time} {db : Db} {draw : Draw} {refreshToken : String}
    {result : Except Handlers.HttpException TokenResponseDto × Db} {happened : List Happened}
    (recorded : Recorded env history db.refreshTokens)
    (answered : Refreshed env now draw refreshToken db result happened) :
    Recorded env (history ++ happened) result.2.refreshTokens := by
  have fewer : ∀ id, ∀ row ∈ (db.deleteRefreshToken id).refreshTokens, row ∈ db.refreshTokens :=
    fun id row member => (mem_deleteRefreshToken.mp member).1
  cases answered with
  | unknown missed => exact recorded.subset (fun _ member => member) _
  | expired found late => exact recorded.subset (fewer _) _
  | ownerless found lasting nobody => exact recorded.subset (fun _ member => member) _
  | @exchanged secret token user tokens found lasting owner inserted =>
    have rest := recorded.subset (fewer token.id) []
    rw [List.append_nil] at rest
    exact rest.insert inserted (by simp)

variable {Id : Type} [Identifier Id] [DecidableEq Id]

/-- Each request stores nothing but what it issues. -/
theorem recorded_after {ledger : Ledger} {request : Request Id}
    (recorded : Recorded env ledger.history ledger.db.refreshTokens)
    (valid : Valid ledger request.now request.draw) :
    Recorded env (ledger.after env request).history (ledger.after env request).db.refreshTokens := by
  simp only [Ledger.after, outcome]
  cases request.call with
  | login dto =>
    rcases login_cases env dto valid.rowId with ⟨user, tokens, inserted, after,
      happened⟩ | ⟨after, happened⟩
    · simp only [after, happened]
      exact recorded.insert inserted (by simp)
    · simp only [after]
      exact recorded.subset (fun _ member => member) _
  | refresh refreshToken =>
    exact recorded.refreshed (refresh_cases env request.now refreshToken valid.rowId)
  | logout userId => exact recorded.subset (fun _ member => (mem_deleteRefreshTokensOf.mp member).1) _
  | setActivation id tenantId isActive actorId =>
    simp only
    rw [serve_setActivation]
    split
    · exact recorded.subset (fun _ member => (mem_deleteRefreshTokensOf.mp member).1) _
    · exact recorded.subset (fun _ member => member) _
  | updateUser id dto tenantId actorId =>
    simp only
    rw [serve_updateUser]
    exact recorded.subset (fun _ member => member) _

structure Bare (ledger : Ledger) : Prop where
  history : ledger.history = []
  tokens : ∀ row, row ∉ ledger.db.refreshTokens

theorem recorded_throughout {first last : Ledger} (bare : Bare first) (run : Runs Id env first last) :
    Recorded env last.history last.db.refreshTokens := by
  induction run with
  | start => exact fun row member => absurd member (bare.tokens row)
  | next _ valid ih => exact recorded_after ih valid

/-- The row that the two parts of a text open: the first of the user whose hash is matched, not
expired, and of an active user. -/
structure Opens (env : Environment) (now : Time) (db : Db) (userIdPart actualToken : String)
    (row : RefreshTokenEntity) : Prop where
  named : env.readUuid userIdPart = some row.userId
  first : (rowsOf db row.userId).find? (fun other => env.comparePassword actualToken other.tokenHash) =
    some row
  lasting : ¬row.expiresAt < now
  owned : ∃ user ∈ db.users, user.id = row.userId ∧ user.isActive = true

/-- Nothing in the text escapes the comparison: there is no third part, the `uuid` is written as
it is printed, and the bytes that are not looked at are those of an issued secret that opens the
same row. -/
structure Whole (env : Environment) (history : List Happened) (text userIdPart actualToken : String)
    (row : RefreshTokenEntity) : Prop where
  two_parts : (splitDots text).length = 2
  printed : userIdPart = printUuid row.userId
  unread : ∃ draw user, Happened.issued draw user ∈ history ∧ user.id = row.userId ∧
    env.comparePassword draw.secret row.tokenHash = true ∧
      unreadBytes actualToken = unreadBytes draw.secret

variable {now : Time} {next : Draw} {db : Db} {text userIdPart actualToken : String}
  {row : RefreshTokenEntity}

theorem Opens.found (read : readToken text = some (userIdPart, actualToken))
    (opens : Opens env now db userIdPart actualToken row) :
    findValidToken env text db = .ok (actualToken, row) := by
  rw [findValidToken_read read opens.named, opens.first]

/-- A refresh succeeds exactly when the text opens a row. -/
theorem refresh_isOk_iff (free : ∀ row ∈ db.refreshTokens, row.id ≠ next.rowId) :
    (refresh env now next text db).1.isOk = true ↔
    ∃ userIdPart actualToken row, readToken text = some (userIdPart, actualToken) ∧
      Opens env now db userIdPart actualToken row := by
  have answered := refresh_cases env now text free
  constructor
  · intro succeeded
    cases lookup : findValidToken env text db with
    | error error => simp [refresh, redeem, lookup, Except.isOk, Except.toBool] at succeeded
    | ok valid =>
      obtain ⟨actualToken, row⟩ := valid
      obtain ⟨userIdPart, read, named, first⟩ := findValidToken_found lookup
      obtain ⟨lasting, owned⟩ := (answered.isOk_iff lookup).mp succeeded
      exact ⟨userIdPart, actualToken, row, read, named, first, lasting, owned⟩
  · intro opened
    obtain ⟨userIdPart, actualToken, row, read, opens⟩ := opened
    exact (answered.isOk_iff (opens.found read)).mpr ⟨opens.lasting, opens.owned⟩

/-- A text that opens a row has been issued exactly when nothing in it escapes the comparison. -/
theorem issued_iff_whole (truncates : Truncates env) (reads : env.ReadsBack)
    (recorded : Recorded env history db.refreshTokens)
    (read : readToken text = some (userIdPart, actualToken))
    (opens : Opens env now db userIdPart actualToken row) :
    Issued history text ↔ Whole env history text userIdPart actualToken row := by
  have matched := (findValidToken_ok (opens.found read)).2
  constructor
  · intro ⟨draw, user, issued, same⟩
    subst same
    rw [readToken_text, Option.some.injEq, Prod.mk.injEq] at read
    obtain ⟨rfl, rfl⟩ := read
    have owner : user.id = row.userId := Option.some.inj ((reads user.id).symm.trans opens.named)
    exact ⟨by rw [splitDots_text]; rfl, by rw [owner], draw, user, issued, owner, matched, rfl⟩
  · intro ⟨two_parts, printed, draw, user, issued, owner, opened, unread⟩
    obtain ⟨known, _, _, made⟩ := recorded row (mem_find.mp (List.mem_of_find?_eq_some opens.first)).1
    rw [made] at matched opened
    have hashed : hashedBytes actualToken = hashedBytes draw.secret :=
      ((truncates known.salt known actualToken).mp matched).trans
        ((truncates known.salt known draw.secret).mp opened).symm
    obtain ⟨⟨rest, split⟩, -⟩ := readToken_some.mp read
    have last : rest = [] := by simpa [split] using two_parts
    subst last
    refine ⟨draw, user, issued, ?_⟩
    rw [text_of_parts split, printed, eq_of_bytes hashed unread, owner]
    rfl

/-- In every state that requests can lead to: if a refresh with the text succeeds then the
text has been issued, exactly when nothing escapes the comparison in case it opens a row. -/
theorem accepts_issued_iff (truncates : Truncates env) (reads : env.ReadsBack) {first last : Ledger}
    (bare : Bare first) (run : Runs Id env first last) (valid : Valid last now next)
    (text : String) :
    ((refresh env now next text last.db).1.isOk = true → Issued last.history text) ↔
      ∀ userIdPart actualToken row, readToken text = some (userIdPart, actualToken) →
        Opens env now last.db userIdPart actualToken row →
          Whole env last.history text userIdPart actualToken row := by
  have recorded : Recorded env last.history last.db.refreshTokens := recorded_throughout bare run
  rw [refresh_isOk_iff valid.rowId]
  constructor
  · intro accepts userIdPart actualToken row read opens
    exact (issued_iff_whole truncates reads recorded read opens).mp (accepts ⟨_, _, row, read, opens⟩)
  · intro whole ⟨userIdPart, actualToken, row, read, opens⟩
    exact (issued_iff_whole truncates reads recorded read opens).mpr (whole _ _ row read opens)

/-- A refresh depends on the `uuid` that is named and on the bytes that are looked at alone. -/
theorem respelled (truncates : Truncates env) {first last : Ledger} (bare : Bare first)
    (run : Runs Id env first last) (valid : Valid last now next) {other otherId otherToken : String}
    (read : readToken text = some (userIdPart, actualToken))
    (read' : readToken other = some (otherId, otherToken))
    (named : env.readUuid userIdPart = env.readUuid otherId)
    (hashed : hashedBytes actualToken = hashedBytes otherToken) :
    (refresh env now next text last.db).1.isOk = (refresh env now next other last.db).1.isOk := by
  have recorded : Recorded env last.history last.db.refreshTokens := recorded_throughout bare run
  have alike : ∀ row ∈ last.db.refreshTokens,
      env.comparePassword actualToken row.tokenHash = env.comparePassword otherToken row.tokenHash := by
    intro row member
    obtain ⟨draw, _, _, made⟩ := recorded row member
    rw [made, Bool.eq_iff_iff]
    exact (truncates draw.salt draw actualToken).trans
      (hashed ▸ (truncates draw.salt draw otherToken).symm)
  have same : ∀ row, Opens env now last.db userIdPart actualToken row ↔
      Opens env now last.db otherId otherToken row := by
    intro row
    have search : (rowsOf last.db row.userId).find? (fun other =>
      env.comparePassword actualToken other.tokenHash) =
        (rowsOf last.db row.userId).find? (fun other =>
          env.comparePassword otherToken other.tokenHash) :=
      List.find?_congr fun other member => alike other (mem_find.mp member).1
    constructor
    · exact fun opens => ⟨named ▸ opens.named, search ▸ opens.first, opens.lasting, opens.owned⟩
    · exact fun opens => ⟨named ▸ opens.named, search ▸ opens.first, opens.lasting, opens.owned⟩
  rw [Bool.eq_iff_iff, refresh_isOk_iff valid.rowId, refresh_isOk_iff valid.rowId]
  simp only [read, read', Option.some.injEq, Prod.mk.injEq]
  grind

/-- Only issued texts are accepted in a state where no text is. -/
theorem accepts_only_issued_iff {ledger : Ledger} (valid : Valid ledger now next) :
    (∀ text, (refresh env now next text ledger.db).1.isOk = true → Issued ledger.history text) ↔
      ∀ text, (refresh env now next text ledger.db).1.isOk = false := by
  constructor
  · intro accepts text
    by_contra accepted
    obtain ⟨userIdPart, actualToken, row, read, opens⟩ :=
      (refresh_isOk_iff valid.rowId).mp (Bool.not_eq_false _ |>.mp accepted)
    have longer : (refresh env now next (text ++ "." ++ "") ledger.db).1.isOk = true :=
      (refresh_isOk_iff valid.rowId).mpr ⟨userIdPart, actualToken, row, readToken_append read "", opens⟩
    exact not_issued_append ledger.history read "" (accepts _ longer)
  · intro refused text accepted
    rw [refused text] at accepted
    cases accepted

end Runs

section Example

theorem truncating_outcome :
    outcome truncatingEnvironment annsLogin (annsDb .empty) =
      (annsDb (stored 1), [.issued (drawn 1) ann]) := by
  have passed : authenticate truncatingEnvironment ⟨"ann@acme.io", "pass"⟩ (annsDb .empty) =
    .ok (.inl ann) := rfl
  have saved : generateTokens truncatingEnvironment (drawn 1) ann (annsDb .empty) =
      (.ok (tokenResponse truncatingEnvironment (drawn 1) ann), annsDb (stored 1)) := rfl
  simp only [outcome, annsLogin, login, loggedIn, passed, generated, saved, Except.isOk,
    Except.toBool, if_true]

def annsFirst : Ledger := annsLedger.after truncatingEnvironment annsLogin

theorem annsLedger_bare : Bare annsLedger := ⟨rfl, fun _ member => nomatch member⟩

theorem annsFirst_run : Runs Uuid truncatingEnvironment annsLedger annsFirst :=
  .next .start ⟨by decide, by decide, List.not_mem_nil, fun _ member => nomatch member⟩

theorem annsFirst_db : annsFirst.db = annsDb (stored 1) := by
  simp only [annsFirst, Ledger.after, annsLedger, truncating_outcome]

theorem annsFirst_valid : Valid annsFirst 1000 (drawn 2) := by
  refine ⟨by decide, by decide, ?_, ?_⟩
  · exact List.not_mem_cons_of_ne_of_not_mem (secret_ne (by decide)) List.not_mem_nil
  · intro row member
    rw [annsFirst_db] at member
    rw [List.mem_singleton.mp member]
    decide

theorem accepts_issued_ann :
    ((refresh truncatingEnvironment 1000 (drawn 2) (annsText 1) annsFirst.db).1.isOk = true →
      Issued annsFirst.history (annsText 1)) ↔
    ∀ userIdPart actualToken row, readToken (annsText 1) = some (userIdPart, actualToken) →
      Opens truncatingEnvironment 1000 annsFirst.db userIdPart actualToken row →
        Whole truncatingEnvironment annsFirst.history (annsText 1) userIdPart actualToken row :=
  accepts_issued_iff truncatingEnvironment_truncates truncatingEnvironment_readsBack annsLedger_bare
    annsFirst_run annsFirst_valid _

theorem annsFirst_opens :
    Opens truncatingEnvironment 1000 annsFirst.db (printUuid ann.id) (drawn 1).secret
      (annsToken 1) := by
  rw [annsFirst_db]
  refine ⟨openEnvironment_readsBack ann.id, ?_, by decide, ann, List.mem_singleton.mpr rfl, rfl, rfl⟩
  have only : rowsOf (annsDb (stored 1)) ann.id = [annsToken 1] := rfl
  have opened : truncatingEnvironment.comparePassword (drawn 1).secret (annsToken 1).tokenHash = true :=
    beq_self_eq_true _
  exact only ▸ by simp only [List.find?_cons, opened]

/-- With a third part her token is exchanged all the same, though it has not been given out. -/
theorem third_part_accepted : Runs Uuid truncatingEnvironment annsLedger annsFirst ∧
    (refresh truncatingEnvironment 1000 (drawn 2) (annsText 1 ++ "." ++ "x") annsFirst.db).1.isOk = true ∧
      ¬Issued annsFirst.history (annsText 1 ++ "." ++ "x") := by
  have read : readToken (annsText 1) = some (printUuid ann.id, (drawn 1).secret) :=
    readToken_text ann.id (drawn 1)
  refine ⟨annsFirst_run, ?_, not_issued_append _ read "x"⟩
  exact (refresh_isOk_iff annsFirst_valid.rowId).mpr ⟨_, _, _,
    readToken_append read "x", annsFirst_opens⟩

end Example
end GenericIam.AcceptedTokens
