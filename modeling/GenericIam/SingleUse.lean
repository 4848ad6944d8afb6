import GenericIam.RefreshTokens
import GenericIam.Interleaving

/-! Logins, refreshes and logouts whose statements interleave. A refresh that deletes a
row without looking whether it is still there exchanges a token that another refresh has
exchanged before. -/

namespace GenericIam.SingleUse
open Table Database Identifiers AuthService RefreshTokens Interleaving

structure Shared where
  db : Db
  issued : List String

inductive Starts : Point → Prop where
  | login (dto : LoginDto) : Starts (.findUser dto)
  | refresh (refreshToken : String) : Starts (.findTokens refreshToken)
  | logout (userId : Uuid) : Starts (.dropAll userId)

def issuedAfter (draw : Draw) (issued : List String) : Point → List String
  | .saveToken _ _ => draw.secret :: issued
  | _ => issued

/-- Any number of calls. Each statement meets a clock and draws a secret that differs from
those issued in what bcrypt looks at; in between, other requests change other tables and
may take tokens away. -/
def system (env : Environment) : System Shared Point where
  spawns _ point := Starts point
  moves shared point shared' point' :=
    ∃ now draw, hashedBytes draw.secret ∉ shared.issued.map hashedBytes ∧
    step env now draw shared.db point = (shared'.db, point') ∧
      shared'.issued = issuedAfter draw shared.issued point
  disturbs shared shared' := shared'.issued = shared.issued ∧
    ∀ row ∈ shared'.db.refreshTokens, row ∈ shared.db.refreshTokens

def exchanged : Point → Option String
  | .answered exchanged _ => exchanged
  | _ => none

/-- A statement that deletes the token in use deletes a row that is still there. -/
def Deletes (shared : Shared) (point : Point) : Prop :=
  ∀ secret token user, point = .dropUsed secret token user → token ∈ shared.db.refreshTokens

/-! What holds throughout such runs. -/

def holding : Point → Option (String × RefreshTokenEntity)
  | .findOwner secret token => some (secret, token)
  | .dropUsed secret token _ => some (secret, token)
  | _ => none

def spent : Point → Option String
  | .saveToken exchanged _ => exchanged
  | .answered exchanged _ => exchanged
  | _ => none

/-- The secret has been issued up to what bcrypt does not look at, and the token stands for it. -/
structure Known (env : Environment) (issued : List String) (secret : String)
    (token : RefreshTokenEntity) : Prop where
  issued : hashedBytes secret ∈ issued.map hashedBytes
  stands : StandsFor env hashedBytes token secret

structure Spent (env : Environment) (shared : Shared) (secret : String) : Prop where
  issued : hashedBytes secret ∈ shared.issued.map hashedBytes
  gone : ∀ row ∈ shared.db.refreshTokens, ¬ StandsFor env hashedBytes row secret

structure Sound (env : Environment) (state : State Shared Point) : Prop where
  accounted : Accounted env hashedBytes state.shared.issued state.shared.db.refreshTokens
  holds : ∀ point ∈ state.procs, ∀ secret token, holding point = some (secret, token) →
    Known env state.shared.issued secret token
  once : ((state.procs.filterMap spent).map hashedBytes).Nodup
  gone : ∀ secret ∈ state.procs.filterMap spent, Spent env state.shared secret

section
variable {env : Environment}

/-- A call that takes no token away for itself: the tokens only get fewer and what the
call has found is accounted for. -/
theorem Sound.pass {shared shared' : Shared} {before after : List Point} {point point' : Point}
    (sound : Sound env ⟨shared, before ++ point :: after⟩) (issued : shared'.issued = shared.issued)
    (fewer : ∀ row ∈ shared'.db.refreshTokens, row ∈ shared.db.refreshTokens)
    (found : ∀ secret token, holding point' = some (secret, token) →
      Known env shared.issued secret token)
    (kept : spent point' = none ∨ spent point' = spent point) :
    Sound env ⟨shared', before ++ point' :: after⟩ := by
  have shorter : ((before ++ point' :: after).filterMap spent).Sublist
      ((before ++ point :: after).filterMap spent) := by
    simp only [List.filterMap_append, List.filterMap_cons]
    apply List.Sublist.append_left
    rcases kept with nothing | same
    · rw [nothing]
      cases spent point with
      | none => exact List.Sublist.refl _
      | some secret => exact List.sublist_cons_self _ _
    · rw [same]
  refine ⟨?_, ?_, sound.once.sublist (shorter.map hashedBytes), ?_⟩
  · exact sound.accounted.subset fewer fun secret drawn => issued ▸ drawn
  · intro other member secret token carries
    rw [issued]
    rcases System.mem_moved member with moved | stood
    · exact found secret token (moved ▸ carries)
    · exact sound.holds other stood secret token carries
  · intro secret member
    have before := sound.gone secret (shorter.subset member)
    exact ⟨issued ▸ before.issued, fun row present => before.gone row (fewer row present)⟩

/-- A call that only reads, and comes to hold no token. -/
theorem Sound.read {shared : Shared} {before after : List Point} {point point' : Point}
    (sound : Sound env ⟨shared, before ++ point :: after⟩) (empty : holding point' = none)
    (unspent : spent point' = none) : Sound env ⟨shared, before ++ point' :: after⟩ := by
  refine sound.pass rfl (fun _ member => member) ?_ (.inl unspent)
  intro secret token carries
  rw [empty] at carries
  cases carries

/-- A refresh that deletes the row it has found, while the row is there, is the first to
spend its secret. -/
theorem Sound.spend {shared : Shared} {before after : List Point} {secret : String}
    {token : RefreshTokenEntity} {user : UserEntity}
    (sound : Sound env ⟨shared, before ++ .dropUsed secret token user :: after⟩)
    (present : token ∈ shared.db.refreshTokens) :
    Sound env ⟨⟨shared.db.deleteRefreshToken token.id, shared.issued⟩,
      before ++ .saveToken (some secret) user :: after⟩ := by
  have here : Point.dropUsed secret token user ∈ before ++ .dropUsed secret token user :: after :=
    List.mem_append_right _ List.mem_cons_self
  have known := sound.holds _ here secret token rfl
  have list : (before ++ .dropUsed secret token user :: after).filterMap spent =
      before.filterMap spent ++ after.filterMap spent := by
    simp [List.filterMap_append, List.filterMap_cons, spent]
  have longer : (before ++ .saveToken (some secret) user :: after).filterMap spent =
      before.filterMap spent ++ secret :: after.filterMap spent := by
    simp [List.filterMap_append, spent]
  have once := sound.once
  have gone := sound.gone
  simp only [list] at once gone
  have unspent :
      hashedBytes secret ∉ (before.filterMap spent ++ after.filterMap spent).map hashedBytes := by
    intro member
    obtain ⟨other, spentBefore, same⟩ := List.mem_map.mp member
    exact (gone other spentBefore).gone token present (known.stands.congr same.symm)
  refine ⟨?_, ?_, ?_, ?_⟩
  · exact sound.accounted.subset (fun row member => (mem_deleteRefreshToken.mp member).1) fun _ known =>
      known
  · intro other member held row carries
    rcases System.mem_moved member with moved | stood
    · subst moved
      cases carries
    · exact sound.holds other stood held row carries
  · simp only [longer]
    rw [List.map_append, List.map_cons, List.nodup_middle, ← List.map_append]
    exact List.nodup_cons.mpr ⟨unspent, once⟩
  · intro other member
    simp only [longer] at member
    rcases List.mem_cons.mp (List.perm_middle.mem_iff.mp member) with this | old
    · subst this
      refine ⟨known.issued, fun row remains opens => ?_⟩
      obtain ⟨stored, distinct⟩ := mem_deleteRefreshToken.mp remains
      have same : row = token :=
        sound.accounted.single row stored token present other opens known.stands
      exact distinct (by rw [same])
    · have before := gone other old
      exact ⟨before.issued, fun row remains => before.gone row (mem_deleteRefreshToken.mp remains).1⟩

/-- A new token stands for a secret that no call has spent. -/
theorem Sound.save (truncates : Truncates env) {shared : Shared} {before after : List Point}
    {used : Option String} {user : UserEntity} {draw : Draw} {db : Db}
    {answer : Except Handlers.HttpException (Option TokenResponseDto)}
    (sound : Sound env ⟨shared, before ++ .saveToken used user :: after⟩)
    (fresh : hashedBytes draw.secret ∉ shared.issued.map hashedBytes)
    (inserted : shared.db.insertRefreshToken (createToken env draw user) = some db) :
    Sound env ⟨⟨db, draw.secret :: shared.issued⟩, before ++ .answered used answer :: after⟩ := by
  obtain ⟨tokens, added, rfl⟩ := insertRefreshToken_some inserted
  have same : (before ++ Point.answered used answer :: after).filterMap spent =
      (before ++ Point.saveToken used user :: after).filterMap spent := by
    simp only [List.filterMap_append, List.filterMap_cons, spent]
  have stands : StandsFor env hashedBytes (createToken env draw user) draw.secret :=
    createToken_standsFor truncates draw user
  refine ⟨?_, ?_, ?_, ?_⟩
  · exact sound.accounted.insert stands fresh added
  · intro other member held row carries
    have known : Known env shared.issued held row := by
      rcases System.mem_moved member with moved | stood
      · subst moved
        cases carries
      · exact sound.holds other stood held row carries
    exact ⟨List.mem_cons_of_mem _ known.issued, known.stands⟩
  · rw [same]
    exact sound.once
  · intro secret member
    rw [same] at member
    have before := sound.gone secret member
    refine ⟨List.mem_cons_of_mem _ before.issued, fun row stored opens => ?_⟩
    rcases (mem_insert added).mp stored with old | new
    · exact before.gone row old opens
    · subst new
      have clash : hashedBytes secret = hashedBytes draw.secret := opens.eq stands
      exact fresh (clash ▸ before.issued)

/-- One statement of a call, taken under the condition. -/
theorem Sound.move (truncates : Truncates env) {shared shared' : Shared} {before after : List Point}
    {point point' : Point} (sound : Sound env ⟨shared, before ++ point :: after⟩)
    (allowed : Deletes shared point) (moved : (system env).moves shared point shared' point') :
    Sound env ⟨shared', before ++ point' :: after⟩ := by
  obtain ⟨now, draw, fresh, stepped, issued⟩ := moved
  obtain ⟨db', issued'⟩ := shared'
  simp only at stepped issued
  subst issued
  have here : point ∈ before ++ point :: after := List.mem_append_right _ List.mem_cons_self
  have nothing : ∀ secret token, (none : Option (String × RefreshTokenEntity)) = some (secret, token) →
      Known env shared.issued secret token := fun _ _ absent => nomatch absent
  cases point with
  | findUser dto =>
    simp only [step] at stepped
    split at stepped
    · cases stepped
      exact sound.read rfl rfl
    · split at stepped
      · cases stepped
        exact sound.read rfl rfl
      · cases stepped
        exact sound.read rfl rfl
  | findSuperAdmin dto =>
    simp only [step] at stepped
    split at stepped
    · cases stepped
      exact sound.read rfl rfl
    · split at stepped
      · cases stepped
        exact sound.read rfl rfl
      · cases stepped
        exact sound.read rfl rfl
  | findTokens refreshToken =>
    simp only [step] at stepped
    split at stepped
    · cases stepped
      exact sound.read rfl rfl
    · next secret token found =>
      obtain ⟨_, drawn, stands⟩ := sound.accounted.found found
      split at stepped
      · cases stepped
        exact sound.read rfl rfl
      · cases stepped
        refine sound.pass rfl (fun _ member => member) ?_ (.inl rfl)
        intro other row carries
        cases carries
        exact ⟨drawn, stands⟩
  | dropExpired token =>
    cases stepped
    exact sound.pass rfl (fun _ member => (mem_deleteRefreshToken.mp member).1) nothing (.inl rfl)
  | findOwner secret token =>
    have held := sound.holds _ here secret token rfl
    simp only [step] at stepped
    split at stepped
    · cases stepped
      exact sound.read rfl rfl
    · cases stepped
      refine sound.pass rfl (fun _ member => member) ?_ (.inl rfl)
      intro other row carries
      cases carries
      exact held
  | dropUsed secret token user =>
    cases stepped
    exact sound.spend (allowed secret token user rfl)
  | saveToken used user =>
    simp only [step] at stepped
    split at stepped
    · next db inserted =>
      cases stepped
      exact sound.save truncates fresh inserted
    · cases stepped
      have passed : Sound env ⟨shared, before ++ Point.refused .queryFailed :: after⟩ :=
        sound.read rfl rfl
      refine ⟨?_, ?_, passed.once, ?_⟩
      · exact passed.accounted.subset (fun _ member => member) fun _ known =>
          List.mem_cons_of_mem _ known
      · intro other member held row carries
        have known := passed.holds other member held row carries
        exact ⟨List.mem_cons_of_mem _ known.issued, known.stands⟩
      · intro secret member
        have before := passed.gone secret member
        exact ⟨List.mem_cons_of_mem _ before.issued, before.gone⟩
  | dropAll userId =>
    cases stepped
    exact sound.pass rfl (fun _ member => (mem_deleteRefreshTokensOf.mp member).1) nothing (.inl rfl)
  | answered used answer =>
    cases stepped
    exact sound.pass rfl (fun _ member => member) nothing (.inr rfl)

theorem Sound.step (truncates : Truncates env) {state state' : State Shared Point}
    (sound : Sound env state) (next : ((system env).restrict Deletes).Step state state') :
    Sound env state' := by
  cases next with
  | @spawn shared procs point new =>
    have unspent : spent point = none := by cases new <;> rfl
    have empty : holding point = none := by cases new <;> rfl
    have same : (procs ++ [point]).filterMap spent = procs.filterMap spent := by
      simp [List.filterMap_append, unspent]
    refine ⟨sound.accounted, ?_, ?_, ?_⟩
    · intro other member secret token carries
      rcases List.mem_append.mp member with old | started
      · exact sound.holds other old secret token carries
      · rw [List.mem_singleton.mp started, empty] at carries
        cases carries
    · rw [same]
      exact sound.once
    · intro secret member
      rw [same] at member
      exact sound.gone secret member
  | advance before after moved => exact sound.move truncates moved.1 moved.2
  | disturb changed =>
    obtain ⟨issued, fewer⟩ := changed
    refine ⟨?_, ?_, sound.once, ?_⟩
    · exact sound.accounted.subset fewer fun secret drawn => issued ▸ drawn
    · intro other member secret token carries
      rw [issued]
      exact sound.holds other member secret token carries
    · intro secret member
      have before := sound.gone secret member
      exact ⟨issued ▸ before.issued, fun row present => before.gone row (fewer row present)⟩

theorem sound_start (env : Environment) {db : Db} (unissued : db.refreshTokens = .empty) :
    Sound env ⟨⟨db, []⟩, []⟩ where
  accounted := by
    rw [unissued]
    exact accounted_empty env hashedBytes []
  holds := fun _ member => nomatch member
  once := List.nodup_nil
  gone := fun _ member => nomatch member

theorem exchanged_spent (point : Point) : exchanged point = none ∨ exchanged point = spent point := by
  cases point with
  | answered used answer => exact .inr rfl
  | _ => exact .inl rfl

theorem exchanged_sublist (points : List Point) :
    (points.filterMap exchanged).Sublist (points.filterMap spent) := by
  induction points with
  | nil => exact List.Sublist.refl _
  | cons point rest ih =>
    rw [List.filterMap_cons, List.filterMap_cons]
    rcases exchanged_spent point with nothing | same
    · rw [nothing]
      cases spent point with
      | none => exact ih
      | some secret => exact ih.cons secret
    · rw [same]
      cases spent point with
      | none => exact ih
      | some secret => exact ih.cons_cons secret

/-- In every run in which no refresh deletes the token it is using after that row has
gone, each token is exchanged at most once, however its secret goes on after the bytes
that bcrypt looks at. -/
theorem exchanged_once (truncates : Truncates env) {db : Db} (unissued : db.refreshTokens = .empty)
    {state : State Shared Point} (run : ((system env).restrict Deletes).Reaches ⟨⟨db, []⟩, []⟩ state) :
    ((state.procs.filterMap exchanged).map hashedBytes).Nodup := by
  have sound : Sound env state :=
    System.reaches_invariant (fun held next => held.step truncates next) run (sound_start env unissued)
  exact sound.once.sublist ((exchanged_sublist state.procs).map hashedBytes)

end

/-! A token that is exchanged twice. -/

section Replay

theorem save_again {first second : BitVec 8} (differ : (annsToken first).id ≠ (annsToken second).id) :
    ∃ tokens, (annsDb (stored first)).insertRefreshToken (annsToken second) = some (annsDb tokens) := by
  have fresh : ((stored first).insert (annsToken second)).isSome = true := by
    apply insert_isSome.mpr
    intro other member
    rw [List.mem_singleton.mp member]
    exact differ
  obtain ⟨tokens, added⟩ := Option.isSome_iff_exists.mp fresh
  have known : (annsDb (stored first)).hasUser (annsToken second).userId = true := rfl
  have applied : (annsDb (stored first)).insertRefreshToken (annsToken second) =
      ((stored first).insert (annsToken second)).map annsDb := if_pos known
  exact ⟨tokens, by rw [applied, added, Option.map_some]⟩

theorem accounted_stored (digit : BitVec 8) :
    Accounted truncatingEnvironment hashedBytes [(drawn digit).secret] (stored digit) := by
  have stands := createToken_standsFor truncatingEnvironment_truncates (drawn digit) ann
  have added : (Table.empty : Table RefreshTokenEntity).insert (annsToken digit) =
    some (stored digit) := rfl
  exact (accounted_empty truncatingEnvironment hashedBytes []).insert stands List.not_mem_nil added

theorem find_stored (digit : BitVec 8) :
    findValidToken truncatingEnvironment (annsText digit) (annsDb (stored digit)) =
      .ok ((drawn digit).secret, annsToken digit) := by
  have present : annsToken digit ∈ (annsDb (stored digit)).refreshTokens := List.mem_singleton.mpr rfl
  have stands : StandsFor truncatingEnvironment hashedBytes (annsToken digit) (drawn digit).secret :=
    createToken_standsFor truncatingEnvironment_truncates (drawn digit) ann
  have accounted : Accounted truncatingEnvironment hashedBytes [(drawn digit).secret]
    (annsDb (stored digit)).refreshTokens :=
    accounted_stored digit
  have found := accounted.finds truncatingEnvironment_readsBack present stands
  rwa [annsToken, createToken_userId] at found

theorem delete_stored (digit : BitVec 8) :
    (annsDb (stored digit)).deleteRefreshToken (annsToken digit).id = annsDb .empty := by
  have gone : (stored digit).select (fun row => row.id != (annsToken digit).id) = .empty := by
    apply Table.ext
    simp [Table.select, stored, Table.empty]
  simp only [Db.deleteRefreshToken, annsDb, gone]

theorem delete_other {first second : BitVec 8} (differ : (annsToken first).id ≠ (annsToken second).id) :
    (annsDb (stored first)).deleteRefreshToken (annsToken second).id = annsDb (stored first) := by
  have kept : (stored first).select (fun row => row.id != (annsToken second).id) = stored first := by
    apply Table.ext
    simp [Table.select, stored, differ]
  simp only [Db.deleteRefreshToken, annsDb, kept]

theorem moves_of_step {db db' : Db} {issued : List String} {point point' : Point} (draw : Draw)
    (fresh : hashedBytes draw.secret ∉ issued.map hashedBytes)
    (stepped : step truncatingEnvironment 1000 draw db point = (db', point')) :
    (system truncatingEnvironment).moves ⟨db, issued⟩ point ⟨db',
      issuedAfter draw issued point⟩ point' :=
  ⟨1000, draw, fresh, stepped, rfl⟩

abbrev careful : System Shared Point := (system truncatingEnvironment).restrict Deletes

theorem careful_of_step {db db' : Db} {issued : List String} {point point' : Point} (draw : Draw)
    (fresh : hashedBytes draw.secret ∉ issued.map hashedBytes)
    (stepped : step truncatingEnvironment 1000 draw db point = (db', point'))
    (present : ∀ secret token user, point = .dropUsed secret token user → token ∈ db.refreshTokens) :
    careful.moves ⟨db, issued⟩ point ⟨db', issuedAfter draw issued point⟩ point' :=
  ⟨present, moves_of_step draw fresh stepped⟩

abbrev first : String := (drawn 1).secret

theorem second_fresh : hashedBytes (drawn 2).secret ∉ [first].map hashedBytes := by decide

theorem third_fresh :
    hashedBytes (drawn 3).secret ∉ [(drawn 2).secret, first].map hashedBytes := by decide

def answer (used : Option String) (digit : BitVec 8) : Point :=
  .answered used (.ok (some (tokenResponse truncatingEnvironment (drawn digit) ann)))

/-- Ann logs in. -/
theorem solo_login : System.Solo careful (⟨annsDb .empty, []⟩, .findUser ⟨"ann@acme.io", "pass"⟩)
    (⟨annsDb (stored 1), [first]⟩, answer none 1) := by
  have found : step truncatingEnvironment 1000 (drawn 1) (annsDb .empty)
    (.findUser ⟨"ann@acme.io", "pass"⟩) =
      (annsDb .empty, .saveToken none ann) := by rfl
  have saved : step truncatingEnvironment 1000 (drawn 1) (annsDb .empty) (.saveToken none ann) =
      (annsDb (stored 1), answer none 1) := by
    have inserted : (annsDb .empty).insertRefreshToken
      (createToken truncatingEnvironment (drawn 1) ann) =
        some (annsDb (stored 1)) := save_first 1
    simp only [step, inserted, answer]
  apply System.Solo.head (careful_of_step (drawn 1) List.not_mem_nil found (by simp))
  exact System.Solo.head (careful_of_step (drawn 1) List.not_mem_nil saved (by simp)) .refl

/-- A refresh that presents her token comes to the point where it deletes the row. -/
theorem solo_find : System.Solo careful (⟨annsDb (stored 1), [first]⟩, .findTokens (annsText 1))
    (⟨annsDb (stored 1), [first]⟩, .dropUsed first (annsToken 1) ann) := by
  have lasting : ¬ (annsToken 1).expiresAt < 1000 := by decide
  have found : step truncatingEnvironment 1000 (drawn 2) (annsDb (stored 1))
    (.findTokens (annsText 1)) =
      (annsDb (stored 1), .findOwner first (annsToken 1)) := by
    simp only [step, find_stored, if_neg lasting]
  have owned : activeOwner (annsDb (stored 1)) (annsToken 1) = some ann := by rfl
  have checked : step truncatingEnvironment 1000 (drawn 2) (annsDb (stored 1))
    (.findOwner first (annsToken 1)) =
      (annsDb (stored 1), .dropUsed first (annsToken 1) ann) := by
    simp only [step, owned]
  apply System.Solo.head (careful_of_step (drawn 2) second_fresh found (by simp))
  exact System.Solo.head (careful_of_step (drawn 2) second_fresh checked (by simp)) .refl

/-- One of two refreshes that stand there exchanges the token. -/
theorem solo_exchange : System.Solo careful
    (⟨annsDb (stored 1), [first]⟩, .dropUsed first (annsToken 1) ann)
    (⟨annsDb (stored 2), [(drawn 2).secret, first]⟩, answer (some first) 2) := by
  have present : ∀ secret token user,
    Point.dropUsed first (annsToken 1) ann = .dropUsed secret token user →
      token ∈ (annsDb (stored 1)).refreshTokens := by
    intro secret token user same
    cases same
    exact List.mem_singleton.mpr rfl
  have deleted : step truncatingEnvironment 1000 (drawn 2) (annsDb (stored 1))
    (.dropUsed first (annsToken 1) ann) =
      (annsDb .empty, .saveToken (some first) ann) := by
    simp only [step, delete_stored]
  have saved : step truncatingEnvironment 1000 (drawn 2) (annsDb .empty) (.saveToken (some first) ann) =
      (annsDb (stored 2), answer (some first) 2) := by
    have inserted : (annsDb .empty).insertRefreshToken
      (createToken truncatingEnvironment (drawn 2) ann) =
        some (annsDb (stored 2)) := save_first 2
    simp only [step, inserted, answer]
  apply System.Solo.head (careful_of_step (drawn 2) second_fresh deleted present)
  exact System.Solo.head (careful_of_step (drawn 2) second_fresh saved (by simp)) .refl

/-- The other one does so again. -/
theorem solo_replay : ∃ shared, System.Solo (system truncatingEnvironment)
    (⟨annsDb (stored 2), [(drawn 2).secret, first]⟩, .dropUsed first (annsToken 1) ann) (shared,
      answer (some first) 3) := by
  have differ : (annsToken 2).id ≠ (annsToken 1).id := by decide
  have deleted : step truncatingEnvironment 1000 (drawn 3) (annsDb (stored 2))
    (.dropUsed first (annsToken 1) ann) =
      (annsDb (stored 2), .saveToken (some first) ann) := by
    simp only [step, delete_other differ]
  have fresh : (annsToken 2).id ≠ (annsToken 3).id := by decide
  obtain ⟨tokens, added⟩ := save_again fresh
  have inserted : (annsDb (stored 2)).insertRefreshToken
    (createToken truncatingEnvironment (drawn 3) ann) =
      some (annsDb tokens) := added
  have saved : step truncatingEnvironment 1000 (drawn 3) (annsDb (stored 2))
    (.saveToken (some first) ann) =
      (annsDb tokens, answer (some first) 3) := by
    simp only [step, inserted, answer]
  refine ⟨⟨annsDb tokens, [(drawn 3).secret, (drawn 2).secret, first]⟩, ?_⟩
  apply System.Solo.head (moves_of_step (drawn 3) third_fresh deleted)
  exact System.Solo.head (moves_of_step (drawn 3) third_fresh saved) .refl

theorem reaches_found : careful.Reaches ⟨⟨annsDb .empty, []⟩, []⟩
    ⟨⟨annsDb (stored 1), [first]⟩, [answer none 1, .dropUsed first (annsToken 1) ann]⟩ := by
  have issued : careful.Reaches ⟨⟨annsDb .empty, []⟩, []⟩ ⟨⟨annsDb (stored 1), [first]⟩,
    [answer none 1]⟩ :=
    System.reaches_spawn (Starts.login _) solo_login
  exact issued.trans (System.reaches_spawn (Starts.refresh _) solo_find)

end Replay

/-- Two refreshes find the token before either deletes it, and both exchange it. -/
theorem exchanged_twice : ¬ ∀ env : Environment, Truncates env → ∀ db : Db, db.refreshTokens = .empty →
    ∀ state, (system env).Reaches ⟨⟨db, []⟩, []⟩ state → (state.procs.filterMap exchanged).Nodup := by
  intro claimed
  obtain ⟨shared, replayed⟩ := solo_replay
  have waiting : careful.Reaches ⟨⟨annsDb .empty, []⟩, []⟩ ⟨⟨annsDb (stored 1), [first]⟩,
      [answer none 1, .dropUsed first (annsToken 1) ann, .dropUsed first (annsToken 1) ann]⟩ :=
    reaches_found.trans (System.reaches_spawn (Starts.refresh _) solo_find)
  have used := System.reaches_solo solo_exchange [answer none 1] [.dropUsed first (annsToken 1) ann]
  have again := System.reaches_solo replayed [answer none 1, answer (some first) 2] []
  have run := (System.reaches_of_restrict (waiting.trans used)).trans again
  have once := claimed truncatingEnvironment truncatingEnvironment_truncates (annsDb .empty) rfl _ run
  exact absurd once (by simp [List.filterMap_cons, exchanged, answer])

theorem miss_stored : findValidToken truncatingEnvironment (annsText 1) (annsDb (stored 2)) =
    .error (.unauthorized "Invalid refresh token") := by
  refine (accounted_stored 2).misses truncatingEnvironment_readsBack ?_ ann.id
  intro row member stands
  rw [List.mem_singleton.mp member] at stands
  have opens : StandsFor truncatingEnvironment hashedBytes (annsToken 2) (drawn 2).secret :=
    createToken_standsFor truncatingEnvironment_truncates (drawn 2) ann
  exact absurd (stands.eq opens) (by decide)

/-- A refresh that looks for the token after it has been exchanged. -/
theorem solo_refused :
    System.Solo careful (⟨annsDb (stored 2), [(drawn 2).secret, first]⟩, .findTokens (annsText 1))
    (⟨annsDb (stored 2), [(drawn 2).secret, first]⟩,
      .refused (.unauthorized "Invalid refresh token")) := by
  have missed : step truncatingEnvironment 1000 (drawn 3) (annsDb (stored 2))
    (.findTokens (annsText 1)) =
      (annsDb (stored 2), .refused (.unauthorized "Invalid refresh token")) := by
    simp only [step, miss_stored]
  exact System.Solo.head (careful_of_step (drawn 3) third_fresh missed (by simp)) .refl

/-- Of two refreshes with one token, the one that looks for it first exchanges it. -/
theorem exchanged_once_contested :
    careful.Reaches ⟨⟨annsDb .empty, []⟩, []⟩ ⟨⟨annsDb (stored 2), [(drawn 2).secret, first]⟩,
        [answer none 1, answer (some first) 2, .refused (.unauthorized "Invalid refresh token")]⟩ ∧
      (([answer none 1, answer (some first) 2,
        .refused (.unauthorized "Invalid refresh token")].filterMap exchanged).map
        hashedBytes).Nodup := by
  have presented : careful.Reaches ⟨⟨annsDb (stored 1), [first]⟩,
    [answer none 1, .dropUsed first (annsToken 1) ann]⟩
      ⟨⟨annsDb (stored 1), [first]⟩,
        [answer none 1, .dropUsed first (annsToken 1) ann, .findTokens (annsText 1)]⟩ :=
    System.reaches_spawn (Starts.refresh _) .refl
  have used := System.reaches_solo solo_exchange [answer none 1] [.findTokens (annsText 1)]
  have refused := System.reaches_solo solo_refused [answer none 1, answer (some first) 2] []
  have run := ((reaches_found.trans presented).trans used).trans refused
  exact ⟨run, exchanged_once truncatingEnvironment_truncates rfl run⟩

end GenericIam.SingleUse
