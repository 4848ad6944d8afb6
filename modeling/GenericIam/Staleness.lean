import GenericIam.AuthorizationCheck
import GenericIam.ExpiringStore
import GenericIam.Interleaving

/-! How old the answer of a check can be. Nothing invalidates the cache here: events may
all be lost, and assignments expire without one. What is left is the lifetime of the
entries, and a decision is stored after it was computed from entries that may themselves
be close to their end. -/

namespace GenericIam.Staleness
open Table Database PermissionMatcher EffectivePermissions
open Identifiers CacheKeys AuthorizationCheck Interleaving

/-! The calls over a cache whose entries expire. -/

section Calls
variable {Id Key : Type} [Identifier Id] [DecidableEq Key]

def evaluate (keys : KeyScheme Id Key) (db : Db) (now : Nat) (cache : Cache Key) :
    Point Id → Point Id × Cache Key
  | .readRoles dto =>
    (.writePerms dto (effectiveCodes db now (value dto.userId) (value dto.tenantId)), cache)
  | point => step keys db now cache point

def decisionTtl : Nat := 300 * 1000

def stored (keys : KeyScheme Id Key) (ttlMs : Nat) : Point Id → Option (Key × CacheValue × Nat)
  | .writePerms dto effectiveSet =>
    some (keys.perms dto.tenantId dto.userId, .codes effectiveSet, ttlMs)
  | .writeAcl _ tenantId dto allowed => some (keys.acl tenantId dto, .decision allowed, decisionTtl)
  | .writeAuthz dto allowed _ => some (keys.authz dto, .decision allowed, decisionTtl)
  | _ => none

def store (keys : KeyScheme Id Key) (ttlMs : Nat) (now : Nat) (cache : ExpiringStore Key CacheValue)
    (point : Point Id) :
    ExpiringStore Key CacheValue :=
  match stored keys ttlMs point with
  | some (key, cached, lifetime) => cache.putFor key cached now lifetime
  | none => cache

end Calls

/-! Runs in which time passes. -/

structure World where
  now : Nat
  db : Db
  past : Nat → Db → Prop
  cache : ExpiringStore CacheKey CacheValue

def World.start (now : Nat) (db : Db) : World :=
  ⟨now, db, fun instant state => instant = now ∧ state = db, Store.empty⟩

def World.wait (world : World) (now : Nat) : World :=
  { world with
    now
    past := fun instant db =>
      world.past instant db ∨ (world.now ≤ instant ∧ instant ≤ now ∧ db = world.db) }

def World.change (world : World) (db : Db) : World :=
  { world with db, past := fun instant state => world.past instant state ∨
    (instant = world.now ∧ state = db) }

structure Running where
  call : Call Uuid
  started : Nat
  moved : Nat
  point : Point Uuid

/-- Calls start at any time and no call runs for more than `longest`. Between their steps
time passes, the database becomes any other, and entries are deleted. -/
def timed (ttlMs longest : Nat) : System World Running where
  spawns world proc := proc.started = world.now ∧ proc.moved = world.now ∧ proc.point = proc.call.start
  moves world proc world' proc' :=
    (∀ result, proc.point ≠ .done result) ∧ world.now ≤ proc.started + longest ∧
      proc' = { proc with
        moved := world.now
        point := (evaluate tupleKeys world.db world.now (world.cache.live world.now) proc.point).1 } ∧
      world' = { world with cache := store tupleKeys ttlMs world.now world.cache proc.point }
  disturbs world world' :=
    (∃ now, world.now ≤ now ∧ world' = world.wait now) ∨ (∃ db, world' = world.change db) ∨
      ∃ gone, world' = { world with cache := world.cache.removeWhere gone }

def initial (now : Nat) (db : Db) : State World Running := ⟨World.start now db, []⟩

/-- The decision taken from a permission set of one instant and the access list of another. -/
def composed (permsDb : Db) (permsAt : Nat) (aclDb : Db) (dto : CheckAuthzDto Uuid) : Bool :=
  hasPermission (effectiveCodes permsDb permsAt dto.userId dto.tenantId) dto.permission ||
    match dto.resource with
    | some resource => aclExists aclDb dto.tenantId (aclDto dto resource)
    | none => false

theorem composed_self (db : Db) (now : Nat) (dto : CheckAuthzDto Uuid) :
    composed db now db dto = decision db now dto := rfl

/-- Every answer is the decision that some state of the database in the last `age`
milliseconds gives. -/
def FreshWithin (ttlMs longest age : Nat) : Prop :=
  ∀ now db state, (timed ttlMs longest).Reaches (initial now db) state →
    ∀ proc ∈ state.procs, ∀ dto result, proc.call = .authz dto → proc.point = .done result →
      ∃ instant past, state.shared.past instant past ∧ instant ≤ proc.moved ∧
        proc.moved ≤ instant + age ∧
        result.allowed = decision past instant dto

/-! Where the values come from. -/

def Decided (past : Nat → Db → Prop) (since : Nat) (dto : CheckAuthzDto Uuid) (allowed : Bool) : Prop :=
  ∃ permsAt permsDb aclAt aclDb, (past permsAt permsDb ∧ since ≤ permsAt) ∧
    (past aclAt aclDb ∧ since ≤ aclAt) ∧
    allowed = composed permsDb permsAt aclDb dto

def CodesOf (past : Nat → Db → Prop) (since : Nat) (tenantId userId : Uuid)
    (effectiveSet : List String) : Prop :=
  ∃ instant db, (past instant db ∧ since ≤ instant) ∧
    effectiveSet = effectiveCodes db instant userId tenantId

def Listed (past : Nat → Db → Prop) (since : Nat) (tenantId : Uuid) (dto : CheckAclDto Uuid)
    (allowed : Bool) : Prop :=
  ∃ instant db, (past instant db ∧ since ≤ instant) ∧ allowed = aclExists db tenantId dto

def Sourced (past : Nat → Db → Prop) (since : Nat) : CacheKey → CacheValue → Prop
  | .perms tenantId userId, cached =>
    ∃ effectiveSet, cached = .codes effectiveSet ∧ CodesOf past since tenantId userId effectiveSet
  | .acl tenantId userId resourceType resourceId permission, cached =>
      ∃ allowed, cached = .decision allowed ∧
        Listed past since tenantId ⟨userId, resourceType, resourceId, permission⟩ allowed
  | .authz tenantId userId permission resourceType resourceId, cached =>
      ∃ allowed, cached = .decision allowed ∧
        Decided past since ⟨userId, tenantId, permission, resourceType, resourceId⟩ allowed

section Sources
variable {past later : Nat → Db → Prop} {since before : Nat}

theorem Decided.mono {dto : CheckAuthzDto Uuid} {allowed : Bool}
    (decided : Decided past since dto allowed)
    (weaker : ∀ instant db, past instant db → later instant db) (earlier : before ≤ since) :
    Decided later before dto allowed := by
  obtain ⟨permsAt, permsDb, aclAt, aclDb, perms, acl, same⟩ := decided
  exact ⟨permsAt, permsDb, aclAt, aclDb, ⟨weaker _ _ perms.1, earlier.trans perms.2⟩,
    ⟨weaker _ _ acl.1, earlier.trans acl.2⟩, same⟩

theorem CodesOf.mono {tenantId userId : Uuid} {effectiveSet : List String}
    (codes : CodesOf past since tenantId userId effectiveSet)
    (weaker : ∀ instant db, past instant db → later instant db) (earlier : before ≤ since) :
    CodesOf later before tenantId userId effectiveSet := by
  obtain ⟨instant, db, seen, same⟩ := codes
  exact ⟨instant, db, ⟨weaker _ _ seen.1, earlier.trans seen.2⟩, same⟩

theorem Listed.mono {tenantId : Uuid} {dto : CheckAclDto Uuid} {allowed : Bool}
    (listed : Listed past since tenantId dto allowed)
    (weaker : ∀ instant db, past instant db → later instant db) (earlier : before ≤ since) :
    Listed later before tenantId dto allowed := by
  obtain ⟨instant, db, seen, same⟩ := listed
  exact ⟨instant, db, ⟨weaker _ _ seen.1, earlier.trans seen.2⟩, same⟩

theorem Sourced.mono {key : CacheKey} {cached : CacheValue} (sourced : Sourced past since key cached)
    (weaker : ∀ instant db, past instant db → later instant db) : Sourced later since key cached := by
  cases key with
  | perms tenantId userId =>
    obtain ⟨effectiveSet, same, codes⟩ := sourced
    exact ⟨effectiveSet, same, codes.mono weaker le_rfl⟩
  | acl tenantId userId resourceType resourceId permission =>
    obtain ⟨allowed, same, listed⟩ := sourced
    exact ⟨allowed, same, listed.mono weaker le_rfl⟩
  | authz tenantId userId permission resourceType resourceId =>
    obtain ⟨allowed, same, decided⟩ := sourced
    exact ⟨allowed, same, decided.mono weaker le_rfl⟩

theorem truthy_truthy (field : Option String) : truthy (truthy field) = truthy field := by
  cases field with
  | none => rfl
  | some text =>
    by_cases empty : text = ""
    · simp [truthy, Option.filter, empty]
    · rw [truthy_some empty, truthy_some empty]

/-- A key keeps what its check decides on: the fields that are falsy are all alike. -/
theorem decided_authz {dto : CheckAuthzDto Uuid} {cached : CacheValue} :
    Sourced past since (tupleKeys.authz dto) cached ↔ ∃ allowed, cached = .decision allowed ∧
      Decided past since dto allowed := by
  have same : ∀ permsDb permsAt aclDb, composed permsDb permsAt aclDb
      ⟨dto.userId, dto.tenantId, dto.permission, truthy dto.resourceType, truthy dto.resourceId⟩ =
          composed permsDb permsAt aclDb dto := by
    intro permsDb permsAt aclDb
    simp only [composed, CheckAuthzDto.resource, truthy_truthy, aclDto]
  simp only [tupleKeys, Sourced, Decided, same]

end Sources

/-! How far back they go. -/

/-- From the start of a call to the instant that what it read from one layer of the
cache goes back to. -/
def reach (ttlMs longest : Nat) : Nat := longest + max ttlMs decisionTtl

/-- From the instant of an answer: a decision was stored by a call that read one layer. -/
def oldest (ttlMs longest : Nat) : Nat := reach ttlMs longest + longest + decisionTtl

def age (ttlMs longest : Nat) : CacheKey → Nat
  | .perms _ _ => longest + ttlMs
  | .acl _ _ _ _ _ => longest + decisionTtl
  | .authz _ _ _ _ _ => oldest ttlMs longest

/-- The lookup that a call has reached is its own, and a past permission set refused it. -/
def Awaits (past : Nat → Db → Prop) (since : Nat) (call : Call Uuid)
    (caller : Option (CheckAuthzDto Uuid)) (tenantId : Uuid) (dto : CheckAclDto Uuid) : Prop :=
  match caller with
  | none => call = .acl tenantId dto
  | some asker => call = .authz asker ∧
      (∃ effectiveSet, CodesOf past since asker.tenantId asker.userId effectiveSet ∧
        hasPermission effectiveSet asker.permission = false) ∧
        ∃ resource, asker.resource = some resource ∧ tenantId = asker.tenantId ∧
          dto = aclDto asker resource

def Answered (past : Nat → Db → Prop) (since : Nat) (call : Call Uuid) (allowed : Bool) : Prop :=
  match call with
  | .authz dto => Decided past since dto allowed
  | .acl tenantId dto => Listed past since tenantId dto allowed

/-- What a call carries goes back no further than the layer of the cache that it has read. -/
def Carries (ttlMs longest : Nat) (past : Nat → Db → Prop) (call : Call Uuid)
    (started moved : Nat) : Point Uuid → Prop
  | .readAuthz dto | .readPerms dto | .readRoles dto => call = .authz dto
  | .readRolePermissions _ _ | .readOverrides _ _ => False
  | .writePerms dto effectiveSet =>
    call = .authz dto ∧ CodesOf past started dto.tenantId dto.userId effectiveSet
  | .readAcl caller tenantId dto | .countAcl caller tenantId dto =>
      ∃ since, started ≤ since + reach ttlMs longest ∧ Awaits past since call caller tenantId dto
  | .writeAcl caller tenantId dto allowed =>
      (∃ since, started ≤ since + reach ttlMs longest ∧ Awaits past since call caller tenantId dto) ∧
        Listed past started tenantId dto allowed
  | .writeAuthz dto allowed _ =>
      call = .authz dto ∧ ∃ since, started ≤ since + reach ttlMs longest ∧
        Decided past since dto allowed
  | .done result => ∃ since, moved ≤ since + oldest ttlMs longest ∧
      Answered (fun instant db => past instant db ∧ instant ≤ moved) since call result.allowed

/-- The instants of the past are over, the present is one of them, and no entry is older
than its layer allows. -/
structure Recorded (ttlMs longest : Nat) (world : World) : Prop where
  passed : ∀ instant db, world.past instant db → instant ≤ world.now
  present : world.past world.now world.db
  aged : world.cache.Aged (Sourced world.past) (age ttlMs longest)

section Steps
variable {ttlMs longest : Nat} {past later : Nat → Db → Prop} {call : Call Uuid} {started moved : Nat}

theorem Awaits.mono {since before : Nat} {caller : Option (CheckAuthzDto Uuid)} {tenantId : Uuid}
    {dto : CheckAclDto Uuid} (awaits : Awaits past since call caller tenantId dto)
    (weaker : ∀ instant db, past instant db → later instant db) (earlier : before ≤ since) :
    Awaits later before call caller tenantId dto := by
  cases caller with
  | none => exact awaits
  | some asker =>
    obtain ⟨asks, ⟨effectiveSet, codes, refused⟩, own⟩ := awaits
    exact ⟨asks, ⟨effectiveSet, codes.mono weaker earlier, refused⟩, own⟩

theorem Answered.mono {since : Nat} {allowed : Bool} (answered : Answered past since call allowed)
    (weaker : ∀ instant db, past instant db → later instant db) :
    Answered later since call allowed := by
  cases call with
  | authz dto => exact Decided.mono answered weaker le_rfl
  | acl tenantId dto => exact Listed.mono answered weaker le_rfl

theorem Carries.mono {point : Point Uuid}
    (carries : Carries ttlMs longest past call started moved point)
    (weaker : ∀ instant db, past instant db → later instant db) :
    Carries ttlMs longest later call started moved point := by
  cases point with
  | readAuthz dto => exact carries
  | readPerms dto => exact carries
  | readRoles dto => exact carries
  | readRolePermissions dto roleIds => exact carries
  | readOverrides dto rolePermissions => exact carries
  | writePerms dto effectiveSet => exact ⟨carries.1, carries.2.mono weaker le_rfl⟩
  | readAcl caller tenantId dto =>
    obtain ⟨since, bound, awaits⟩ := carries
    exact ⟨since, bound, awaits.mono weaker le_rfl⟩
  | countAcl caller tenantId dto =>
    obtain ⟨since, bound, awaits⟩ := carries
    exact ⟨since, bound, awaits.mono weaker le_rfl⟩
  | writeAcl caller tenantId dto allowed =>
    obtain ⟨⟨since, bound, awaits⟩, listed⟩ := carries
    exact ⟨⟨since, bound, awaits.mono weaker le_rfl⟩, listed.mono weaker le_rfl⟩
  | writeAuthz dto allowed source =>
    obtain ⟨asks, since, bound, decided⟩ := carries
    exact ⟨asks, since, bound, decided.mono weaker le_rfl⟩
  | done result =>
    obtain ⟨since, bound, answered⟩ := carries
    exact ⟨since, bound, answered.mono fun instant db seen => ⟨weaker instant db seen.1, seen.2⟩⟩

theorem afterPermissions_carries {dto : CheckAuthzDto Uuid} {effectiveSet : List String}
    {since now : Nat} {db : Db} (asks : call = .authz dto)
    (bound : started ≤ since + reach ttlMs longest)
    (codes : CodesOf past since dto.tenantId dto.userId effectiveSet) (present : past now db)
    (recent : since ≤ now) :
    Carries ttlMs longest past call started moved (afterPermissions dto effectiveSet) := by
  obtain ⟨instant, permsDb, seen, same⟩ := codes
  unfold afterPermissions
  split
  next granted =>
    refine ⟨asks, since, bound, instant, permsDb, now, db, seen, ⟨present, recent⟩, ?_⟩
    simp [composed, ← same, granted]
  next refused =>
    rw [Bool.not_eq_true] at refused
    cases asked : dto.resource with
    | none =>
      refine ⟨asks, since, bound, instant, permsDb, now, db, seen, ⟨present, recent⟩, ?_⟩
      simp [composed, ← same, refused, asked]
    | some resource =>
      exact ⟨since, bound, asks, ⟨effectiveSet, ⟨instant, permsDb, seen, same⟩, refused⟩,
        resource, asked, rfl, rfl⟩

/-- An answer about the access list that goes back as far as the list's layer allows. -/
theorem afterAcl_carries {caller : Option (CheckAuthzDto Uuid)} {tenantId : Uuid}
    {dto : CheckAclDto Uuid} {result : CheckResult} {since listedSince : Nat}
    (bound : started ≤ since + reach ttlMs longest)
    (awaits : Awaits past since call caller tenantId dto)
    (passed : ∀ instant db, past instant db → instant ≤ moved)
    (listedBound : moved ≤ listedSince + reach ttlMs longest) (order : started ≤ moved)
    (listed : Listed past listedSince tenantId dto result.allowed) :
    Carries ttlMs longest past call started moved (afterAcl caller result) := by
  cases caller with
  | none =>
    simp only [Awaits] at awaits
    subst awaits
    refine ⟨listedSince, ?_, listed.mono (fun instant db seen => ⟨seen, passed instant db seen⟩) le_rfl⟩
    unfold oldest
    omega
  | some asker =>
    obtain ⟨asks, ⟨effectiveSet, ⟨permsAt, permsDb, permsSeen, codes⟩, refused⟩, resource, asked,
      rfl, rfl⟩ := awaits
    obtain ⟨aclAt, aclDb, aclSeen, same⟩ := listed
    have lower : started ≤ min since listedSince + reach ttlMs longest := by omega
    refine ⟨asks, min since listedSince, lower, permsAt, permsDb, aclAt, aclDb, ⟨permsSeen.1, ?_⟩,
      ⟨aclSeen.1, ?_⟩, ?_⟩
    · exact (min_le_left _ _).trans permsSeen.2
    · exact (min_le_right _ _).trans aclSeen.2
    · simp [composed, ← codes, refused, asked, same]

end Steps

section Run
variable {ttlMs longest : Nat} {world : World} {call : Call Uuid} {started moved : Nat}
  {point : Point Uuid}

theorem Recorded.held (recorded : Recorded ttlMs longest world) {key : CacheKey} {cached : CacheValue}
    (held : world.cache.live world.now key = some cached) :
    ∃ since, Sourced world.past since key cached ∧ world.now ≤ since + age ttlMs longest key :=
  recorded.aged.read held

/-- What a step stores was taken from sources that are young enough for its layer. -/
theorem store_aged (recorded : Recorded ttlMs longest world) (going : world.now ≤ started + longest)
    (carries : Carries ttlMs longest world.past call started moved point) :
    (store tupleKeys ttlMs world.now world.cache point).Aged (Sourced world.past)
      (age ttlMs longest) := by
  cases point with
  | writePerms dto effectiveSet =>
    have sourced : Sourced world.past started (tupleKeys.perms dto.tenantId dto.userId)
      (.codes effectiveSet) :=
      ⟨effectiveSet, rfl, carries.2⟩
    refine recorded.aged.putFor sourced ?_
    simp only [tupleKeys, age]
    omega
  | writeAcl caller tenantId dto allowed =>
    have sourced : Sourced world.past started (tupleKeys.acl tenantId dto) (.decision allowed) :=
      ⟨allowed, rfl, carries.2⟩
    refine recorded.aged.putFor sourced ?_
    simp only [tupleKeys, age]
    omega
  | writeAuthz dto allowed source =>
    obtain ⟨asks, since, bound, decided⟩ := carries
    have sourced : Sourced world.past since (tupleKeys.authz dto) (.decision allowed) :=
      decided_authz.mpr ⟨allowed, rfl, decided⟩
    refine recorded.aged.putFor sourced ?_
    simp only [tupleKeys, age, oldest]
    omega
  | readAuthz dto => exact recorded.aged
  | readPerms dto => exact recorded.aged
  | readRoles dto => exact recorded.aged
  | readRolePermissions dto roleIds => exact recorded.aged
  | readOverrides dto rolePermissions => exact recorded.aged
  | readAcl caller tenantId dto => exact recorded.aged
  | countAcl caller tenantId dto => exact recorded.aged
  | done result => exact recorded.aged

/-- A step takes over what its layer of the cache holds or reads the present database. -/
theorem evaluate_carries (recorded : Recorded ttlMs longest world) (begun : started ≤ world.now)
    (going : world.now ≤ started + longest) (unfinished : ∀ result, point ≠ .done result)
    (carries : Carries ttlMs longest world.past call started moved point) :
    Carries ttlMs longest world.past call started world.now
      (evaluate tupleKeys world.db world.now (world.cache.live world.now) point).1 := by
  have now_seen : ∀ instant db, world.past instant db → world.past instant db ∧ instant ≤ world.now :=
    fun instant db seen => ⟨seen, recorded.passed instant db seen⟩
  cases point with
  | readAuthz dto =>
    simp only [Carries] at carries
    subst carries
    simp only [evaluate, step]
    cases held : world.cache.live world.now (tupleKeys.authz dto) with
    | none => rfl
    | some cached =>
      obtain ⟨since, sourced, bound⟩ := recorded.held held
      obtain ⟨allowed, same, decided⟩ := decided_authz.mp sourced
      subst same
      exact ⟨since, bound, decided.mono now_seen le_rfl⟩
  | readPerms dto =>
    simp only [evaluate, step]
    cases found : getPermissions tupleKeys (world.cache.live world.now) dto.tenantId dto.userId with
    | none => exact carries
    | some effectiveSet =>
      obtain ⟨cached, held, codes⟩ := Option.bind_eq_some_iff.mp found
      obtain ⟨since, ⟨stored, same, sourced⟩, bound⟩ := recorded.held held
      subst same
      cases codes
      have recent : min since started ≤ world.now := (min_le_right _ _).trans begun
      have lower : started ≤ min since started + reach ttlMs longest := by
        simp only [tupleKeys, age, reach] at bound ⊢
        omega
      exact afterPermissions_carries carries lower
        (sourced.mono (fun _ _ seen => seen) (min_le_left _ _)) recorded.present recent
  | readRoles dto => exact ⟨carries, world.now, world.db, ⟨recorded.present, begun⟩, rfl⟩
  | readRolePermissions dto roleIds => exact carries.elim
  | readOverrides dto rolePermissions => exact carries.elim
  | writePerms dto effectiveSet =>
    exact afterPermissions_carries carries.1 (Nat.le_add_right _ _) carries.2 recorded.present begun
  | readAcl caller tenantId dto =>
    obtain ⟨since, bound, awaits⟩ := carries
    simp only [evaluate, step]
    cases held : world.cache.live world.now (tupleKeys.acl tenantId dto) with
    | none => exact ⟨since, bound, awaits⟩
    | some cached =>
      obtain ⟨listedSince, ⟨allowed, same, listed⟩, listedBound⟩ := recorded.held held
      subst same
      have within : world.now ≤ listedSince + reach ttlMs longest := by
        simp only [tupleKeys, age, reach] at listedBound ⊢
        omega
      exact afterAcl_carries bound awaits recorded.passed within begun listed
  | countAcl caller tenantId dto =>
    obtain ⟨since, bound, awaits⟩ := carries
    exact ⟨⟨since, bound, awaits⟩, world.now, world.db, ⟨recorded.present, begun⟩, rfl⟩
  | writeAcl caller tenantId dto allowed =>
    obtain ⟨⟨since, bound, awaits⟩, listed⟩ := carries
    have within : world.now ≤ started + reach ttlMs longest := by
      unfold reach
      omega
    exact afterAcl_carries bound awaits recorded.passed within begun listed
  | writeAuthz dto allowed source =>
    obtain ⟨asks, since, bound, decided⟩ := carries
    subst asks
    have within : world.now ≤ since + oldest ttlMs longest := by
      unfold oldest
      omega
    exact ⟨since, within, decided.mono now_seen le_rfl⟩
  | done result => exact absurd rfl (unfinished result)

theorem wait_recorded (recorded : Recorded ttlMs longest world) {now : Nat} (later : world.now ≤ now) :
    Recorded ttlMs longest (world.wait now) where
  passed instant db seen := by
    rcases seen with before | now
    · exact (recorded.passed instant db before).trans later
    · exact now.2.1
  present := .inr ⟨later, le_rfl, rfl⟩
  aged := recorded.aged.mono fun _ _ _ sourced => sourced.mono fun _ _ seen => .inl seen

theorem change_recorded (recorded : Recorded ttlMs longest world) (db : Db) :
    Recorded ttlMs longest (world.change db) where
  passed instant state seen := by
    rcases seen with before | now
    · exact recorded.passed instant state before
    · exact now.1.le
  present := .inr ⟨rfl, rfl⟩
  aged := recorded.aged.mono fun _ _ _ sourced => sourced.mono fun _ _ seen => .inl seen

def Underway (ttlMs longest : Nat) (world : World) (proc : Running) : Prop :=
  proc.started ≤ world.now ∧
    Carries ttlMs longest world.past proc.call proc.started proc.moved proc.point

theorem start_carries (past : Nat → Db → Prop) (call : Call Uuid) (now : Nat) :
    Carries ttlMs longest past call now now call.start := by
  cases call with
  | authz dto => rfl
  | acl tenantId dto => exact ⟨now, Nat.le_add_right _ _, rfl⟩

theorem timed_outline (ttlMs longest : Nat) :
    (timed ttlMs longest).Outline (Recorded ttlMs longest) (Underway ttlMs longest) where
  spawn := by
    intro world proc recorded new
    obtain ⟨begun, fresh, begins⟩ := new
    unfold Underway
    rw [begun, fresh, begins]
    exact ⟨le_rfl, start_carries _ _ _⟩
  advance := by
    intro world proc world' proc' recorded underway moves
    obtain ⟨unfinished, going, rfl, rfl⟩ := moves
    obtain ⟨begun, carries⟩ := underway
    have aged := store_aged recorded going carries
    exact ⟨⟨recorded.passed, recorded.present, aged⟩, begun,
      evaluate_carries recorded begun going unfinished carries⟩
  stable := by
    intro world proc world' proc' other _ _ underway moves
    obtain ⟨_, _, _, rfl⟩ := moves
    exact underway
  disturb := by
    intro world world' recorded disturbs
    rcases disturbs with ⟨now, later, rfl⟩ | ⟨db, rfl⟩ | ⟨gone, rfl⟩
    · exact ⟨wait_recorded recorded later, fun proc underway =>
        ⟨underway.1.trans later, underway.2.mono fun _ _ seen => .inl seen⟩⟩
    · exact ⟨change_recorded recorded db, fun proc underway =>
        ⟨underway.1, underway.2.mono fun _ _ seen => .inl seen⟩⟩
    · exact ⟨⟨recorded.passed, recorded.present, recorded.aged.removeWhere gone⟩,
        fun proc underway => underway⟩

theorem initial_recorded (now : Nat) (db : Db) : Recorded ttlMs longest (World.start now db) where
  passed _ _ seen := seen.1.le
  present := ⟨rfl, rfl⟩
  aged := ExpiringStore.aged_empty

/-- Every answer of a check is taken from the permission set of one instant and the access
list of another, neither longer ago than the lifetimes of the two layers on its way and
the time that the two calls on its way may take. -/
theorem answers_recent (ttlMs longest now : Nat) (db : Db) {state : State World Running}
    (run : (timed ttlMs longest).Reaches (initial now db) state) {proc : Running}
    (member : proc ∈ state.procs) {dto : CheckAuthzDto Uuid} {result : CheckResult}
    (asks : proc.call = .authz dto) (answered : proc.point = .done result) :
    ∃ permsAt permsDb aclAt aclDb,
      (state.shared.past permsAt permsDb ∧ permsAt ≤ proc.moved ∧
        proc.moved ≤ permsAt + (max ttlMs 300000 + 300000 + 2 * longest)) ∧
      (state.shared.past aclAt aclDb ∧ aclAt ≤ proc.moved ∧
        proc.moved ≤ aclAt + (max ttlMs 300000 + 300000 + 2 * longest)) ∧
      result.allowed = composed permsDb permsAt aclDb dto := by
  have holds := (timed_outline ttlMs longest).reaches run ⟨initial_recorded now db, by simp [initial]⟩
  obtain ⟨_, carries⟩ := holds.2 proc member
  rw [answered, asks] at carries
  obtain ⟨since, bound, permsAt, permsDb, aclAt, aclDb, perms, acl, same⟩ := carries
  have total : oldest ttlMs longest = max ttlMs 300000 + 300000 + 2 * longest := by
    simp only [oldest, reach, decisionTtl]
    omega
  rw [total] at bound
  refine ⟨permsAt, permsDb, aclAt, aclDb, ⟨perms.1.1, perms.1.2, ?_⟩, ⟨acl.1.1, acl.1.2, ?_⟩, same⟩
  · have := perms.2
    omega
  · have := acl.2
    omega

end Run

/-! Calls that take no time, and two runs of such calls. -/

section Instant
variable {ttlMs longest : Nat}

def advances (ttlMs : Nat) (db : Db) (now : Nat) :
    Nat → Point Uuid × ExpiringStore CacheKey CacheValue →
      Point Uuid × ExpiringStore CacheKey CacheValue
  | 0, state => state
  | count + 1, (point, cache) => advances ttlMs db now count
      ((evaluate tupleKeys db now (cache.live now) point).1, store tupleKeys ttlMs now cache point)

theorem advances_done (db : Db) (now count : Nat) (result : CheckResult)
    (cache : ExpiringStore CacheKey CacheValue) :
    advances ttlMs db now count (.done result, cache) = (.done result, cache) := by
  induction count with
  | zero => rfl
  | succ count ih => exact ih

def World.after (world : World) (ttlMs : Nat) (call : Call Uuid) : World :=
  { world with cache := (advances ttlMs world.db world.now 10 (call.start, world.cache)).2 }

def World.reply (world : World) (ttlMs : Nat) (call : Call Uuid) : Point Uuid :=
  (advances ttlMs world.db world.now 10 (call.start, world.cache)).1

theorem solo_advances (world : World) (call : Call Uuid) (count : Nat) (point : Point Uuid) :
    System.Solo (timed ttlMs longest) (world, ⟨call, world.now, world.now, point⟩)
      ({ world with cache := (advances ttlMs world.db world.now count (point, world.cache)).2 },
        ⟨call, world.now, world.now,
          (advances ttlMs world.db world.now count (point, world.cache)).1⟩) := by
  induction count generalizing world point with
  | zero => exact .refl
  | succ count ih =>
    by_cases finished : ∃ result, point = .done result
    · obtain ⟨result, rfl⟩ := finished
      rw [advances_done]
      exact .refl
    · rw [not_exists] at finished
      have moves : (timed ttlMs longest).moves world ⟨call, world.now, world.now, point⟩ _ _ :=
        ⟨finished, Nat.le_add_right _ _, rfl, rfl⟩
      exact System.Solo.head moves
        (ih { world with cache := store tupleKeys ttlMs world.now world.cache point } _)

theorem reaches_call (world : World) (procs : List Running) (call : Call Uuid) :
    (timed ttlMs longest).Reaches ⟨world, procs⟩
      ⟨world.after ttlMs call, procs ++ [⟨call, world.now, world.now, world.reply ttlMs call⟩]⟩ := by
  have new : (timed ttlMs longest).spawns world ⟨call, world.now, world.now, call.start⟩ :=
    ⟨rfl, rfl, rfl⟩
  exact System.reaches_spawn new (solo_advances world call 10 call.start)

theorem reaches_wait (world : World) (procs : List Running) {now : Nat} (later : world.now ≤ now) :
    (timed ttlMs longest).Reaches ⟨world, procs⟩ ⟨world.wait now, procs⟩ :=
  .single (.disturb (.inl ⟨now, later, rfl⟩))

theorem reaches_change (world : World) (procs : List Running) (db : Db) :
    (timed ttlMs longest).Reaches ⟨world, procs⟩ ⟨world.change db, procs⟩ :=
  .single (.disturb (.inr (.inl ⟨db, rfl⟩)))

end Instant

def staffed : Db where
  permissions := ⟨[⟨2, "expense.read", "expense", none, none⟩], by decide⟩
  roles := ⟨[{ id := 4, tenantId := some 7, name := "reader" }], by decide⟩
  rolePermissions := ⟨[⟨5, 4, 2⟩], by decide⟩
  userRoles := ⟨[⟨16, 7, 8, 4, none⟩], by decide⟩

def reading : Call Uuid := .authz ⟨8, 7, "expense.read", none, none⟩
def writing : Call Uuid := .authz ⟨8, 7, "expense.write", none, none⟩

/-- Another check fills the permission set, the role is taken away, and one lifetime
later the set fills a decision. -/
def layered : World :=
  ((((((World.start 0 staffed).after 300000 writing).change { staffed with userRoles := .empty }).wait
    300000).after 300000 reading).wait 600000)

theorem reaches_layered : ∃ procs, (timed 300000 0).Reaches (initial 0 staffed) ⟨layered, procs⟩ := by
  have filled := @reaches_call 300000 0 (World.start 0 staffed) [] writing
  have changed := filled.trans (reaches_change _ _ { staffed with userRoles := .empty })
  have waited := changed.trans (reaches_wait _ _ (Nat.zero_le 300000))
  have read := waited.trans (reaches_call _ _ reading)
  exact ⟨_, read.trans (reaches_wait _ _ (by decide : 300000 ≤ 600000))⟩

theorem layered_reply : layered.reply 300000 reading = .done ⟨true, "cache"⟩ := by
  decide

theorem layered_past {instant : Nat} {db : Db} (seen : layered.past instant db) :
    (instant = 0 ∧ db = staffed) ∨ db = { staffed with userRoles := .empty } := by
  simp only [layered, World.after, World.change, World.wait, World.start] at seen
  rcases seen with ((start | change) | wait) | wait
  · exact .inl start
  · exact .inr change.2
  · exact .inr wait.2.2
  · exact .inr wait.2.2

/-- The check that reads the decision is as far from the role as both lifetimes together. -/
theorem layered_answer :
    ∃ state, (timed 300000 0).Reaches (initial 0 staffed) state ∧ state.shared.past = layered.past ∧
    ⟨reading, 600000, 600000, .done ⟨true, "cache"⟩⟩ ∈ state.procs := by
  obtain ⟨procs, reached⟩ := reaches_layered
  have answered := reached.trans (reaches_call layered procs reading)
  rw [layered_reply] at answered
  exact ⟨_, answered, rfl, List.mem_append_right _ List.mem_cons_self⟩

/-- The bound is reached: an answer can be as old as both lifetimes. -/
theorem not_freshWithin {bound : Nat} (short : bound < 600000) : ¬FreshWithin 300000 0 bound := by
  intro fresh
  obtain ⟨state, reached, past, member⟩ := layered_answer
  obtain ⟨instant, db, seen, _, recent, same⟩ := fresh 0 staffed state reached _ member _ _ rfl rfl
  rw [past] at seen
  rcases layered_past seen with start | unassigned
  · have : instant = 0 := start.1
    dsimp only at recent
    omega
  · rw [unassigned] at same
    cases same

/-- A decision that outlives the permission set it was computed from. -/
theorem lifetimes_add_up : ¬FreshWithin 300000 0 300000 := not_freshWithin (by decide)

/-- The answer of that run is one of those that the bound is about. -/
theorem layered_recent : ∃ permsAt permsDb aclAt aclDb,
    (layered.past permsAt permsDb ∧ permsAt ≤ 600000 ∧
      600000 ≤ permsAt + (max 300000 300000 + 300000 + 2 * 0)) ∧
    (layered.past aclAt aclDb ∧ aclAt ≤ 600000 ∧
      600000 ≤ aclAt + (max 300000 300000 + 300000 + 2 * 0)) ∧
      true = composed permsDb permsAt aclDb ⟨8, 7, "expense.read", none, none⟩ := by
  obtain ⟨state, reached, past, member⟩ := layered_answer
  rw [← past]
  exact answers_recent 300000 0 0 staffed reached member rfl rfl

/-! The permission set of one instant with the access list of another. -/

def listed : Db where
  permissions := ⟨[⟨2, "expense.read", "expense", none, none⟩], by decide⟩
  roles := ⟨[{ id := 4, tenantId := some 7, name := "reader" }], by decide⟩
  rolePermissions := ⟨[⟨5, 4, 2⟩], by decide⟩
  resourceAcls := ⟨[⟨9, 7, 8, "expense", "1", "expense.read"⟩], by decide⟩

def readOne : CheckAuthzDto Uuid := ⟨8, 7, "expense.read", some "expense", some "1"⟩

/-- The permission set is filled before the list entry gives way to a role, the answer
about the list afterwards. -/
def mixed : World :=
  (((World.start 0 listed).after 300000 writing).change staffed).after 300000
    (.acl 7 ⟨8, "expense", "1", "expense.read"⟩)

theorem mixed_reply : mixed.reply 300000 (.authz readOne) = .done ⟨false, "none"⟩ := by
  decide

theorem mixed_past {instant : Nat} {db : Db} (seen : mixed.past instant db) :
    instant = 0 ∧ (db = listed ∨ db = staffed) := by
  simp only [mixed, World.after, World.change, World.start] at seen
  rcases seen with start | change
  · exact ⟨start.1, .inl start.2⟩
  · exact ⟨change.1, .inr change.2⟩

theorem mixed_answer :
    ∃ state, (timed 300000 0).Reaches (initial 0 listed) state ∧ state.shared.past = mixed.past ∧
    ⟨.authz readOne, 0, 0, .done ⟨false, "none"⟩⟩ ∈ state.procs := by
  have filled := @reaches_call 300000 0 (World.start 0 listed) [] writing
  have changed := filled.trans (reaches_change _ _ staffed)
  have counted := changed.trans (reaches_call _ _ (.acl 7 ⟨8, "expense", "1", "expense.read"⟩))
  have answered := counted.trans (reaches_call mixed _ (.authz readOne))
  rw [mixed_reply] at answered
  exact ⟨_, answered, rfl, List.mem_append_right _ List.mem_cons_self⟩

/-- However far back one looks, one state of the database alone does not explain every answer. -/
theorem no_single_state (bound : Nat) : ¬FreshWithin 300000 0 bound := by
  intro fresh
  obtain ⟨state, reached, past, member⟩ := mixed_answer
  obtain ⟨instant, db, seen, before, _, same⟩ := fresh 0 listed state reached _ member _ _ rfl rfl
  rw [past] at seen
  have allowed : decision db instant readOne = true := by
    obtain ⟨now, first | second⟩ := mixed_past seen
    · rw [now, first]
      decide
    · rw [now, second]
      decide
  rw [allowed] at same
  cases same

end GenericIam.Staleness
