import GenericIam.AuthorizationCheck
import GenericIam.Interleaving
import Mathlib.Data.Set.Basic

/-! When the cached answers agree with the uncached ones. Calls run concurrently
over one cache; what they write for each other is right as long as no two of them
that ask for different things share a key. -/

namespace GenericIam.CacheTransparency
open Table Database PermissionMatcher EffectivePermissions
open Identifiers CacheKeys AuthorizationCheck Interleaving

variable {Id Key : Type} [Identifier Id]

def uncached (db : Db) (now : Time) : Call Id → Bool
  | .authz dto => decision db now dto
  | .acl tenantId dto => aclExists db tenantId dto

theorem run_empty [DecidableEq Key] (keys : KeyScheme Id Key) (db : Db) (now : Time) (call : Call Id) :
    (call.run keys db now Store.empty).1.allowed = uncached db now call := by
  cases call with
  | authz dto => exact check_empty keys db now dto
  | acl tenantId dto => exact aclCheck_empty keys db tenantId dto

def lookup : Call Id → Option (Id × CheckAclDto Id)
  | .authz dto => dto.resource.map fun resource => (dto.tenantId, aclDto dto resource)
  | .acl tenantId dto => some (tenantId, dto)

/-- Calls of the given kind, started at any time and each advanced step by step;
entries may expire in between. -/
def checks [DecidableEq Key] (keys : KeyScheme Id Key) (db : Db) (now : Time) (calls : Set (Call Id)) :
    System (Cache Key) (Call Id × Point Id) where
  spawns _ proc := proc.1 ∈ calls ∧ proc.2 = proc.1.start
  moves cache proc cache' proc' := proc'.1 = proc.1 ∧ step keys db now cache proc.2 = (proc'.2, cache')
  disturbs cache cache' := ∃ expired, cache' = cache.removeWhere expired

/-- Every call that has returned gave the answer it gives on an empty cache. -/
def Transparent [DecidableEq Key] (keys : KeyScheme Id Key) (db : Db) (now : Time)
    (state : State (Cache Key) (Call Id × Point Id)) : Prop :=
  ∀ call result, (call, Point.done result) ∈ state.procs →
    result.allowed = (call.run keys db now Store.empty).1.allowed

def initial : State (Cache Key) (Call Id × Point Id) := ⟨Store.empty, []⟩

/-- Calls that share a key ask the same question. -/
structure CollisionFree (keys : KeyScheme Id Key) (calls : Set (Call Id)) : Prop where
  authz : ∀ dto dto', Call.authz dto ∈ calls → Call.authz dto' ∈ calls →
    keys.authz dto = keys.authz dto' →
    dto.permission = dto'.permission ∧ dto.resource = dto'.resource
  acl : ∀ call ∈ calls, ∀ call' ∈ calls, ∀ row ∈ lookup call, ∀ row' ∈ lookup call',
    keys.acl row.1 row.2 = keys.acl row'.1 row'.2 → row = row'

structure EntryValid (keys : KeyScheme Id Key) (db : Db) (now : Time)
    (calls : Set (Call Id)) (key : Key)
    (cached : CacheValue) : Prop where
  perms : ∀ tenantId userId, key = keys.perms tenantId userId →
    cached = .codes (effectiveCodes db now (value userId) (value tenantId))
  authz : ∀ dto, Call.authz dto ∈ calls → key = keys.authz dto →
    cached = .decision (decision db now dto)
  acl : ∀ call ∈ calls, ∀ row ∈ lookup call, key = keys.acl row.1 row.2 →
    cached = .decision (aclExists db row.1 row.2)

def Awaits (db : Db) (now : Time) (call : Call Id) (caller : Option (CheckAuthzDto Id)) (tenantId : Id)
    (dto : CheckAclDto Id) : Prop :=
  match caller with
  | none => call = .acl tenantId dto
  | some asker => call = .authz asker ∧
      hasPermission (effectiveCodes db now (value asker.userId) (value asker.tenantId))
        asker.permission = false ∧
        ∃ resource, asker.resource = some resource ∧ tenantId = asker.tenantId ∧
          dto = aclDto asker resource

def PointValid (db : Db) (now : Time) (call : Call Id) : Point Id → Prop
  | .readAuthz dto | .readPerms dto | .readRoles dto => call = .authz dto
  | .readRolePermissions dto roleIds => call = .authz dto ∧
      roleIds = (getUserRoles db now (value dto.userId) (value dto.tenantId)).map (·.roleId)
  | .readOverrides dto rolePermissions => call = .authz dto ∧ rolePermissions =
      rolePermissionsOf db
        ((getUserRoles db now (value dto.userId) (value dto.tenantId)).map (·.roleId))
  | .writePerms dto effectiveSet => call = .authz dto ∧
      effectiveSet = effectiveCodes db now (value dto.userId) (value dto.tenantId)
  | .readAcl caller tenantId dto
  | .countAcl caller tenantId dto => Awaits db now call caller tenantId dto
  | .writeAcl caller tenantId dto allowed =>
      Awaits db now call caller tenantId dto ∧ allowed = aclExists db tenantId dto
  | .writeAuthz dto allowed _ => call = .authz dto ∧ allowed = decision db now dto
  | .done result => result.allowed = uncached db now call

theorem Awaits.lookup {db : Db} {now : Time} {call : Call Id} {caller : Option (CheckAuthzDto Id)}
    {tenantId : Id} {dto : CheckAclDto Id} (awaits : Awaits db now call caller tenantId dto) :
    (tenantId, dto) ∈ CacheTransparency.lookup call := by
  cases caller with
  | none =>
    simp only [Awaits] at awaits
    subst awaits
    rfl
  | some asker =>
    obtain ⟨rfl, _, resource, asked, rfl, rfl⟩ := awaits
    simp [CacheTransparency.lookup, asked]

theorem decision_of_lookup {db : Db} {now : Time} {dto : CheckAuthzDto Id}
    {resource : String × String}
    (refused : hasPermission (effectiveCodes db now (value dto.userId) (value dto.tenantId))
      dto.permission = false)
    (asked : dto.resource = some resource) :
    decision db now dto = aclExists db dto.tenantId (aclDto dto resource) := by
  simp [decision, refused, asked]

theorem afterAcl_valid {db : Db} {now : Time} {call : Call Id} {caller : Option (CheckAuthzDto Id)}
    {tenantId : Id} {dto : CheckAclDto Id} (awaits : Awaits db now call caller tenantId dto)
    (result : CheckResult) (right : result.allowed = aclExists db tenantId dto) :
    PointValid db now call (afterAcl caller result) := by
  cases caller with
  | none =>
    simp only [Awaits] at awaits
    subst awaits
    exact right
  | some asker =>
    obtain ⟨rfl, refused, resource, asked, rfl, rfl⟩ := awaits
    exact ⟨rfl, by rw [right, decision_of_lookup refused asked]⟩

theorem afterPermissions_valid {db : Db} {now : Time} (dto : CheckAuthzDto Id) :
    PointValid db now (.authz dto)
      (afterPermissions dto (effectiveCodes db now (value dto.userId) (value dto.tenantId))) := by
  unfold afterPermissions
  split
  next granted => exact ⟨rfl, by simp [decision, granted]⟩
  next refused =>
    rw [Bool.not_eq_true] at refused
    cases asked : dto.resource with
    | none => exact ⟨rfl, by simp [decision, refused, asked]⟩
    | some resource => exact ⟨rfl, refused, resource, asked, rfl, rfl⟩

section Entries
variable {keys : KeyScheme Id Key} {db : Db} {now : Time} {calls : Set (Call Id)}

theorem perms_entry (tenantId userId : Id) : EntryValid keys db now calls (keys.perms tenantId userId)
    (.codes (effectiveCodes db now (value userId) (value tenantId))) where
  perms t u same := by
    obtain ⟨rfl, rfl⟩ := keys.perms_inj same
    rfl
  authz _ _ same := absurd same keys.perms_ne_authz
  acl _ _ _ _ same := absurd same keys.perms_ne_acl

theorem acl_entry (free : CollisionFree keys calls) {call : Call Id} (asked : call ∈ calls)
    {row : Id × CheckAclDto Id} (own : row ∈ lookup call) :
    EntryValid keys db now calls (keys.acl row.1 row.2) (.decision (aclExists db row.1 row.2)) where
  perms _ _ same := absurd same.symm keys.perms_ne_acl
  authz _ _ same := absurd same.symm keys.authz_ne_acl
  acl call' asked' row' own' same := by rw [free.acl call asked call' asked' row own row' own' same]

theorem authz_entry (free : CollisionFree keys calls) {dto : CheckAuthzDto Id}
    (asked : .authz dto ∈ calls) :
    EntryValid keys db now calls (keys.authz dto) (.decision (decision db now dto)) where
  perms _ _ same := absurd same.symm keys.perms_ne_authz
  authz dto' asked' same := by
    obtain ⟨permission, resource⟩ := free.authz dto dto' asked asked' same
    obtain ⟨tenant, user⟩ := keys.authz_ids same
    simp only [decision, aclDto, permission, resource, tenant, user]
  acl _ _ _ _ same := absurd same keys.authz_ne_acl

theorem getPermissions_valid {cache : Cache Key} (valid : cache.Coherent (EntryValid keys db now calls))
    {tenantId userId : Id} {effectiveSet : List String}
    (held : getPermissions keys cache tenantId userId = some effectiveSet) :
    effectiveSet = effectiveCodes db now (value userId) (value tenantId) := by
  obtain ⟨cached, stored, codes⟩ := Option.bind_eq_some_iff.mp held
  rw [(valid _ _ stored).perms tenantId userId rfl] at codes
  cases codes
  rfl

/-- One step of a call of the set writes only entries that are right for the set
and reads only what is right for the call. -/
theorem step_valid [DecidableEq Key] (free : CollisionFree keys calls) {cache : Cache Key}
    (valid : cache.Coherent (EntryValid keys db now calls)) {call : Call Id} (asked : call ∈ calls)
    {point : Point Id} (right : PointValid db now call point) :
    (step keys db now cache point).2.Coherent (EntryValid keys db now calls) ∧
      PointValid db now call (step keys db now cache point).1 := by
  cases point with
  | readAuthz dto =>
    simp only [PointValid] at right
    subst right
    simp only [step]
    split
    next cachedDecision held =>
      rw [(valid _ _ held).authz dto asked rfl]
      exact ⟨valid, rfl⟩
    next => exact ⟨valid, rfl⟩
  | readPerms dto =>
    simp only [PointValid] at right
    subst right
    simp only [step]
    split
    next effectiveSet held =>
      rw [getPermissions_valid valid held]
      exact ⟨valid, afterPermissions_valid dto⟩
    next => exact ⟨valid, rfl⟩
  | readRoles dto => exact ⟨valid, right, rfl⟩
  | readRolePermissions dto roleIds =>
    obtain ⟨asks, rfl⟩ := right
    exact ⟨valid, asks, rfl⟩
  | readOverrides dto rolePermissions =>
    obtain ⟨asks, rfl⟩ := right
    exact ⟨valid, asks, rfl⟩
  | writePerms dto effectiveSet =>
    obtain ⟨rfl, rfl⟩ := right
    exact ⟨valid.put (perms_entry dto.tenantId dto.userId), afterPermissions_valid dto⟩
  | readAcl caller tenantId dto =>
    simp only [step]
    split
    next cached held =>
      rw [(valid _ _ held).acl call asked _ (Awaits.lookup right) rfl]
      exact ⟨valid, afterAcl_valid right _ rfl⟩
    next => exact ⟨valid, right⟩
  | countAcl caller tenantId dto => exact ⟨valid, right, rfl⟩
  | writeAcl caller tenantId dto allowed =>
    obtain ⟨awaits, rfl⟩ := right
    exact ⟨valid.put (acl_entry free asked awaits.lookup), afterAcl_valid awaits _ rfl⟩
  | writeAuthz dto allowed source =>
    obtain ⟨rfl, rfl⟩ := right
    exact ⟨valid.put (authz_entry free asked), rfl⟩
  | done result => exact ⟨valid, right⟩

theorem start_valid (call : Call Id) : PointValid db now call call.start := by
  cases call with
  | authz dto => rfl
  | acl tenantId dto => rfl

theorem checks_outline [DecidableEq Key] (free : CollisionFree keys calls) :
    (checks keys db now calls).Outline (Store.Coherent (EntryValid keys db now calls))
      (fun _ proc => proc.1 ∈ calls ∧ PointValid db now proc.1 proc.2) where
  spawn _ new := ⟨new.1, by rw [new.2]; exact start_valid _⟩
  advance := by
    rintro cache ⟨call, point⟩ cache' ⟨call', point'⟩ valid ⟨asked, right⟩ ⟨same, stepped⟩
    subst same
    obtain ⟨valid', right'⟩ := step_valid free valid asked right
    rw [stepped] at valid' right'
    exact ⟨valid', asked, right'⟩
  stable _ _ own _ := own
  disturb := by
    intro cache cache' valid holds
    obtain ⟨expired, rfl⟩ := holds
    exact ⟨valid.removeWhere fun _ _ _ right => right, fun _ own => own⟩

theorem reaches_valid [DecidableEq Key] (free : CollisionFree keys calls)
    {state : State (Cache Key) (Call Id × Point Id)}
    (run : (checks keys db now calls).Reaches initial state) :
    System.Holds (Store.Coherent (EntryValid keys db now calls))
      (fun _ proc => proc.1 ∈ calls ∧ PointValid db now proc.1 proc.2) state :=
  (checks_outline free).reaches run ⟨Store.coherent_empty _, by simp [initial]⟩

theorem transparent_of_collisionFree [DecidableEq Key] (free : CollisionFree keys calls)
    {state : State (Cache Key) (Call Id × Point Id)}
    (run : (checks keys db now calls).Reaches initial state) :
    Transparent keys db now state := by
  intro call result returned
  rw [run_empty]
  exact ((reaches_valid free run).2 _ returned).2

end Entries

/-! Calls that run one after another. -/

section Sequential
variable [DecidableEq Key] {keys : KeyScheme Id Key} {db : Db} {now : Time} {calls : Set (Call Id)}

theorem solo_steps (call : Call Id) (count : Nat) (point : Point Id) (cache : Cache Key) :
    System.Solo (checks keys db now calls) (cache, call, point)
      ((steps keys db now count (point, cache)).2, call,
        (steps keys db now count (point, cache)).1) := by
  induction count generalizing point cache with
  | zero => exact .refl
  | succ count ih =>
    cases moved : step keys db now cache point with
    | mk next cache' =>
      have first : (checks keys db now calls).moves cache (call, point) cache' (call, next) := ⟨rfl, moved⟩
      rw [steps, moved]
      exact System.Solo.head first (ih next cache')

/-- A call may start and finish before anything else happens. -/
theorem reaches_call {call : Call Id} (asked : call ∈ calls) (cache : Cache Key)
    (procs : List (Call Id × Point Id)) :
    (checks keys db now calls).Reaches ⟨cache, procs⟩
      ⟨(call.run keys db now cache).2, procs ++ [(call, .done (call.run keys db now cache).1)]⟩ := by
  obtain ⟨count, _, finished⟩ := steps_start keys db now cache call
  have alone : System.Solo (checks keys db now calls) (cache, call, call.start) _ :=
    solo_steps call count call.start cache
  rw [finished] at alone
  have new : (checks keys db now calls).spawns cache (call, call.start) := ⟨asked, rfl⟩
  exact System.reaches_spawn new alone

end Sequential

end GenericIam.CacheTransparency
