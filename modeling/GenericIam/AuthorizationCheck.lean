import GenericIam.CacheKeys
import GenericIam.EffectivePermissions

/-! The authorization check: the services as they are written, the same calls as
sequences of atomic steps, and the decision they take when nothing is cached. -/

namespace GenericIam.AuthorizationCheck
open Table Database PermissionMatcher EffectivePermissions Identifiers CacheKeys

inductive CacheValue where
  | codes (permissions : List String)
  | decision (allowed : Bool)
  deriving DecidableEq

abbrev Cache (Key : Type) := Store Key CacheValue

def CacheValue.truthy : CacheValue → Bool
  | .codes _ => true
  | .decision allowed => allowed

def CacheValue.permissions : CacheValue → Option (List String)
  | .codes permissions => some permissions
  | .decision _ => none

structure CheckResult where
  allowed : Bool
  source : String
  deriving DecidableEq

variable {Id Key : Type} [Identifier Id]

def aclExists (db : Db) (tenantId : Id) (dto : CheckAclDto Id) : Bool :=
  decide (0 < db.resourceAcls.count fun acl =>
    acl.tenantId == value tenantId && acl.userId == value dto.userId &&
      acl.resourceType == dto.resourceType && acl.resourceId == dto.resourceId &&
        acl.permission == dto.permission)

theorem aclExists_iff {db : Db} {tenantId : Id} {dto : CheckAclDto Id} :
    aclExists db tenantId dto = true ↔ ∃ acl ∈ db.resourceAcls,
      acl.tenantId = value tenantId ∧ acl.userId = value dto.userId ∧
        acl.resourceType = dto.resourceType ∧ acl.resourceId = dto.resourceId ∧
          acl.permission = dto.permission := by
  simp only [aclExists, decide_eq_true_eq, count_pos, Bool.and_eq_true, beq_iff_eq, and_assoc]

def aclCheck [DecidableEq Key] (keys : KeyScheme Id Key) (db : Db) (cache : Cache Key) (tenantId : Id)
    (dto : CheckAclDto Id) : CheckResult × Cache Key :=
  let cacheKey := keys.acl tenantId dto
  match cache cacheKey with
  | some cached => (⟨cached.truthy, "cache"⟩, cache)
  | none =>
      let allowed := aclExists db tenantId dto
      (⟨allowed, "db"⟩, cache.put cacheKey (.decision allowed))

def aclDto (dto : CheckAuthzDto Id) (resource : String × String) : CheckAclDto Id :=
  ⟨dto.userId, resource.1, resource.2, dto.permission⟩

def getPermissions (keys : KeyScheme Id Key) (cache : Cache Key) (tenantId userId : Id) :
    Option (List String) :=
  (cache (keys.perms tenantId userId)).bind CacheValue.permissions

def answer [DecidableEq Key] (keys : KeyScheme Id Key) (db : Db) (dto : CheckAuthzDto Id)
    (effectiveSet : List String) (cache : Cache Key) : CheckResult × Cache Key :=
  let (allowed, source, cache) :=
    if hasPermission effectiveSet dto.permission then (true, "rbac", cache)
    else match dto.resource with
      | some resource =>
          let (aclResult, cache) := aclCheck keys db cache dto.tenantId (aclDto dto resource)
          (aclResult.allowed, "acl", cache)
      | none => (false, "rbac", cache)
  (⟨allowed, if allowed then source else "none"⟩, cache.put (keys.authz dto) (.decision allowed))

def check [DecidableEq Key] (keys : KeyScheme Id Key) (db : Db) (now : Time) (cache : Cache Key)
    (dto : CheckAuthzDto Id) : CheckResult × Cache Key :=
  match cache (keys.authz dto) with
  | some cachedDecision => (⟨cachedDecision.truthy, "cache"⟩, cache)
  | none =>
      let (effectiveSet, cache) := match getPermissions keys cache dto.tenantId dto.userId with
        | some effectiveSet => (effectiveSet, cache)
        | none =>
            let effectiveSet := effectiveCodes db now (value dto.userId) (value dto.tenantId)
            (effectiveSet, cache.put (keys.perms dto.tenantId dto.userId) (.codes effectiveSet))
      answer keys db dto effectiveSet cache

/-- What a check answers from the database alone. -/
def decision (db : Db) (now : Time) (dto : CheckAuthzDto Id) : Bool :=
  hasPermission (effectiveCodes db now (value dto.userId) (value dto.tenantId)) dto.permission ||
    match dto.resource with
    | some resource => aclExists db dto.tenantId (aclDto dto resource)
    | none => false

/-! The same calls, one cache access or database read at a time. -/

inductive Call (Id : Type) where
  | authz (dto : CheckAuthzDto Id)
  | acl (tenantId : Id) (dto : CheckAclDto Id)
  deriving DecidableEq

/-- Where a call stands, with the data it has read and not yet written back. An
ACL lookup remembers the check that waits for it, if any. -/
inductive Point (Id : Type) where
  | readAuthz (dto : CheckAuthzDto Id)
  | readPerms (dto : CheckAuthzDto Id)
  | readRoles (dto : CheckAuthzDto Id)
  | readRolePermissions (dto : CheckAuthzDto Id) (roleIds : List Uuid)
  | readOverrides (dto : CheckAuthzDto Id) (rolePermissions : List PermissionEntity)
  | writePerms (dto : CheckAuthzDto Id) (effectiveSet : List String)
  | readAcl (caller : Option (CheckAuthzDto Id)) (tenantId : Id) (dto : CheckAclDto Id)
  | countAcl (caller : Option (CheckAuthzDto Id)) (tenantId : Id) (dto : CheckAclDto Id)
  | writeAcl (caller : Option (CheckAuthzDto Id)) (tenantId : Id)
      (dto : CheckAclDto Id) (allowed : Bool)
  | writeAuthz (dto : CheckAuthzDto Id) (allowed : Bool) (source : String)
  | done (result : CheckResult)
  deriving DecidableEq

def Call.start : Call Id → Point Id
  | .authz dto => .readAuthz dto
  | .acl tenantId dto => .readAcl none tenantId dto

def afterPermissions (dto : CheckAuthzDto Id) (effectiveSet : List String) : Point Id :=
  if hasPermission effectiveSet dto.permission then .writeAuthz dto true "rbac"
  else match dto.resource with
    | some resource => .readAcl (some dto) dto.tenantId (aclDto dto resource)
    | none => .writeAuthz dto false "rbac"

def afterAcl (caller : Option (CheckAuthzDto Id)) (result : CheckResult) : Point Id :=
  match caller with
  | some dto => .writeAuthz dto result.allowed "acl"
  | none => .done result

def codesOf (db : Db) (rolePermissions : List PermissionEntity)
    (overrides : List UserPermissionOverrideEntity) : List String :=
  ((combine rolePermissions (grantsOf db overrides) (denyIdsOf overrides)).map (·.code)).eraseDups

def step [DecidableEq Key] (keys : KeyScheme Id Key) (db : Db) (now : Time) (cache : Cache Key) :
    Point Id → Point Id × Cache Key
  | .readAuthz dto => match cache (keys.authz dto) with
      | some cachedDecision => (.done ⟨cachedDecision.truthy, "cache"⟩, cache)
      | none => (.readPerms dto, cache)
  | .readPerms dto => match getPermissions keys cache dto.tenantId dto.userId with
      | some effectiveSet => (afterPermissions dto effectiveSet, cache)
      | none => (.readRoles dto, cache)
  | .readRoles dto =>
      let activeRoles := getUserRoles db now (value dto.userId) (value dto.tenantId)
      (.readRolePermissions dto (activeRoles.map (·.roleId)), cache)
  | .readRolePermissions dto roleIds => (.readOverrides dto (rolePermissionsOf db roleIds), cache)
  | .readOverrides dto rolePermissions =>
      let overrides := getOverridesForUser db (value dto.userId) (value dto.tenantId)
      (.writePerms dto (codesOf db rolePermissions overrides), cache)
  | .writePerms dto effectiveSet =>
      (afterPermissions dto effectiveSet,
        cache.put (keys.perms dto.tenantId dto.userId) (.codes effectiveSet))
  | .readAcl caller tenantId dto => match cache (keys.acl tenantId dto) with
      | some cached => (afterAcl caller ⟨cached.truthy, "cache"⟩, cache)
      | none => (.countAcl caller tenantId dto, cache)
  | .countAcl caller tenantId dto => (.writeAcl caller tenantId dto (aclExists db tenantId dto), cache)
  | .writeAcl caller tenantId dto allowed =>
      (afterAcl caller ⟨allowed, "db"⟩, cache.put (keys.acl tenantId dto) (.decision allowed))
  | .writeAuthz dto allowed source =>
      (.done ⟨allowed, if allowed then source else "none"⟩,
        cache.put (keys.authz dto) (.decision allowed))
  | .done result => (.done result, cache)

def steps [DecidableEq Key] (keys : KeyScheme Id Key) (db : Db) (now : Time) :
    Nat → Point Id × Cache Key → Point Id × Cache Key
  | 0, state => state
  | count + 1, state => steps keys db now count (step keys db now state.2 state.1)

def Call.run [DecidableEq Key] (keys : KeyScheme Id Key) (db : Db) (now : Time) (cache : Cache Key) :
    Call Id → CheckResult × Cache Key
  | .authz dto => check keys db now cache dto
  | .acl tenantId dto => aclCheck keys db cache tenantId dto

theorem steps_add [DecidableEq Key] (keys : KeyScheme Id Key) (db : Db) (now : Time)
    (first second : Nat) (state : Point Id × Cache Key) :
    steps keys db now (first + second) state =
      steps keys db now second (steps keys db now first state) := by
  induction first generalizing state with
  | zero => simp [steps]
  | succ first ih => rw [Nat.succ_add, steps, ih, steps]

/-- The ACL lookup of a call: three steps at most. -/
theorem steps_readAcl [DecidableEq Key] (keys : KeyScheme Id Key) (db : Db) (now : Time)
    (caller : Option (CheckAuthzDto Id)) (tenantId : Id) (dto : CheckAclDto Id) (cache : Cache Key) :
    ∃ count ≤ 3, steps keys db now count (.readAcl caller tenantId dto, cache) =
      (afterAcl caller (aclCheck keys db cache tenantId dto).1,
        (aclCheck keys db cache tenantId dto).2) := by
  cases held : cache (keys.acl tenantId dto) with
  | some cached => exact ⟨1, by decide, by simp [steps, step, aclCheck, held]⟩
  | none => exact ⟨3, by decide, by simp [steps, step, aclCheck, held]⟩

theorem codesOf_reads (db : Db) (now : Time) (userId tenantId : Uuid) :
    codesOf db (rolePermissionsOf db ((getUserRoles db now userId tenantId).map (·.roleId)))
      (getOverridesForUser db userId tenantId) = effectiveCodes db now userId tenantId := rfl

/-- The second half of a check, from the permission set on: five steps at most. -/
theorem steps_afterPermissions [DecidableEq Key] (keys : KeyScheme Id Key) (db : Db) (now : Time)
    (dto : CheckAuthzDto Id) (effectiveSet : List String) (cache : Cache Key) :
    ∃ count ≤ 4, steps keys db now count (afterPermissions dto effectiveSet, cache) =
      (.done (answer keys db dto effectiveSet cache).1, (answer keys db dto effectiveSet cache).2) := by
  unfold afterPermissions answer
  by_cases granted : hasPermission effectiveSet dto.permission = true
  · exact ⟨1, by decide, by simp [granted, steps, step]⟩
  · cases asked : dto.resource with
    | none => exact ⟨1, by decide, by simp [granted, steps, step]⟩
    | some resource =>
      obtain ⟨count, bound, reached⟩ :=
        steps_readAcl keys db now (some dto) dto.tenantId (aclDto dto resource) cache
      refine ⟨count + 1, by omega, ?_⟩
      simp only [granted, if_false, Bool.false_eq_true]
      rw [steps_add, reached]
      rfl

/-- A call that runs alone does in its steps what the service does at once. -/
theorem steps_start [DecidableEq Key] (keys : KeyScheme Id Key) (db : Db) (now : Time)
    (cache : Cache Key) (call : Call Id) : ∃ count ≤ 10, steps keys db now count (call.start, cache) =
      (.done (call.run keys db now cache).1, (call.run keys db now cache).2) := by
  cases call with
  | acl tenantId dto =>
    obtain ⟨count, bound, reached⟩ := steps_readAcl keys db now none tenantId dto cache
    exact ⟨count, by omega, reached⟩
  | authz dto =>
    simp only [Call.start, Call.run, check]
    cases cached : cache (keys.authz dto) with
    | some cachedDecision => exact ⟨1, by decide, by simp [steps, step, cached]⟩
    | none =>
      cases held : getPermissions keys cache dto.tenantId dto.userId with
      | some effectiveSet =>
        obtain ⟨count, bound, reached⟩ := steps_afterPermissions keys db now dto effectiveSet cache
        refine ⟨2 + count, by omega, ?_⟩
        rw [steps_add]
        simpa [steps, step, cached, held] using reached
      | none =>
        obtain ⟨count, bound, reached⟩ := steps_afterPermissions keys db now dto
          (effectiveCodes db now (value dto.userId) (value dto.tenantId))
          (cache.put (keys.perms dto.tenantId dto.userId)
            (.codes (effectiveCodes db now (value dto.userId) (value dto.tenantId))))
        refine ⟨6 + count, by omega, ?_⟩
        rw [steps_add]
        simpa [steps, step, cached, held, codesOf_reads] using reached

/-- On an empty cache the answer comes from the database alone. -/
theorem check_empty [DecidableEq Key] (keys : KeyScheme Id Key) (db : Db) (now : Time)
    (dto : CheckAuthzDto Id) : (check keys db now Store.empty dto).1.allowed = decision db now dto := by
  simp only [check, getPermissions, Store.empty_apply, Option.bind_none, answer, decision]
  by_cases granted :
      hasPermission (effectiveCodes db now (value dto.userId) (value dto.tenantId)) dto.permission = true
  · simp [granted]
  · cases asked : dto.resource with
    | none => simp [granted]
    | some resource =>
      simp [granted, aclCheck, Store.put_other _ _ (Ne.symm keys.perms_ne_acl)]

theorem aclCheck_empty [DecidableEq Key] (keys : KeyScheme Id Key) (db : Db) (tenantId : Id)
    (dto : CheckAclDto Id) :
    (aclCheck keys db Store.empty tenantId dto).1.allowed = aclExists db tenantId dto := rfl

end GenericIam.AuthorizationCheck
