import GenericIam.AuthorizationCheck

/-! The check when single calls to the cache reject: which of them it comes to, and what
becomes of the decision. -/

namespace GenericIam.FailingCache
open Database PermissionMatcher EffectivePermissions Identifiers CacheKeys AuthorizationCheck

inductive Site where
  | getDecision
  | getPermissions
  | setPermissions
  | getAcl
  | setAcl
  | setDecision
  deriving DecidableEq

abbrev Rejections (Error : Type) := Site → Option Error

variable {Id Key Error : Type} [Identifier Id] [DecidableEq Key]

def calling {Value : Type} (rejects : Rejections Error) (site : Site) (value : Value) :
    Except Error Value :=
  match rejects site with
  | some error => .error error
  | none => .ok value

def aclCheckWith (rejects : Rejections Error) (keys : KeyScheme Id Key) (db : Db)
    (cache : Cache Key) (tenantId : Id) (dto : CheckAclDto Id) :
    Except Error (CheckResult × Cache Key) := do
  let cacheKey := keys.acl tenantId dto
  match ← calling rejects .getAcl (cache cacheKey) with
  | some cached => pure (⟨cached.truthy, "cache"⟩, cache)
  | none =>
      let allowed := aclExists db tenantId dto
      let cache ← calling rejects .setAcl (cache.put cacheKey (.decision allowed))
      pure (⟨allowed, "db"⟩, cache)

def answerWith (rejects : Rejections Error) (keys : KeyScheme Id Key) (db : Db)
    (dto : CheckAuthzDto Id) (effectiveSet : List String) (cache : Cache Key) :
    Except Error (CheckResult × Cache Key) := do
  let (allowed, source, cache) ←
    if hasPermission effectiveSet dto.permission then pure (true, "rbac", cache)
    else match dto.resource with
      | some resource => do
          let (aclResult, cache) ← aclCheckWith rejects keys db cache dto.tenantId (aclDto dto resource)
          pure (aclResult.allowed, "acl", cache)
      | none => pure (false, "rbac", cache)
  let cache ← calling rejects .setDecision (cache.put (keys.authz dto) (.decision allowed))
  pure (⟨allowed, if allowed then source else "none"⟩, cache)

def checkWith (rejects : Rejections Error) (keys : KeyScheme Id Key) (db : Db) (now : Time)
    (cache : Cache Key) (dto : CheckAuthzDto Id) :
    Except Error (CheckResult × Cache Key) := do
  match ← calling rejects .getDecision (cache (keys.authz dto)) with
  | some cachedDecision => pure (⟨cachedDecision.truthy, "cache"⟩, cache)
  | none =>
      let (effectiveSet, cache) ← match ← calling rejects .getPermissions
          (getPermissions keys cache dto.tenantId dto.userId) with
        | some effectiveSet => pure (effectiveSet, cache)
        | none => do
            let effectiveSet := effectiveCodes db now (value dto.userId) (value dto.tenantId)
            let cache ← calling rejects .setPermissions
              (cache.put (keys.perms dto.tenantId dto.userId) (.codes effectiveSet))
            pure (effectiveSet, cache)
      answerWith rejects keys db dto effectiveSet cache

/-! The calls that a check comes to. -/

def aclSites (keys : KeyScheme Id Key) (cache : Cache Key) (tenantId : Id)
    (dto : CheckAclDto Id) : List Site :=
  .getAcl :: if (cache (keys.acl tenantId dto)).isSome then [] else [.setAcl]

def answerSites (keys : KeyScheme Id Key) (dto : CheckAuthzDto Id) (effectiveSet : List String)
    (cache : Cache Key) : List Site :=
  (if hasPermission effectiveSet dto.permission then []
    else match dto.resource with
      | some resource => aclSites keys cache dto.tenantId (aclDto dto resource)
      | none => []) ++ [.setDecision]

def sites (keys : KeyScheme Id Key) (db : Db) (now : Time) (cache : Cache Key)
    (dto : CheckAuthzDto Id) : List Site :=
  .getDecision :: match cache (keys.authz dto) with
    | some _ => []
    | none => .getPermissions :: match getPermissions keys cache dto.tenantId dto.userId with
      | some effectiveSet => answerSites keys dto effectiveSet cache
      | none => .setPermissions :: answerSites keys dto
          (effectiveCodes db now (value dto.userId) (value dto.tenantId)) cache

/-! Calls one after the other: the first rejection is the answer. -/

section Passing
variable {First Value : Type} {rejects : Rejections Error}

def passing (rejects : Rejections Error) (sites : List Site) (value : Value) : Except Error Value :=
  match sites.findSome? rejects with
  | some error => .error error
  | none => .ok value

theorem calling_eq (site : Site) (value : Value) :
    calling rejects site value = passing rejects [site] value := by
  unfold calling passing
  cases found : rejects site <;> simp [found]

theorem passing_bind {earlier later : List Site} {value : First} {next : First → Except Error Value}
    {result : Value} (goes_on : next value = passing rejects later result) :
    (passing rejects earlier value >>= next) = passing rejects (earlier ++ later) result := by
  unfold passing at goes_on ⊢
  rw [List.findSome?_append]
  cases found : earlier.findSome? rejects with
  | some error => rfl
  | none => exact goes_on

theorem pure_eq (value : Value) : (pure value : Except Error Value) = passing rejects [] value := rfl

theorem passing_eq_ok {sites : List Site} {value result : Value} :
    passing rejects sites value = .ok result ↔ (∀ site ∈ sites, rejects site = none) ∧
      value = result := by
  unfold passing
  cases found : sites.findSome? rejects with
  | some error =>
    obtain ⟨site, member, rejected⟩ := List.exists_of_findSome?_eq_some found
    simp only [reduceCtorEq, false_iff, not_and]
    intro accepted
    rw [accepted site member] at rejected
    cases rejected
  | none =>
    have accepted := List.findSome?_eq_none_iff.mp found
    simp only [Except.ok.injEq, iff_and_self]
    exact fun _ => accepted

end Passing

section Checks
variable {rejects : Rejections Error} {keys : KeyScheme Id Key} {db : Db} {now : Time}
  {cache : Cache Key}

theorem aclCheckWith_eq (tenantId : Id) (dto : CheckAclDto Id) :
    aclCheckWith rejects keys db cache tenantId dto = passing rejects (aclSites keys cache tenantId dto)
      (aclCheck keys db cache tenantId dto) := by
  unfold aclCheckWith aclSites aclCheck
  simp only [calling_eq]
  cases held : cache (keys.acl tenantId dto) with
  | some cached => exact passing_bind rfl
  | none => exact passing_bind (passing_bind rfl)

theorem answerWith_eq (dto : CheckAuthzDto Id) (effectiveSet : List String) :
    answerWith rejects keys db dto effectiveSet cache =
      passing rejects (answerSites keys dto effectiveSet cache)
        (answer keys db dto effectiveSet cache) := by
  unfold answerWith answerSites answer
  by_cases granted : hasPermission effectiveSet dto.permission = true
  · simp only [granted, if_true, calling_eq]
    exact passing_bind rfl
  · simp only [granted, if_false, calling_eq, Bool.false_eq_true]
    cases asked : dto.resource with
    | none => exact passing_bind rfl
    | some resource =>
      simp only [aclCheckWith_eq]
      exact passing_bind (passing_bind (pure_eq _))

omit [Identifier Id] in
/-- The permission set is stored under a key of its own. -/
theorem answerSites_put (dto : CheckAuthzDto Id) (tenantId userId : Id) (stored : CacheValue)
    (effectiveSet : List String) :
    answerSites keys dto effectiveSet (cache.put (keys.perms tenantId userId) stored) =
      answerSites keys dto effectiveSet cache := by
  unfold answerSites aclSites
  simp only [Store.put_other _ _ (Ne.symm keys.perms_ne_acl)]

theorem checkWith_eq (dto : CheckAuthzDto Id) :
    checkWith rejects keys db now cache dto =
      passing rejects (sites keys db now cache dto) (check keys db now cache dto) := by
  unfold checkWith sites check
  simp only [calling_eq]
  cases decided : cache (keys.authz dto) with
  | some cachedDecision => exact passing_bind rfl
  | none =>
    cases held : getPermissions keys cache dto.tenantId dto.userId with
    | some effectiveSet => exact passing_bind (passing_bind (answerWith_eq dto effectiveSet))
    | none =>
      have answered := @answerWith_eq _ _ _ _ _ rejects keys db
        (cache.put (keys.perms dto.tenantId dto.userId)
          (.codes (effectiveCodes db now (value dto.userId) (value dto.tenantId)))) dto
        (effectiveCodes db now (value dto.userId) (value dto.tenantId))
      rw [answerSites_put] at answered
      refine passing_bind (passing_bind ?_)
      exact passing_bind answered

/-- No read that the check may come to finds an entry, be it that it rejects or that there is
none. -/
structure NothingRead (rejects : Rejections Error) (keys : KeyScheme Id Key) (cache : Cache Key)
    (dto : CheckAuthzDto Id) : Prop where
  decision : rejects .getDecision ≠ none ∨ cache (keys.authz dto) = none
  permissions : rejects .getPermissions ≠ none ∨
    getPermissions keys cache dto.tenantId dto.userId = none
  acl : ∀ resource, dto.resource = some resource → rejects .getAcl ≠ none ∨
    cache (keys.acl dto.tenantId (aclDto dto resource)) = none

/-- The check returns, and decides as the database does when nothing is read from the cache. -/
def Survives (rejects : Rejections Error) (keys : KeyScheme Id Key) (db : Db) (now : Time)
    (cache : Cache Key) (dto : CheckAuthzDto Id) : Prop :=
  ∃ result after, checkWith rejects keys db now cache dto = .ok (result, after) ∧
    (NothingRead rejects keys cache dto → result.allowed = decision db now dto)

/-- Without entries the decision is the one of the database. -/
theorem check_unread (dto : CheckAuthzDto Id) (undecided : cache (keys.authz dto) = none)
    (uncached : getPermissions keys cache dto.tenantId dto.userId = none)
    (unlisted : hasPermission (effectiveCodes db now (value dto.userId) (value dto.tenantId))
      dto.permission = false →
      ∀ resource, dto.resource = some resource →
        cache (keys.acl dto.tenantId (aclDto dto resource)) = none) :
    (check keys db now cache dto).1.allowed = decision db now dto := by
  simp only [check, undecided, uncached, answer, decision]
  cases granted :
      hasPermission (effectiveCodes db now (value dto.userId) (value dto.tenantId)) dto.permission with
  | true => simp
  | false =>
    cases asked : dto.resource with
    | none => simp
    | some resource =>
      simp [aclCheck, Store.put_other _ _ (Ne.symm keys.perms_ne_acl), unlisted granted resource asked]

/-- A check survives exactly when no call of the cache that it comes to rejects. -/
theorem survives_iff (rejects : Rejections Error) (keys : KeyScheme Id Key) (db : Db) (now : Time)
    (cache : Cache Key) (dto : CheckAuthzDto Id) :
    Survives rejects keys db now cache dto ↔ ∀ site ∈ sites keys db now cache dto,
      rejects site = none := by
  unfold Survives
  rw [checkWith_eq]
  constructor
  · intro holds
    obtain ⟨result, after, returned, -⟩ := holds
    exact (passing_eq_ok.mp returned).1
  · intro accepted
    refine ⟨_, _, passing_eq_ok.mpr ⟨accepted, rfl⟩, fun unread => ?_⟩
    have undecided := unread.decision.resolve_left fun rejected =>
      rejected (accepted _ (by simp [sites]))
    have uncached := unread.permissions.resolve_left fun rejected =>
      rejected (accepted _ (by simp [sites, undecided]))
    refine check_unread dto undecided uncached fun denied resource asked => ?_
    refine (unread.acl resource asked).resolve_left fun rejected => rejected (accepted _ ?_)
    simp [sites, undecided, uncached, answerSites, denied, asked, aclSites]

end Checks

def unwritten : Rejections String
  | .setDecision => some "connection lost"
  | _ => none

/-- A user with no permissions asks for one, over an empty cache. -/
theorem decision_lost :
    ¬Survives unwritten tupleKeys {} 0 Store.empty ⟨51, 41, "expense.read", none, none⟩ := by
  intro holds
  obtain ⟨result, after, returned, -⟩ := holds
  cases returned

end GenericIam.FailingCache
