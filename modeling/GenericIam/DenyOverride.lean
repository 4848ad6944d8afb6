import GenericIam.AuthorizationCheck

/-! What a DENY override takes away. The subtraction compares permission ids while
the later match compares codes, so a denial does not reach the wildcards above it. -/

namespace GenericIam.DenyOverride
open Table Database PermissionMatcher EffectivePermissions
open Identifiers CacheKeys AuthorizationCheck

/-- One of the user's denials names the code itself or a wildcard that matches it. -/
def DenialCovers (db : Db) (userId tenantId : Uuid) (code : String) : Prop :=
  ∃ p ∈ db.permissions, Overrides db .deny userId tenantId p ∧ covers p.code code = true

def Granted (db : Db) (now : Time) (userId tenantId : Uuid) (p : PermissionEntity) : Prop :=
  RoleGrants db now userId tenantId p ∨ Overrides db .grant userId tenantId p

/-- Every granted permission whose code answers for `code` is denied by its own id. -/
def GrantsDenied (db : Db) (now : Time) (userId tenantId : Uuid) (code : String) : Prop :=
  ∀ p ∈ db.permissions, Granted db now userId tenantId p → covers p.code code = true →
    Overrides db .deny userId tenantId p

theorem rbac_false_iff {db : Db} {now : Time} {userId tenantId : Uuid} {code : String} :
    hasPermission (effectiveCodes db now userId tenantId) code = false ↔
      GrantsDenied db now userId tenantId code := by
  rw [hasPermission_eq_false]
  constructor
  · intro nothing p member granted matched
    by_contra free
    have held := nothing p.code (mem_effectiveCodes.mpr ⟨p, member, granted, free, rfl⟩)
    rw [matched] at held
    cases held
  · intro denied held effective
    obtain ⟨p, member, granted, free, rfl⟩ := mem_effectiveCodes.mp effective
    rw [← Bool.not_eq_true]
    intro matched
    exact free (denied p member granted matched)

theorem decision_without_resource {Id : Type} [Identifier Id] {db : Db} {now : Time}
    {dto : CheckAuthzDto Id} (plain : dto.resource = none) :
    decision db now dto =
      hasPermission (effectiveCodes db now (value dto.userId) (value dto.tenantId)) dto.permission := by
  simp [decision, plain]

/-- A denial that covers the checked code decides the check exactly when every
granted permission that answers for the code carries a denial of its own. -/
theorem denial_wins_iff {Id Key : Type} [Identifier Id] [DecidableEq Key] (keys : KeyScheme Id Key)
    (db : Db) (now : Time) (dto : CheckAuthzDto Id) (plain : dto.resource = none) :
    (DenialCovers db (value dto.userId) (value dto.tenantId) dto.permission →
      hasPermission (effectiveCodes db now (value dto.userId) (value dto.tenantId)) dto.permission = false ∧
        (check keys db now Store.empty dto).1.allowed = false) ↔
      (DenialCovers db (value dto.userId) (value dto.tenantId) dto.permission →
        GrantsDenied db now (value dto.userId) (value dto.tenantId) dto.permission) := by
  rw [check_empty, decision_without_resource plain, and_self, rbac_false_iff]

/-! A user whose role carries `expense.*` and who is denied `expense.read`. -/

def wildcardDb : Db where
  permissions :=
    ⟨[⟨1, "expense.*", "expense", none, none⟩, ⟨2, "expense.read", "expense", none, none⟩], by decide⟩
  rolePermissions := ⟨[⟨5, 4, 1⟩], by decide⟩
  userRoles := ⟨[⟨6, 7, 8, 4, none⟩], by decide⟩
  userPermissionOverrides := ⟨[⟨9, 7, 8, 2, .deny, ""⟩], by decide⟩

theorem wildcardDb_denies : DenialCovers wildcardDb 8 7 "expense.read" :=
  ⟨⟨2, "expense.read", "expense", none, none⟩, by simp [wildcardDb, mem_rows],
    ⟨⟨9, 7, 8, 2, .deny, ""⟩, by simp [wildcardDb, mem_rows], rfl, rfl, rfl, rfl⟩, covers_self _⟩

/-- The role's wildcard survives the denial and answers the check. -/
theorem denial_loses_to_wildcard :
    ¬(DenialCovers wildcardDb 8 7 "expense.read" →
      hasPermission (effectiveCodes wildcardDb 0 8 7) "expense.read" = false ∧
        (check tupleKeys wildcardDb 0 Store.empty ⟨8, 7, "expense.read", none, none⟩).1.allowed =
          false) := by
  intro claimed
  have denied := (claimed wildcardDb_denies).1
  revert denied
  decide

/-- The two sides for the same user once the role is gone: the denial wins. -/
theorem denial_wins_without_role :
    (DenialCovers { wildcardDb with userRoles := .empty } 8 7 "expense.read" →
      hasPermission (effectiveCodes { wildcardDb with userRoles := .empty } 0 8 7) "expense.read" = false ∧
        (check tupleKeys { wildcardDb with userRoles := .empty } 0 Store.empty
          ⟨8, 7, "expense.read", none, none⟩).1.allowed = false) ↔
      (DenialCovers { wildcardDb with userRoles := .empty } 8 7 "expense.read" →
        GrantsDenied { wildcardDb with userRoles := .empty } 0 8 7 "expense.read") :=
  denial_wins_iff tupleKeys { wildcardDb with userRoles := .empty } 0 ⟨8, 7,
    "expense.read", none, none⟩ rfl

end GenericIam.DenyOverride
