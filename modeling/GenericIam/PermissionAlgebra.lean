import GenericIam.ReachableStates

/-! The set operations on permission codes that the SDK offers, and the database computation
as an implementation of them. -/

namespace GenericIam.PermissionAlgebra
open Table Database EffectivePermissions ReachableStates

/-! The reference: a `Set` is a list of which only the members count. -/

def addCode (effective : List String) (p : String) : List String :=
  if effective.contains p then effective else effective ++ [p]

def deleteCode (effective : List String) (p : String) : List String :=
  effective.filter fun other => other != p

def computeEffectivePermissions (rolePermissions userGrants userDenies : List String) : List String :=
  let effective := rolePermissions
  let effective := userGrants.foldl addCode effective
  userDenies.foldl deleteCode effective

theorem mem_addCode {effective : List String} {p code : String} :
    code ∈ addCode effective p ↔ code ∈ effective ∨ code = p := by
  unfold addCode
  split
  · next held =>
    have present : p ∈ effective := by simpa using held
    refine ⟨.inl, ?_⟩
    intro holds
    rcases holds with before | rfl
    · exact before
    · exact present
  · rw [List.mem_append, List.mem_singleton]

theorem mem_foldl_addCode {grants effective : List String} {code : String} :
    code ∈ grants.foldl addCode effective ↔ code ∈ effective ∨ code ∈ grants := by
  induction grants generalizing effective with
  | nil => simp
  | cons p grants ih => rw [List.foldl_cons, ih, mem_addCode, List.mem_cons, or_assoc]

theorem mem_foldl_deleteCode {denies effective : List String} {code : String} :
    code ∈ denies.foldl deleteCode effective ↔ code ∈ effective ∧ code ∉ denies := by
  induction denies generalizing effective with
  | nil => simp
  | cons p denies ih =>
    rw [List.foldl_cons, ih, deleteCode, List.mem_filter, bne_iff_ne, List.mem_cons, not_or, and_assoc]

theorem mem_computeEffectivePermissions {rolePermissions userGrants userDenies : List String}
    {code : String} :
    code ∈ computeEffectivePermissions rolePermissions userGrants userDenies ↔
      (code ∈ rolePermissions ∨ code ∈ userGrants) ∧ code ∉ userDenies := by
  rw [computeEffectivePermissions, mem_foldl_deleteCode, mem_foldl_addCode]

/-! The three sets that a user has in a tenant. -/

def UniqueCodes (db : Db) : Prop :=
  ∀ p ∈ db.permissions.rows, ∀ q ∈ db.permissions.rows, p.code = q.code → p = q

instance (db : Db) : Decidable (UniqueCodes db) := by
  unfold UniqueCodes
  infer_instance

/-- `UNIQUE(code)`, which every statement has to respect. -/
theorem uniqueCodes_apply {session : Session} {db db' : Db} {write : Write} (unique : UniqueCodes db)
    (applied : write.apply session db = some db') : UniqueCodes db' := by
  have frame := sameBut_apply applied
  cases write with
  | insertPermission row =>
    obtain ⟨permissions, inserted, rfl⟩ := insertPermission_some applied
    have new : ∀ old ∈ db.permissions, old.code ≠ row.code := by
      intro old member same
      have clash : (db.permissions.any fun other => other.code == row.code) = true :=
        any_iff.mpr ⟨old, member, by simpa using same⟩
      simp [Write.apply, Db.insertPermission, clash] at applied
    intro p first q second same
    rcases (mem_insert inserted).mp first with before | rfl
    · rcases (mem_insert inserted).mp second with before' | rfl
      · exact unique p before q before' same
      · exact absurd same (new p before)
    · rcases (mem_insert inserted).mp second with before' | rfl
      · exact absurd same.symm (new q before')
      · rfl
  | _ =>
    unfold UniqueCodes
    rw [frame.permissions (by simp [Write.changes])]
    exact unique

theorem uniqueCodes_of_reachable {db : Db} (reached : Reachable db) : UniqueCodes db :=
  reached.invariant (fun _ _ member => absurd member List.not_mem_nil) uniqueCodes_apply

def roleCodes (db : Db) (roleId : Uuid) : List String :=
  (db.permissions.find fun p => db.rolePermissions.any fun rp => rp.roleId == roleId &&
    rp.permissionId == p.id).map (·.code)

/-- The codes of all roles that the user has in the tenant, without expiry or with one that
is still to come. -/
def assignedCodes (db : Db) (now : Time) (userId tenantId : Uuid) : List String :=
  (db.userRoles.find fun ur => ur.userId == userId && ur.tenantId == tenantId &&
    ur.expiresAt.all fun expiresAt => decide (now < expiresAt)).flatMap fun ur => roleCodes db ur.roleId

def overriddenCodes (db : Db) (overrideType : OverrideType) (userId tenantId : Uuid) : List String :=
  (db.permissions.find fun p => db.userPermissionOverrides.any fun o => o.userId == userId &&
    o.tenantId == tenantId &&
    o.overrideType == overrideType && o.permissionId == p.id).map (·.code)

section Codes
variable {db : Db} {now : Time} {userId tenantId : Uuid} {code : String}

theorem activeAt_eq (now : Time) (ur : UserRoleEntity) :
    activeAt now ur = ur.expiresAt.all fun expiresAt => decide (now < expiresAt) := by
  unfold activeAt
  cases ur.expiresAt <;> rfl

theorem mem_assignedCodes : code ∈ assignedCodes db now userId tenantId ↔
    ∃ p ∈ db.permissions, RoleGrants db now userId tenantId p ∧ p.code = code := by
  simp only [assignedCodes, ← activeAt_eq, List.mem_flatMap, mem_find, roleCodes, List.mem_map, any_iff,
    Bool.and_eq_true, beq_iff_eq,
    RoleGrants]
  constructor
  · intro holds
    obtain ⟨ur, ⟨assigned, ⟨user, tenant⟩, active⟩, p, ⟨member, rp, mapped, role, permission⟩, same⟩ := holds
    exact ⟨p, member, ⟨ur, assigned, ⟨user, tenant, active⟩, rp, mapped, permission, role⟩, same⟩
  · intro holds
    obtain ⟨p, member, ⟨ur, assigned, ⟨user, tenant, active⟩, rp, mapped, permission, role⟩, same⟩ := holds
    exact ⟨ur, ⟨assigned, ⟨user, tenant⟩, active⟩, p, ⟨member, rp, mapped, role, permission⟩, same⟩

theorem mem_overriddenCodes {overrideType : OverrideType} :
    code ∈ overriddenCodes db overrideType userId tenantId ↔
    ∃ p ∈ db.permissions, Overrides db overrideType userId tenantId p ∧ p.code = code := by
  simp only [overriddenCodes, List.mem_map, mem_find, any_iff, Bool.and_eq_true, beq_iff_eq,
    Overrides, and_assoc]

end Codes

/-! What the three queries may answer: the rows in any order, some of them repeated. -/

structure Answers (db : Db) (now : Time) (userId tenantId : Uuid) where
  activeRoles : List UserRoleEntity
  rolePermissions : List PermissionEntity
  overrides : List UserPermissionOverrideEntity
  roles_same : ∀ ur, ur ∈ activeRoles ↔ ur ∈ getUserRoles db now userId tenantId
  permissions_same : ∀ p, p ∈ rolePermissions ↔ p ∈ rolePermissionsOf db (activeRoles.map (·.roleId))
  overrides_same : ∀ o, o ∈ overrides ↔ o ∈ getOverridesForUser db userId tenantId

section Answers
variable {db : Db} {now : Time} {userId tenantId : Uuid}

def Answers.effective (answers : Answers db now userId tenantId) : List PermissionEntity :=
  combine answers.rolePermissions (grantsOf db answers.overrides) (denyIdsOf answers.overrides)

def Answers.inOrder (db : Db) (now : Time) (userId tenantId : Uuid) :
    Answers db now userId tenantId where
  activeRoles := getUserRoles db now userId tenantId
  rolePermissions := rolePermissionsOf db ((getUserRoles db now userId tenantId).map (·.roleId))
  overrides := getOverridesForUser db userId tenantId
  roles_same _ := Iff.rfl
  permissions_same _ := Iff.rfl
  overrides_same _ := Iff.rfl

theorem effective_inOrder :
    (Answers.inOrder db now userId tenantId).effective =
      getEffectivePermissions db now userId tenantId := rfl

/-- Whatever the order of the rows, the same permissions come out. -/
theorem Answers.mem_effective (answers : Answers db now userId tenantId) (p : PermissionEntity) :
    p ∈ answers.effective ↔ p ∈ db.permissions ∧
      (RoleGrants db now userId tenantId p ∨ Overrides db .grant userId tenantId p) ∧
        ¬Overrides db .deny userId tenantId p := by
  have roles : ∀ roleId, roleId ∈ answers.activeRoles.map (·.roleId) ↔
      roleId ∈ (getUserRoles db now userId tenantId).map (·.roleId) := by
    intro roleId
    simp only [List.mem_map, answers.roles_same]
  have mapped : ∀ q, q ∈ answers.rolePermissions ↔ q ∈ db.permissions ∧
      RoleGrants db now userId tenantId q := by
    intro q
    rw [← mem_activeRolePermissions, answers.permissions_same, mem_rolePermissionsOf,
      mem_rolePermissionsOf]
    simp only [roles]
  have granted : ∀ q, q ∈ grantsOf db answers.overrides ↔ q ∈ db.permissions ∧
      Overrides db .grant userId tenantId q := by
    intro q
    rw [← mem_grantsOf]
    simp only [grantsOf, List.mem_filterMap, List.mem_filter, answers.overrides_same]
  have denied : p.id ∈ denyIdsOf answers.overrides ↔ Overrides db .deny userId tenantId p := by
    rw [← mem_denyIdsOf]
    simp only [denyIdsOf, List.mem_map, List.mem_filter, answers.overrides_same]
  have known : ∀ q ∈ answers.rolePermissions ++ grantsOf db answers.overrides, q ∈ db.permissions := by
    intro q member
    rcases List.mem_append.mp member with role | grant
    · exact ((mapped q).mp role).1
    · exact ((granted q).mp grant).1
  rw [effective, mem_combine known, mapped, granted, denied, ← and_or_left, and_assoc]

/-- Setting an entry keeps one entry for each key. -/
theorem nodup_setEntry {Value : Type} {entries : List (Uuid × Value)}
    (single : (entries.map Prod.fst).Nodup) (key : Uuid) (value : Value) :
    ((setEntry entries key value).map Prod.fst).Nodup := by
  unfold setEntry
  split
  · have keys : (entries.map fun entry => if entry.1 == key then (key, value) else entry).map Prod.fst =
      entries.map Prod.fst := by
      rw [List.map_map]
      apply List.map_congr_left
      intro entry _
      by_cases hit : (entry.1 == key) = true
      · simp only [Function.comp, if_pos hit]
        exact (beq_iff_eq.mp hit).symm
      · simp only [Function.comp, if_neg hit]
    rw [keys]
    exact single
  · next absent =>
    rw [List.map_append, List.nodup_append]
    refine ⟨single, List.nodup_singleton _, ?_⟩
    intro first member second last
    rw [List.map_singleton, List.mem_singleton] at last
    intro same
    obtain rfl := same
    obtain ⟨entry, present, same⟩ := List.mem_map.mp member
    apply absent
    rw [List.any_eq_true]
    exact ⟨entry, present, by rw [same, last]; exact beq_self_eq_true key⟩

/-- The fold over what is granted: every entry is filed under the id of its permission, and
no id twice. -/
theorem nodup_fold {denied : List Uuid} (granted : List PermissionEntity)
    (map : List (Uuid × PermissionEntity)) (single : (map.map Prod.fst).Nodup)
    (keyed : ∀ entry ∈ map, entry.1 = entry.2.id) :
    (((granted.foldl (fun map p => if denied.contains p.id then map else setEntry map p.id p) map).map
      Prod.snd).map
      PermissionEntity.id).Nodup := by
  induction granted generalizing map with
  | nil =>
    have ids : (map.map Prod.snd).map PermissionEntity.id = map.map Prod.fst := by
      rw [List.map_map]
      exact List.map_congr_left fun entry member => (keyed entry member).symm
    rw [List.foldl_nil, ids]
    exact single
  | cons head tail ih =>
    rw [List.foldl_cons]
    by_cases out : denied.contains head.id = true
    · rw [if_pos out]
      exact ih map single keyed
    · rw [if_neg out]
      refine ih _ (nodup_setEntry single head.id head) ?_
      intro entry member
      rcases mem_setEntry.mp member with ⟨present, _⟩ | rfl
      · exact keyed entry present
      · rfl

theorem Answers.nodup_effective (answers : Answers db now userId tenantId) :
    (answers.effective.map PermissionEntity.id).Nodup :=
  nodup_fold _ [] List.nodup_nil (by simp)

/-- In a catalogue of unique codes the code of an effective permission is none of the codes
that are denied. -/
theorem code_denied_iff (unique : UniqueCodes db) {p : PermissionEntity} (member : p ∈ db.permissions) :
    p.code ∈ overriddenCodes db .deny userId tenantId ↔ Overrides db .deny userId tenantId p := by
  rw [mem_overriddenCodes]
  constructor
  · intro holds
    obtain ⟨q, present, denied, same⟩ := holds
    rw [← unique q present p member same]
    exact denied
  · intro denied
    exact ⟨p, member, denied, rfl⟩

/-- From any answer of the queries comes the set that the reference computes, each permission
once. -/
theorem effective_refines (unique : UniqueCodes db) (answers : Answers db now userId tenantId) :
    (∀ code, code ∈ answers.effective.map PermissionEntity.code ↔
      code ∈ computeEffectivePermissions (assignedCodes db now userId tenantId)
        (overriddenCodes db .grant userId tenantId)
        (overriddenCodes db .deny userId tenantId)) ∧
      (answers.effective.map PermissionEntity.id).Nodup ∧
        ∀ p, p ∈ answers.effective ↔ p ∈ getEffectivePermissions db now userId tenantId := by
  refine ⟨?_, answers.nodup_effective, ?_⟩
  · intro code
    rw [mem_computeEffectivePermissions, mem_assignedCodes, mem_overriddenCodes, List.mem_map]
    simp only [answers.mem_effective]
    constructor
    · intro holds
      obtain ⟨p, ⟨member, granted, free⟩, rfl⟩ := holds
      refine ⟨?_, fun denied => free ((code_denied_iff unique member).mp denied)⟩
      rcases granted with role | grant
      · exact .inl ⟨p, member, role, rfl⟩
      · exact .inr ⟨p, member, grant, rfl⟩
    · intro holds
      obtain ⟨⟨p, member, role, rfl⟩ | ⟨p, member, grant, rfl⟩, free⟩ := holds
      · exact ⟨p, ⟨member, .inl role, fun denied => free ((code_denied_iff unique member).mpr denied)⟩, rfl⟩
      · exact ⟨p, ⟨member, .inr grant, fun denied => free ((code_denied_iff unique member).mpr denied)⟩, rfl⟩
  · intro p
    rw [answers.mem_effective, mem_getEffectivePermissions]

end Answers

/-! A clerk whose two roles overlap and who is denied what one of them gives. -/

section Example

def ledger : Db where
  permissions := ⟨[⟨1, "ledger.read", "ledger", none, none⟩, ⟨2, "ledger.post", "ledger", none, none⟩,
    ⟨3, "ledger.close", "ledger", none, none⟩], by decide⟩
  rolePermissions := ⟨[⟨11, 21, 1⟩, ⟨12, 21, 2⟩, ⟨13, 22, 1⟩, ⟨14, 22, 1⟩], by decide⟩
  userRoles := ⟨[⟨31, 41, 51, 21, none⟩, ⟨32, 41, 51, 22, some 9⟩, ⟨33, 41, 51, 21, some 9⟩], by decide⟩
  userPermissionOverrides := ⟨[⟨61, 41, 51, 2, .deny, ""⟩, ⟨62, 41, 51, 3, .grant, ""⟩], by decide⟩

theorem ledger_refines :
    "ledger.read" ∈ computeEffectivePermissions (assignedCodes ledger 5 51 41)
      (overriddenCodes ledger .grant 51 41)
    (overriddenCodes ledger .deny 51 41) :=
  ((effective_refines (by decide) (Answers.inOrder ledger 5 51 41)).1 "ledger.read").mp (by decide)

example : (getEffectivePermissions ledger 5 51 41).map PermissionEntity.code =
    ["ledger.read", "ledger.close"] := by decide

end Example
end GenericIam.PermissionAlgebra
