import GenericIam.Database
import GenericIam.PermissionMatcher

/-! The effective permission set of a user in a tenant, and what it depends on. -/

namespace GenericIam.EffectivePermissions
open Table Database PermissionMatcher

/-- `Map.set`: an old key keeps its place, a new one goes to the end. -/
def setEntry {Key Value : Type} [BEq Key] (entries : List (Key × Value)) (key : Key) (value : Value) :
    List (Key × Value) :=
  if entries.any fun entry => entry.1 == key then
    entries.map fun entry => if entry.1 == key then (key, value) else entry
  else entries ++ [(key, value)]

theorem mem_setEntry {Key Value : Type} [BEq Key] [LawfulBEq Key] {entries : List (Key × Value)}
    {key : Key} {value : Value} {entry : Key × Value} :
    entry ∈ setEntry entries key value ↔ (entry ∈ entries ∧ entry.1 ≠ key) ∨ entry = (key, value) := by
  unfold setEntry
  split
  next held =>
    simp only [List.any_eq_true, beq_iff_eq] at held
    obtain ⟨old, member, same⟩ := held
    rw [List.mem_map]
    constructor
    · intro holds
      obtain ⟨first, present, rfl⟩ := holds
      by_cases hit : (first.1 == key) = true
      · rw [if_pos hit]
        exact .inr rfl
      · rw [if_neg hit]
        exact .inl ⟨present, by simpa using hit⟩
    · intro holds
      rcases holds with ⟨present, differ⟩ | rfl
      · exact ⟨entry, present, if_neg (by simpa using differ)⟩
      · exact ⟨old, member, if_pos (by simpa using same)⟩
  next absent =>
    simp only [List.any_eq_true, beq_iff_eq, not_exists, not_and] at absent
    simp only [List.mem_append, List.mem_singleton]
    constructor
    · intro holds
      rcases holds with present | rfl
      · exact .inl ⟨present, absent _ present⟩
      · exact .inr rfl
    · intro holds
      rcases holds with ⟨present, _⟩ | rfl
      · exact .inl present
      · exact .inr rfl

section AssignmentService

def activeAt (now : Time) (row : UserRoleEntity) : Bool :=
  match row.expiresAt with
  | none => true
  | some expiresAt => decide (now < expiresAt)

def getUserRoles (db : Db) (now : Time) (userId tenantId : Uuid) : List UserRoleEntity :=
  db.userRoles.find fun ur => ur.userId == userId && ur.tenantId == tenantId && activeAt now ur

end AssignmentService

section OverrideService

def getOverridesForUser (db : Db) (userId tenantId : Uuid) : List UserPermissionOverrideEntity :=
  db.userPermissionOverrides.find fun o => o.userId == userId && o.tenantId == tenantId

def overridePermission (db : Db) (o : UserPermissionOverrideEntity) : Option PermissionEntity :=
  db.permissions.findOne fun p => p.id == o.permissionId

def rolePermissionsOf (db : Db) (roleIds : List Uuid) : List PermissionEntity :=
  if roleIds.length > 0 then
    db.permissions.find fun p =>
      db.rolePermissions.any fun rp => rp.permissionId == p.id && roleIds.contains rp.roleId
  else []

def combine (rolePermissions grantOverrides : List PermissionEntity) (denyOverrideIds : List Uuid) :
    List PermissionEntity :=
  let allGranted := rolePermissions ++ grantOverrides
  let effective := allGranted.foldl
    (fun map p => if denyOverrideIds.contains p.id then map else setEntry map p.id p) []
  effective.map Prod.snd

def grantsOf (db : Db) (overrides : List UserPermissionOverrideEntity) : List PermissionEntity :=
  (overrides.filter fun o => o.overrideType == .grant).filterMap (overridePermission db)

def denyIdsOf (overrides : List UserPermissionOverrideEntity) : List Uuid :=
  (overrides.filter fun o => o.overrideType == .deny).map (·.permissionId)

def getEffectivePermissions (db : Db) (now : Time) (userId tenantId : Uuid) : List PermissionEntity :=
  let activeRoles := getUserRoles db now userId tenantId
  let roleIds := activeRoles.map (·.roleId)
  let rolePermissions := rolePermissionsOf db roleIds
  let overrides := getOverridesForUser db userId tenantId
  combine rolePermissions (grantsOf db overrides) (denyIdsOf overrides)

end OverrideService

def effectiveCodes (db : Db) (now : Time) (userId tenantId : Uuid) : List String :=
  ((getEffectivePermissions db now userId tenantId).map (·.code)).eraseDups

/-! What the computation reads, row by row. -/

def RoleGrants (db : Db) (now : Time) (userId tenantId : Uuid) (p : PermissionEntity) : Prop :=
  ∃ ur ∈ db.userRoles, (ur.userId = userId ∧ ur.tenantId = tenantId ∧ activeAt now ur = true) ∧
    ∃ rp ∈ db.rolePermissions, rp.permissionId = p.id ∧ rp.roleId = ur.roleId

def Overrides (db : Db) (overrideType : OverrideType) (userId tenantId : Uuid)
    (p : PermissionEntity) : Prop :=
  ∃ o ∈ db.userPermissionOverrides,
    o.userId = userId ∧ o.tenantId = tenantId ∧ o.overrideType = overrideType ∧ o.permissionId = p.id

theorem mem_getUserRoles {db : Db} {now : Time} {userId tenantId : Uuid} {ur : UserRoleEntity} :
    ur ∈ getUserRoles db now userId tenantId ↔
      ur ∈ db.userRoles ∧ ur.userId = userId ∧ ur.tenantId = tenantId ∧ activeAt now ur = true := by
  simp only [getUserRoles, mem_find, Bool.and_eq_true, beq_iff_eq, and_assoc]

theorem mem_rolePermissionsOf {db : Db} {roleIds : List Uuid} {p : PermissionEntity} :
    p ∈ rolePermissionsOf db roleIds ↔
      p ∈ db.permissions ∧ ∃ rp ∈ db.rolePermissions, rp.permissionId = p.id ∧ rp.roleId ∈ roleIds := by
  unfold rolePermissionsOf
  split
  · simp only [mem_find, any_iff, Bool.and_eq_true, beq_iff_eq, List.contains_iff_mem]
  next empty =>
    have nothing : roleIds = [] := List.eq_nil_of_length_eq_zero (by omega)
    simp [nothing]

theorem overridePermission_some {db : Db} {o : UserPermissionOverrideEntity} {p : PermissionEntity} :
    overridePermission db o = some p ↔ p ∈ db.permissions ∧ p.id = o.permissionId := by
  constructor
  · intro found
    obtain ⟨member, matched⟩ := findOne_some found
    exact ⟨member, by simpa using matched⟩
  · intro holds
    obtain ⟨member, same⟩ := holds
    cases found : overridePermission db o with
    | none => exact absurd (findOne_none.mp found p member) (by simp [same])
    | some other =>
      obtain ⟨present, matched⟩ := findOne_some found
      have keys : other.id = p.id := by rw [same]; simpa using matched
      rw [eq_of_key_eq present member keys]

theorem mem_grantsOf {db : Db} {userId tenantId : Uuid} {p : PermissionEntity} :
    p ∈ grantsOf db (getOverridesForUser db userId tenantId) ↔
      p ∈ db.permissions ∧ Overrides db .grant userId tenantId p := by
  simp only [grantsOf, List.mem_filterMap, List.mem_filter, getOverridesForUser, mem_find,
    Bool.and_eq_true, beq_iff_eq, overridePermission_some, Overrides]
  constructor
  · intro holds
    obtain ⟨o, ⟨⟨member, user, tenant⟩, type⟩, present, same⟩ := holds
    exact ⟨present, o, member, user, tenant, type, same.symm⟩
  · intro holds
    obtain ⟨present, o, member, user, tenant, type, same⟩ := holds
    exact ⟨o, ⟨⟨member, user, tenant⟩, type⟩, present, same.symm⟩

theorem mem_denyIdsOf {db : Db} {userId tenantId : Uuid} {p : PermissionEntity} :
    p.id ∈ denyIdsOf (getOverridesForUser db userId tenantId) ↔
      Overrides db .deny userId tenantId p := by
  simp only [denyIdsOf, List.mem_map, List.mem_filter, getOverridesForUser, mem_find, Bool.and_eq_true,
    beq_iff_eq, Overrides]
  constructor
  · intro holds
    obtain ⟨o, ⟨⟨member, user, tenant⟩, type⟩, same⟩ := holds
    exact ⟨o, member, user, tenant, type, same⟩
  · intro holds
    obtain ⟨o, member, user, tenant, type, same⟩ := holds
    exact ⟨o, ⟨⟨member, user, tenant⟩, type⟩, same⟩

/-- The fold keeps exactly the rows that are not denied, as long as an id stands
for one row; the invariant carries the entries collected so far. -/
theorem mem_fold {denied : List Uuid} (granted : List PermissionEntity)
    (map : List (Uuid × PermissionEntity)) (keyed : ∀ entry ∈ map, entry.1 = entry.2.id)
    (single : ∀ p, (p ∈ granted ∨ p ∈ map.map Prod.snd) → ∀ q, (q ∈ granted ∨ q ∈ map.map Prod.snd) →
      p.id = q.id → p = q) (p : PermissionEntity) :
    p ∈ (granted.foldl (fun map p => if denied.contains p.id then map else setEntry map p.id p) map).map
        Prod.snd ↔
      (p ∈ granted ∧ p.id ∉ denied) ∨ p ∈ map.map Prod.snd := by
  induction granted generalizing map with
  | nil => simp
  | cons head tail ih =>
    rw [List.foldl_cons]
    by_cases out : denied.contains head.id = true
    · rw [if_pos out, ih map keyed]
      · have removed : head.id ∈ denied := by simpa using out
        simp only [List.mem_cons]
        constructor
        · intro holds
          rcases holds with ⟨member, kept⟩ | old
          · exact .inl ⟨.inr member, kept⟩
          · exact .inr old
        · intro holds
          rcases holds with ⟨rfl | member, kept⟩ | old
          · exact absurd removed kept
          · exact .inl ⟨member, kept⟩
          · exact .inr old
      · intro first firstMember second secondMember
        exact single first (firstMember.imp_left (List.mem_cons_of_mem _)) second
          (secondMember.imp_left (List.mem_cons_of_mem _))
    · have kept : head.id ∉ denied := by simpa using out
      have entries : ∀ q, q ∈ (setEntry map head.id head).map Prod.snd ↔
          q ∈ map.map Prod.snd ∨ q = head := by
        intro q
        simp only [List.mem_map, mem_setEntry]
        constructor
        · intro holds
          obtain ⟨entry, ⟨member, _⟩ | rfl, rfl⟩ := holds
          · exact .inl ⟨entry, member, rfl⟩
          · exact .inr rfl
        · intro holds
          rcases holds with ⟨entry, member, rfl⟩ | rfl
          · by_cases hit : entry.1 = head.id
            · have same : entry.2 = head := single _ (.inr (List.mem_map_of_mem member)) _
                (.inl List.mem_cons_self) (by rw [← keyed entry member, hit])
              exact ⟨(head.id, head), .inr rfl, same.symm⟩
            · exact ⟨entry, .inl ⟨member, hit⟩, rfl⟩
          · exact ⟨_, .inr rfl, rfl⟩
      rw [if_neg out, ih]
      · rw [entries]
        simp only [List.mem_cons]
        constructor
        · intro holds
          rcases holds with ⟨member, survives⟩ | old | rfl
          · exact .inl ⟨.inr member, survives⟩
          · exact .inr old
          · exact .inl ⟨.inl rfl, kept⟩
        · intro holds
          rcases holds with ⟨rfl | member, survives⟩ | old
          · exact .inr (.inr rfl)
          · exact .inl ⟨member, survives⟩
          · exact .inr (.inl old)
      · intro entry member
        rcases mem_setEntry.mp member with ⟨present, _⟩ | rfl
        · exact keyed entry present
        · rfl
      · intro first firstMember second secondMember
        have lift : ∀ q, (q ∈ tail ∨ q ∈ (setEntry map head.id head).map Prod.snd) →
            (q ∈ head :: tail ∨ q ∈ map.map Prod.snd) := by
          intro q holds
          rcases holds with member | member
          · exact .inl (List.mem_cons_of_mem _ member)
          · rcases (entries q).mp member with old | rfl
            · exact .inr old
            · exact .inl List.mem_cons_self
        exact single first (lift first firstMember) second (lift second secondMember)

theorem mem_combine {db : Db} {rolePermissions grantOverrides : List PermissionEntity}
    {denyOverrideIds : List Uuid}
    (known : ∀ p ∈ rolePermissions ++ grantOverrides, p ∈ db.permissions) {p : PermissionEntity} :
    p ∈ combine rolePermissions grantOverrides denyOverrideIds ↔
      (p ∈ rolePermissions ∨ p ∈ grantOverrides) ∧ p.id ∉ denyOverrideIds := by
  rw [combine, mem_fold _ [] (by simp)]
  · simp
  · intro first firstMember second secondMember
    have present : ∀ q,
      (q ∈ rolePermissions ++ grantOverrides ∨ q ∈ ([] : List (Uuid × PermissionEntity)).map Prod.snd) →
        q ∈ db.permissions := by
      intro q member
      exact known q (by simpa using member)
    exact eq_of_key_eq (present first firstMember) (present second secondMember)

theorem mem_activeRolePermissions {db : Db} {now : Time} {userId tenantId : Uuid}
    {p : PermissionEntity} :
    p ∈ rolePermissionsOf db ((getUserRoles db now userId tenantId).map (·.roleId)) ↔
      p ∈ db.permissions ∧ RoleGrants db now userId tenantId p := by
  simp only [mem_rolePermissionsOf, List.mem_map, mem_getUserRoles, RoleGrants]
  refine and_congr_right fun _ => ⟨?_, ?_⟩
  · intro holds
    obtain ⟨rp, mapped, permission, ur, ⟨assigned, active⟩, role⟩ := holds
    exact ⟨ur, assigned, active, rp, mapped, permission, role.symm⟩
  · intro holds
    obtain ⟨ur, assigned, active, rp, mapped, permission, role⟩ := holds
    exact ⟨rp, mapped, permission, ur, ⟨assigned, active⟩, role.symm⟩

/-- A permission is effective when a role or a grant gives it and no denial names
its own id. Nothing else about the denied codes matters. -/
theorem mem_getEffectivePermissions {db : Db} {now : Time} {userId tenantId : Uuid}
    {p : PermissionEntity} :
    p ∈ getEffectivePermissions db now userId tenantId ↔
      p ∈ db.permissions ∧
        (RoleGrants db now userId tenantId p ∨ Overrides db .grant userId tenantId p) ∧
        ¬Overrides db .deny userId tenantId p := by
  have known : ∀ q ∈ rolePermissionsOf db ((getUserRoles db now userId tenantId).map (·.roleId)) ++
      grantsOf db (getOverridesForUser db userId tenantId), q ∈ db.permissions := by
    intro q member
    rcases List.mem_append.mp member with role | grant
    · exact (mem_activeRolePermissions.mp role).1
    · exact (mem_grantsOf.mp grant).1
  simp only [getEffectivePermissions]
  rw [mem_combine known, mem_activeRolePermissions, mem_grantsOf,
    mem_denyIdsOf, ← and_or_left, and_assoc]

theorem mem_effectiveCodes {db : Db} {now : Time} {userId tenantId : Uuid} {code : String} :
    code ∈ effectiveCodes db now userId tenantId ↔
      ∃ p ∈ db.permissions,
        (RoleGrants db now userId tenantId p ∨ Overrides db .grant userId tenantId p) ∧
        ¬Overrides db .deny userId tenantId p ∧ p.code = code := by
  simp only [effectiveCodes, List.mem_eraseDups, List.mem_map, mem_getEffectivePermissions]
  constructor
  · intro holds
    obtain ⟨p, ⟨member, granted, free⟩, same⟩ := holds
    exact ⟨p, member, granted, free, same⟩
  · intro holds
    obtain ⟨p, member, granted, free, same⟩ := holds
    exact ⟨p, ⟨member, granted, free⟩, same⟩

end GenericIam.EffectivePermissions
