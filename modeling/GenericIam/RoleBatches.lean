import GenericIam.Batches
import GenericIam.TenantWrites

/-! What the roles of a user are after an update of them that adds some and removes some. -/

namespace GenericIam.RoleBatches
open Table Database Identifiers Transaction Handlers
open RbacServices EffectivePermissions TenantWrites Batches

variable {Id : Type} [Identifier Id]

def slot (userId tenantId : Uuid) (ur : UserRoleEntity) : Option Uuid :=
  if ur.userId = userId ∧ ur.tenantId = tenantId then some ur.roleId else none

theorem slot_eq_some {userId tenantId roleId : Uuid} {ur : UserRoleEntity} :
    slot userId tenantId ur = some roleId ↔ ur.userId = userId ∧ ur.tenantId = tenantId ∧
      ur.roleId = roleId := by
  simp [slot, and_assoc]

/-- The assignment of the role to the user has been renewed, or one has been created. -/
def Saved (before after : Table UserRoleEntity) (userId tenantId roleId : Uuid)
    (expiresAt : Option Time) : Prop :=
  (∃ existing ∈ before, slot userId tenantId existing = some roleId ∧
    ∀ ur, ur ∈ after ↔ (ur ∈ before ∧ ur.id ≠ existing.id) ∨ ur = { existing with expiresAt }) ∨
  (∀ ur ∈ before, slot userId tenantId ur ≠ some roleId) ∧ ∃ id, ∀ ur, ur ∈ after ↔ ur ∈ before ∨
    ur = ⟨id, tenantId, userId, roleId, expiresAt⟩

section Steps
variable {before after : Table UserRoleEntity} {userId tenantId roleId : Uuid} {expiresAt : Option Time}

/-- Where there is one assignment of a role at most, the id is as good as the role. -/
theorem other_iff (single : Single (slot userId tenantId) (· ∈ before))
    {existing ur : UserRoleEntity} (member : existing ∈ before)
    (own : slot userId tenantId existing = some roleId) (old : ur ∈ before) :
    ur.id ≠ existing.id ↔ slot userId tenantId ur ≠ some roleId := by
  constructor
  · intro other here
    exact other (congrArg UserRoleEntity.id (single old member here own))
  · intro other same
    rw [eq_of_key_eq old member same] at other
    exact other own

theorem Saved.sets (saved : Saved before after userId tenantId roleId expiresAt)
    (single : Single (slot userId tenantId) (· ∈ before)) :
    Sets (slot userId tenantId) UserRoleEntity.expiresAt (· ∈ before) roleId
      (some expiresAt) (· ∈ after) := by
  rcases saved with ⟨existing, member, own, rows⟩ | ⟨absent, id, rows⟩
  · have renewed : slot userId tenantId { existing with expiresAt } = some roleId := own
    exact Sets.put renewed fun ur =>
      (rows ur).trans (or_congr_left (and_congr_right (other_iff single member own)))
  · have created : slot userId tenantId ⟨id, tenantId, userId, roleId, expiresAt⟩ = some roleId :=
      slot_eq_some.mpr ⟨rfl, rfl, rfl⟩
    refine Sets.put created fun ur => (rows ur).trans (or_congr_left ?_)
    exact ⟨fun old => ⟨old, absent ur old⟩, fun both => both.1⟩

def Removed (before after : Table UserRoleEntity) (userId tenantId roleId : Uuid) : Prop :=
  (∃ existing ∈ before, slot userId tenantId existing = some roleId ∧ ∀ ur, ur ∈ after ↔ ur ∈ before ∧
    ur.id ≠ existing.id) ∨
  (∀ ur ∈ before, slot userId tenantId ur ≠ some roleId) ∧ after = before

theorem Removed.sets (removed : Removed before after userId tenantId roleId)
    (single : Single (slot userId tenantId) (· ∈ before)) :
    Sets (slot userId tenantId) UserRoleEntity.expiresAt (· ∈ before) roleId none (· ∈ after) := by
  apply Sets.drop
  intro ur
  rcases removed with ⟨existing, member, own, rows⟩ | ⟨absent, rfl⟩
  · exact (rows ur).trans (and_congr_right (other_iff single member own))
  · exact ⟨fun old => ⟨old, absent ur old⟩, fun both => both.1⟩

end Steps

/-! The handlers. -/

section Handlers
variable {tenantId : Id} {ids : Nat → Uuid} {tx : Tx (effects Id) Db}

theorem returns_saveAssignment (userId : Id) (dto : AssignRoleDto Id)
    {post : UserRoleEntity → Tx (effects Id) Db → Prop}
    (done : ∀ row after,
      Saved tx.db.userRoles after.db.userRoles (value userId) (value tenantId)
      (value dto.roleId) dto.expiresAt →
      after.db.users = tx.db.users → post row after) :
    Returns tenantId ids (saveAssignment userId tenantId dto) post tx := by
  unfold saveAssignment findAssignment
  simp only [Returns, wp_bind, wp_visible, wp_pure]
  split
  · next existing found =>
    obtain ⟨visible, matched⟩ := findOne_some found
    simp only [Bool.and_eq_true, beq_iff_eq] at matched
    obtain ⟨member, shown⟩ := mem_seen_userRoles.mp visible
    have own : slot (value userId) (value tenantId) existing = some (value dto.roleId) :=
      slot_eq_some.mpr ⟨matched.1.1, matched.2, matched.1.2⟩
    unfold renewAssignment
    simp only [wp_bind, wp_visible]
    split
    · rw [wp_bind]
      refine wp_persist trivial ?_ trivial
      intro db applied
      cases applied
      refine done _ _ (.inl ⟨existing, member, own, ?_⟩) rfl
      intro ur
      simp only [Db.updateUserRole]
      refine mem_modify_one _ member (by simp [Session.admits, matched.2]) ?_
      intro other _ hit
      simp only [Bool.and_eq_true, beq_iff_eq] at hit
      exact hit.1
    · next missing =>
      refine absurd ?_ missing
      exact any_iff.mpr ⟨existing, visible, by simp⟩
  · next missing =>
    simp only [wp_bind, wp_newId]
    refine wp_persist trivial ?_ trivial
    intro db applied
    obtain ⟨userRoles, inserted, rfl⟩ := insertUserRole_some applied
    refine done _ _ (.inr ⟨?_, ids tx.generated, fun ur => mem_insert inserted⟩) rfl
    intro ur present here
    obtain ⟨user, tenant, role⟩ := slot_eq_some.mp here
    have absent := findOne_none.mp missing ur (mem_seen_userRoles.mpr ⟨present, by simp [tenant]⟩)
    simp [user, tenant, role] at absent

theorem returns_removeRole (userId actorId roleId : Id) {post : Unit → Tx (effects Id) Db → Prop}
    (done : ∀ after,
      Removed tx.db.userRoles after.db.userRoles (value userId) (value tenantId)
      (value roleId) → post () after) :
    Returns tenantId ids (removeRole userId tenantId actorId roleId) post tx := by
  unfold removeRole findAssignment
  simp only [Returns, wp_bind, wp_visible, wp_pure]
  split
  · next missing =>
    refine done _ (.inr ⟨?_, rfl⟩)
    intro ur present here
    obtain ⟨user, tenant, role⟩ := slot_eq_some.mp here
    have absent := findOne_none.mp missing ur (mem_seen_userRoles.mpr ⟨present, by simp [tenant]⟩)
    simp [user, tenant, role] at absent
  · next existing found =>
    obtain ⟨visible, matched⟩ := findOne_some found
    simp only [Bool.and_eq_true, beq_iff_eq] at matched
    have own : slot (value userId) (value tenantId) existing = some (value roleId) :=
      slot_eq_some.mpr ⟨matched.1.1, matched.2, matched.1.2⟩
    rw [wp_bind]
    refine wp_persist trivial ?_ trivial
    intro db applied
    cases applied
    refine done _ (.inl ⟨existing, (mem_seen_userRoles.mp visible).1, own, ?_⟩)
    intro ur
    simp only [Db.deleteUserRole, mem_select, Bool.not_eq_true', Bool.and_eq_false_iff,
      beq_eq_false_iff_ne]
    refine and_congr_right fun old => ⟨fun either same => ?_, .inl⟩
    rcases either with other | hidden
    · exact other same
    · rw [eq_of_key_eq old (mem_seen_userRoles.mp visible).1 same] at hidden
      simp [Session.admits, matched.2] at hidden

def additions (add : List (AssignRoleDto Id)) : List (Uuid × Option (Option Time)) :=
  add.map fun item => (value item.roleId, some item.expiresAt)

def removals (remove : List Id) : List (Uuid × Option (Option Time)) :=
  remove.map fun roleId => (value roleId, none)

def Updated (before : Table UserRoleEntity) (userId tenantId : Uuid)
    (changes : List (Uuid × Option (Option Time))) (after : Table UserRoleEntity) : Prop :=
  Batch (slot userId tenantId) UserRoleEntity.expiresAt (· ∈ before) changes (· ∈ after)

theorem returns_updateUserRoles (userId actorId : Id) (dto : UpdateUserRolesDto Id)
    (single : Single (slot (value userId) (value tenantId)) (· ∈ tx.db.userRoles)) :
    Returns tenantId ids (updateUserRoles userId tenantId dto actorId) (fun _ after =>
      Updated tx.db.userRoles (value userId) (value tenantId)
        (additions dto.add ++ removals dto.remove) after.db.userRoles) tx := by
  unfold updateUserRoles requireUser
  simp only [Returns, wp_bind, wp_visible]
  refine wp_orThrow ?_ fun _ => trivial
  intro user _
  rw [wp_bind]
  refine @wp_forEach_done _ _ _ _ _ _ _ _ (fun done (during : Tx (effects Id) Db) =>
    Updated tx.db.userRoles (value userId) (value tenantId) (additions done) during.db.userRoles) _ _ _
      (Batch.start single) ?_ ?_
  · intro done item rest _ during batch
    unfold addRole
    rw [wp_bind]
    apply returns_findOneForTenant
    intro role _ _ _
    rw [wp_bind]
    apply returns_saveAssignment
    intro row after saved _
    have next := batch.next (saved.sets batch.single)
    simp only [Updated, additions, List.map_append, List.map_cons, List.map_nil]
    exact next
  · intro added batch
    rw [wp_bind]
    refine @wp_forEach_done _ _ _ _ _ _ _ _ (fun done (during : Tx (effects Id) Db) =>
      Updated tx.db.userRoles (value userId) (value tenantId)
        (additions dto.add ++ removals done) during.db.userRoles) _ _ _ ?_ ?_ ?_
    · simp only [removals, List.map_nil, List.append_nil]
      exact batch
    · intro done roleId rest _ during batch
      apply returns_removeRole
      intro after removed
      have next := batch.next (removed.sets batch.single)
      simp only [removals, List.map_append, List.map_cons, List.map_nil, ← List.append_assoc]
      exact next
    · intro after batch
      exact batch

end Handlers

/-! A whole update. -/

def lastExpiry (add : List (AssignRoleDto Id)) (roleId : Uuid) : Option (Option Time) :=
  last (add.map fun item => (value item.roleId, item.expiresAt)) roleId

/-- Removals decide before additions do. -/
theorem last_changes (add : List (AssignRoleDto Id)) (remove : List Id) (roleId : Uuid) :
    last (additions add ++ removals remove) roleId =
      if ∃ id ∈ remove, value id = roleId then some none else (lastExpiry add roleId).map some := by
  have given : last (additions add) roleId = (lastExpiry add roleId).map some := by
    have pairs : additions add =
        (add.map fun item => (value item.roleId, item.expiresAt)).map fun pair =>
        (pair.1, some pair.2) := by
      simp [additions]
    rw [pairs, last_map]
    rfl
  rw [last_append, removals, last_map_const, given]
  split <;> simp

def expiryAfter (db : Db) (userId tenantId : Id) (dto : UpdateUserRolesDto Id) (roleId : Uuid) :
    Option (Option Time) :=
  if ∃ id ∈ dto.remove, value id = roleId then none
  else (lastExpiry dto.add roleId).or
    ((db.userRoles.findOne fun ur => slot (value userId) (value tenantId) ur == some roleId).map
      UserRoleEntity.expiresAt)

section Update
variable {db : Db} {tenantId userId actorId : Id} {ids : Nat → Uuid} {dto : UpdateUserRolesDto Id}

theorem held_iff (single : Single (slot (value userId) (value tenantId)) (· ∈ db.userRoles))
    (roleId : Uuid) (expiry : Option Time) :
    (db.userRoles.findOne fun ur => slot (value userId) (value tenantId) ur == some roleId).map
      UserRoleEntity.expiresAt = some expiry ↔
      ∃ ur ∈ db.userRoles, slot (value userId) (value tenantId) ur = some roleId ∧
        ur.expiresAt = expiry := by
  rw [Option.map_eq_some_iff]
  constructor
  · intro holds
    obtain ⟨ur, found, same⟩ := holds
    obtain ⟨member, own⟩ := findOne_some found
    exact ⟨ur, member, by simpa using own, same⟩
  · intro holds
    obtain ⟨ur, member, own, same⟩ := holds
    have hit : (slot (value userId) (value tenantId) ur == some roleId) = true := by simpa using own
    cases found : db.userRoles.findOne fun ur =>
        slot (value userId) (value tenantId) ur == some roleId with
    | none =>
      have missed := findOne_none.mp found ur member
      rw [hit] at missed
      cases missed
    | some other =>
      obtain ⟨there, here⟩ := findOne_some found
      exact ⟨other, rfl, by rw [single there member (by simpa using here) own]; exact same⟩

theorem updated_holds_iff {after : Table UserRoleEntity}
    (single : Single (slot (value userId) (value tenantId)) (· ∈ db.userRoles))
    (batch : Updated db.userRoles (value userId) (value tenantId)
      (additions dto.add ++ removals dto.remove) after)
    (roleId : Uuid) (expiry : Option Time) :
    (∃ ur ∈ after, slot (value userId) (value tenantId) ur = some roleId ∧ ur.expiresAt = expiry) ↔
      expiryAfter db userId tenantId dto roleId = some expiry := by
  have found := batch.found_iff roleId expiry
  rw [last_changes] at found
  refine found.trans ?_
  unfold expiryAfter
  split
  · simp
  · cases given : lastExpiry dto.add roleId with
    | none => simpa using (held_iff single roleId expiry).symm
    | some expiresAt => simp

theorem activeAt_iff {now : Time} {ur : UserRoleEntity} :
    activeAt now ur = true ↔ ∀ expiresAt, ur.expiresAt = some expiresAt → now < expiresAt := by
  unfold activeAt
  cases ur.expiresAt <;> simp

/-- Each role is returned once. -/
theorem roleIds_nodup {after : Db} {user tenant : Uuid}
    (single : Single (slot user tenant) (· ∈ after.userRoles)) (now : Time) :
    ((getUserRoles after now user tenant).map UserRoleEntity.roleId).Nodup := by
  have rows : after.userRoles.rows.Nodup := List.Nodup.of_map _ after.userRoles.distinct
  refine List.Nodup.map_on ?_ (rows.filter _)
  intro first left second right same
  obtain ⟨present, own, home, _⟩ := mem_getUserRoles.mp left
  obtain ⟨there, own', home', _⟩ := mem_getUserRoles.mp right
  exact single present there (slot_eq_some.mpr ⟨own, home, rfl⟩)
    (slot_eq_some.mpr ⟨own', home', same.symm⟩)

theorem returned_iff {after : Db} {user tenant : Uuid} {now : Time} {roleId : Uuid}
    {expiry : Option Time} :
    (∃ ur ∈ getUserRoles after now user tenant, ur.roleId = roleId ∧ ur.expiresAt = expiry) ↔
      (∃ ur ∈ after.userRoles, slot user tenant ur = some roleId ∧ ur.expiresAt = expiry) ∧
        ∀ expiresAt, expiry = some expiresAt → now < expiresAt := by
  constructor
  · intro holds
    obtain ⟨ur, member, role, expires⟩ := holds
    obtain ⟨present, own, home, active⟩ := mem_getUserRoles.mp member
    exact ⟨⟨ur, present, slot_eq_some.mpr ⟨own, home, role⟩,
      expires⟩, by rw [← expires]; exact activeAt_iff.mp active⟩
  · intro holds
    obtain ⟨⟨ur, present, held, expires⟩, active⟩ := holds
    obtain ⟨own, home, role⟩ := slot_eq_some.mp held
    exact ⟨ur,
      mem_getUserRoles.mpr ⟨present, own, home, activeAt_iff.mpr (by rw [expires]; exact active)⟩, role,
      expires⟩

/-- The lists do not mention the role. -/
theorem last_unmentioned {roleId : Uuid} (unadded : ∀ item ∈ dto.add, value item.roleId ≠ roleId)
    (unremoved : ∀ id ∈ dto.remove, value id ≠ roleId) :
    last (additions dto.add ++ removals dto.remove) roleId = none := by
  have absent : lastExpiry dto.add roleId = none := by
    rw [lastExpiry, last_eq_none]
    intro change member
    obtain ⟨item, here, rfl⟩ := List.mem_map.mp member
    exact unadded item here
  rw [last_changes, if_neg fun removed =>
    unremoved removed.choose removed.choose_spec.1 removed.choose_spec.2, absent]
  rfl

theorem last_added {roleId : Uuid} {expiry : Option Time}
    (kept : ∀ id ∈ dto.remove, value id ≠ roleId)
    (given : lastExpiry dto.add roleId = some expiry) :
    last (additions dto.add ++ removals dto.remove) roleId = some (some expiry) := by
  rw [last_changes, if_neg fun removed =>
    kept removed.choose removed.choose_spec.1 removed.choose_spec.2, given]
  rfl

/-- A successful update run alone: the roles to remove are gone, each other role to add is there
once with the expiry of its last mention, and no other assignment is touched; of all these the
active ones are returned. -/
theorem updateUserRoles_last_wins
    (single : Single (slot (value userId) (value tenantId)) (· ∈ db.userRoles))
    (done : (serve (engine Id (.tenantUser (value tenantId))) ids
      (updateUserRoles userId tenantId dto actorId) db).result = .ok ()) :
    let after :=
      (serve (engine Id (.tenantUser (value tenantId))) ids
      (updateUserRoles userId tenantId dto actorId) db).db
    (∀ roleId ∈ dto.remove, ∀ ur ∈ after.userRoles,
      slot (value userId) (value tenantId) ur ≠ some (value roleId)) ∧
    (∀ roleId expiry, (∀ id ∈ dto.remove, value id ≠ roleId) → lastExpiry dto.add roleId = some expiry →
      ∃ ur ∈ after.userRoles, slot (value userId) (value tenantId) ur = some roleId ∧
        ur.expiresAt = expiry ∧
        ∀ other ∈ after.userRoles, slot (value userId) (value tenantId) other = some roleId → other = ur) ∧
    (∀ ur, (∀ roleId, slot (value userId) (value tenantId) ur = some roleId →
        (∀ item ∈ dto.add, value item.roleId ≠ roleId) ∧ ∀ id ∈ dto.remove, value id ≠ roleId) →
      (ur ∈ after.userRoles ↔ ur ∈ db.userRoles)) ∧
    ∀ now, ((getUserRoles after now (value userId) (value tenantId)).map UserRoleEntity.roleId).Nodup ∧
      ∀ roleId expiry,
        (∃ ur ∈ getUserRoles after now (value userId) (value tenantId), ur.roleId = roleId ∧
        ur.expiresAt = expiry) ↔
        expiryAfter db userId tenantId dto roleId = some expiry ∧ ∀ expiresAt, expiry = some expiresAt →
            now < expiresAt := by
  intro after
  have returns : Returns tenantId ids (updateUserRoles userId tenantId dto actorId) (fun _ after =>
      Updated db.userRoles (value userId) (value tenantId)
        (additions dto.add ++ removals dto.remove) after.db.userRoles) { db } :=
    returns_updateUserRoles userId actorId dto single
  have ended := serve_post returns
  rw [done] at ended
  have batch : Updated db.userRoles (value userId) (value tenantId)
      (additions dto.add ++ removals dto.remove) after.userRoles := by
    have same : after =
      (serve (engine Id (.tenantUser (value tenantId))) ids
      (updateUserRoles userId tenantId dto actorId) db).tx.db := ended.2
    rw [same]
    exact ended.1
  refine ⟨?_, ?_, ?_, ?_⟩
  · intro roleId member ur present
    refine batch.emptied ?_ present
    rw [last_changes, if_pos ⟨roleId, member, rfl⟩]
  · intro roleId expiry kept given
    obtain ⟨ur, present, own, holds⟩ := batch.filled (last_added kept given)
    exact ⟨ur, present, own, holds, fun other there here => batch.single there present here own⟩
  · intro ur untouched
    refine batch.others fun roleId own => ?_
    obtain ⟨unadded, unremoved⟩ := untouched roleId own
    exact last_unmentioned unadded unremoved
  · intro now
    refine ⟨roleIds_nodup batch.single now, fun roleId expiry => ?_⟩
    rw [← updated_holds_iff single batch]
    exact returned_iff

end Update

/-! Ann, whose roles are all changed in one update. -/

section Example

def clinic : Db where
  tenants := ⟨[⟨1, "Acme", "acme", true, none⟩], by decide⟩
  users := ⟨[⟨5, 1, "ann@acme.io", "pass", "Ann", "Lee", true, none⟩], by decide⟩
  roles := ⟨[{ id := 21, tenantId := some 1, name := "Clerk" },
    { id := 22, tenantId := none, name := "Employee", isSystem := true },
    { id := 23, tenantId := some 1, name := "Nurse" }], by decide⟩
  userRoles := ⟨[⟨31, 1, 5, 21, some 9⟩, ⟨32, 1, 5, 23, none⟩], by decide⟩

def rotation : UpdateUserRolesDto Uuid where
  add := [⟨22, some 3⟩, ⟨21, some 5⟩, ⟨22, none⟩, ⟨23, some 8⟩]
  remove := [23]

theorem clinic_single : Single (slot 5 1) (· ∈ clinic.userRoles) := by
  have distinct : ∀ first ∈ clinic.userRoles, ∀ second ∈ clinic.userRoles,
    slot 5 1 first = slot 5 1 second → first = second := by decide
  intro roleId first second left right own own'
  exact distinct first left second right (own.trans own'.symm)

/-- The last expiry of the repeated role is the one that counts. -/
theorem rotation_last_wins : ∃ ur ∈ getUserRoles
    (serve (engine Uuid (.tenantUser 1)) (fun index => BitVec.ofNat 128 (41 + index))
      (updateUserRoles 5 1 rotation 9) clinic).db 4 5 1,
      ur.roleId = 22 ∧ ur.expiresAt = none := by
  have done :
    (serve (engine Uuid (.tenantUser 1)) (fun index => BitVec.ofNat 128 (41 + index))
    (updateUserRoles 5 1 rotation 9) clinic).result =
      .ok () := by decide
  exact (((updateUserRoles_last_wins clinic_single done).2.2.2 4).2 22 none).mpr ⟨by decide,
    fun _ impossible => nomatch impossible⟩

end Example
end GenericIam.RoleBatches
