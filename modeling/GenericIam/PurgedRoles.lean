import GenericIam.Controllers
import GenericIam.HeldRoles
import GenericIam.Reactivation
import GenericIam.SuperAdminRequests
import GenericIam.Runs
import Mathlib.Data.Finset.Dedup

/-! The purge of expired assignments, which no reader of roles and permissions notices: a run
with purges and the same run without them. -/

namespace GenericIam.PurgedRoles
open Table Database Identifiers EffectivePermissions Transaction
open Handlers RbacServices Controllers SuperAdminRequests HeldRoles Runs

/-! Requests that neither read nor change assignments. -/

section Apart
variable {Id α : Type} [Identifier Id] {session : Session}

def withoutRoles (db : Db) : Db := withRoles db .empty

def apartFromRoles : List Relation := [.rolePermissions, .userPermissionOverrides]

theorem apply_withRoles {write : Write} (within : Within apartFromRoles write) (db : Db)
    (userRoles : Table UserRoleEntity) :
    write.apply session (withRoles db userRoles) = (write.apply session db).map fun next =>
      withRoles next userRoles := by
  cases write with
  | insertRolePermission row =>
    have policy : session.admitsRolePermission (withRoles db userRoles) row =
      session.admitsRolePermission db row := rfl
    have role : (withRoles db userRoles).hasRole row.roleId = db.hasRole row.roleId := rfl
    have permission : (withRoles db userRoles).hasPermissionRow row.permissionId =
      db.hasPermissionRow row.permissionId := rfl
    simp only [Write.apply, Db.insertRolePermission, policy, role, permission]
    split
    · rw [Option.map_map]
      rfl
    · rfl
  | insertOverride row =>
    have tenant : (withRoles db userRoles).hasTenant row.tenantId = db.hasTenant row.tenantId := rfl
    have user : (withRoles db userRoles).hasUser row.userId = db.hasUser row.userId := rfl
    have permission : (withRoles db userRoles).hasPermissionRow row.permissionId =
      db.hasPermissionRow row.permissionId := rfl
    have overrides : (withRoles db userRoles).userPermissionOverrides = db.userPermissionOverrides := rfl
    simp only [Write.apply, Db.insertOverride, tenant, user, permission, overrides]
    split
    · rw [Option.map_map]
      rfl
    · rfl
  | deleteRolePermission row | updateOverride row | deleteOverride row => rfl
  | _ => exact absurd within (by simp [Within, apartFromRoles, Write.changes])

theorem send_withRoles {write : Write} (within : Within apartFromRoles write) (db : Db)
    (userRoles : Table UserRoleEntity) :
    send session write (withRoles db userRoles) = (send session write db).map fun next =>
      withRoles next userRoles := by
  have missing : write.missingReference (withRoles db userRoles) = write.missingReference db := by
    cases write <;> rfl
  unfold send
  rw [apply_withRoles within, missing]
  cases write.apply session db <;> rfl

omit [Identifier Id] in
/-- A query whose answer does not depend on assignments. -/
theorem reads_apart {next : Db → Handler Id α} (apart : ∀ db, next (withoutRoles db) = next db)
    (rest : ∀ db, Reads (E := effects Id) withoutRoles (next db)) :
    Reads (E := effects Id) withoutRoles (visible >>= next) := by
  refine reads_visible ?_ rest
  intro db db' same
  rw [← apart db, ← apart db', same]

theorem reads_findOneForTenant (id tenantId : Id) : Reads (E :=
  effects Id) withoutRoles (findOneForTenant id tenantId) :=
  reads_apart (fun _ => rfl) fun _ => reads_orThrow _ _

theorem reads_findPermissions (refs : List (PermissionRef Id)) : Reads (E :=
  effects Id) withoutRoles (findPermissions refs) :=
  reads_apart (fun _ => rfl) fun _ => trivial

theorem reads_findMapping (roleId : Id) (permissionId : Uuid) : Reads (E :=
  effects Id) withoutRoles (findMapping roleId permissionId) :=
  reads_apart (fun _ => rfl) fun _ => trivial

theorem reads_addMapping (roleId tenantId actorId : Id) (permission : PermissionEntity) :
    Reads (E := effects Id) withoutRoles (addMapping roleId tenantId actorId permission) := by
  refine reads_bind (reads_findMapping roleId permission.id) fun found => ?_
  cases found with
  | some mapping => trivial
  | none =>
    refine reads_bind (fun _ => trivial) fun id => ?_
    exact reads_bind (reads_persist _) fun _ => trivial

theorem reads_removeMapping (roleId tenantId actorId : Id) (permission : PermissionEntity) :
    Reads (E := effects Id) withoutRoles (removeMapping roleId tenantId actorId permission) := by
  refine reads_bind (reads_findMapping roleId permission.id) fun found => ?_
  cases found with
  | none => trivial
  | some mapping => exact reads_bind (reads_persist _) fun _ => trivial

theorem reads_updateRolePermissions (roleId tenantId : Id) (dto : UpdateRolePermissionsDto Id)
    (actorId : Id) :
    Reads (E := effects Id) withoutRoles (updateRolePermissions roleId tenantId dto actorId) := by
  refine reads_bind (reads_findOneForTenant roleId tenantId) fun role => ?_
  refine reads_bind (reads_refuseIf _ _) fun _ => ?_
  refine reads_bind (reads_findPermissions dto.add) fun added => ?_
  refine reads_bind (reads_forEach (reads_addMapping roleId tenantId actorId)) fun _ => ?_
  refine reads_bind (reads_findPermissions dto.remove) fun removed => ?_
  exact reads_bind (reads_forEach (reads_removeMapping roleId tenantId actorId)) fun _ => trivial

theorem reads_addOverride (userId tenantId : Id) (dto : CreateOverrideDto Id) (actorId : Id) :
    Reads (E := effects Id) withoutRoles (addOverride userId tenantId dto actorId) := by
  refine reads_apart (fun _ => rfl) fun _ => ?_
  refine reads_bind (reads_orThrow _ _) fun _ => ?_
  refine reads_apart (fun _ => rfl) fun _ => ?_
  dsimp only
  split
  · split
    · trivial
    · exact reads_bind (reads_persist _) fun _ => trivial
  · refine reads_bind (fun _ => trivial) fun id => ?_
    exact reads_bind (reads_persist _) fun _ => trivial

theorem reads_removeOverride (overrideId userId tenantId actorId : Id) :
    Reads (E := effects Id) withoutRoles (removeOverride overrideId userId tenantId actorId) := by
  refine reads_apart (fun _ => rfl) fun _ => ?_
  dsimp only
  split
  · trivial
  · exact reads_bind (reads_persist _) fun _ => trivial

omit [Identifier Id] in
/-- Such a request goes the same way over any assignments, and leaves them alone. -/
theorem serve_apart {handler : Handler Id α} (reads : Reads (E := effects Id) withoutRoles handler)
    (sends : Sends (E := effects Id) (Within apartFromRoles) (fun _ => False) handler)
    (ids : Nat → Uuid) (db : Db) (userRoles : Table UserRoleEntity) :
    SameBut apartFromRoles db (serve (engine Id session) ids handler db).db ∧
      (serve (engine Id session) ids handler (withRoles db userRoles)).db =
        withRoles (serve (engine Id session) ids handler db).db userRoles := by
  have sameView : ∀ {first second},
    (SameBut apartFromRoles db first ∧ second = withRoles first userRoles) →
      withoutRoles ((engine Id session).view first) =
          withoutRoles ((engine Id session).view second) := by
    intro first second ⟨_, whole⟩
    rw [whole]
    rfl
  have lockstep : ∀ {first second write},
    (SameBut apartFromRoles db first ∧ second = withRoles first userRoles) →
      Within apartFromRoles write →
      Lockstep (fun first second => SameBut apartFromRoles db first ∧
        second = withRoles first userRoles)
        ((engine Id session).apply write first) ((engine Id session).apply write second) := by
    intro first second write ⟨same, whole⟩ within
    have answer : (engine Id session).apply write second = (send session write first).map fun next =>
        withRoles next userRoles := by
      rw [whole]
      exact send_withRoles within first userRoles
    rw [answer]
    cases sent : send session write first with
    | ok next =>
      have applied : (engine Id session).apply write first = .ok next := sent
      rw [applied]
      exact ⟨sameBut_step within same (send_ok sent), rfl⟩
    | error why =>
      have refused : (engine Id session).apply write first = .error why := sent
      rw [refused]
      rfl
  refine (serve_alike sameView (fun both allowed => lockstep both allowed) ?_ reads ⟨sameBut_refl, rfl⟩
    (sends_wp sends { db })).2.1
  intro _ _ _ _ _ impossible
  exact impossible.elim

end Apart

/-! What readers are shown. -/

section Readers
variable {session : Session} {now : Time} {userId tenantId : Uuid} {db db' : Db}

def rolePairs (roles : List UserRoleEntity) : Finset (Uuid × Option Time) :=
  (roles.map fun ur => (ur.roleId, ur.expiresAt)).toFinset

theorem mem_rolePairs {pair : Uuid × Option Time} (single : Unique holding db.userRoles) :
    pair ∈ rolePairs (getUserRoles (db.seenBy session) now userId tenantId) ↔
      session.admits tenantId = true ∧ assignments db (tenantId, userId, pair.1) = some pair.2 ∧
        counts now pair.2 = true := by
  obtain ⟨roleId, expiresAt⟩ := pair
  simp only [rolePairs, List.mem_toFinset, List.mem_map, mem_getUserRoles, activeAt_eq, assignments,
    index_some single, Prod.mk.injEq]
  constructor
  · intro listed
    obtain ⟨ur, ⟨seen, user, tenant, active⟩, role, expiry⟩ := listed
    obtain ⟨member, admits⟩ := mem_select.mp seen
    subst user tenant role expiry
    exact ⟨admits, ⟨ur, member, rfl, rfl⟩, active⟩
  · intro held
    obtain ⟨admits, ⟨ur, member, same, expiry⟩, active⟩ := held
    simp only [holding, Prod.mk.injEq] at same
    obtain ⟨tenant, user, role⟩ := same
    subst user tenant role expiry
    exact ⟨ur, ⟨mem_select.mpr ⟨member, admits⟩, rfl, rfl, active⟩, rfl, rfl⟩

/-- Who passes over expired assignments is shown the same roles. -/
theorem rolePairs_alike (single : Unique holding db.userRoles) (single' : Unique holding db'.userRoles)
    (same : Store.SameFresh (expired now) (assignments db) (assignments db')) :
    rolePairs (getUserRoles (db.seenBy session) now userId tenantId) =
      rolePairs (getUserRoles (db'.seenBy session) now userId tenantId) := by
  ext pair
  rw [mem_rolePairs single, mem_rolePairs single']
  refine and_congr_right fun _ => and_congr_left fun active => ?_
  exact same _ _ (not_expired_of_counts active)

theorem mem_roleIds {roles : List UserRoleEntity} {roleId : Uuid} :
    roleId ∈ roles.map (·.roleId) ↔ ∃ pair ∈ rolePairs roles, pair.1 = roleId := by
  simp [rolePairs]

theorem rolePermissionsOf_congr {roleIds roleIds' : List Uuid}
    (same : ∀ roleId, roleId ∈ roleIds ↔ roleId ∈ roleIds') :
    rolePermissionsOf db roleIds = rolePermissionsOf db roleIds' := by
  have contains : ∀ roleId, roleIds.contains roleId = roleIds'.contains roleId := by
    intro roleId
    rw [Bool.eq_iff_iff, List.contains_iff_mem, List.contains_iff_mem]
    exact same roleId
  have empty : roleIds.length > 0 ↔ roleIds'.length > 0 := by
    simp only [gt_iff_lt, List.length_pos_iff_exists_mem, same]
  unfold rolePermissionsOf
  simp only [contains, empty]

/-- The permissions go by the ids of the roles. -/
theorem effectivePermissions_alike (single : Unique holding db.userRoles)
    (single' : Unique holding db'.userRoles) (others : db' = withRoles db db'.userRoles)
    (same : Store.SameFresh (expired now) (assignments db) (assignments db')) :
    getEffectivePermissions (db.seenBy session) now userId tenantId =
      getEffectivePermissions (db'.seenBy session) now userId tenantId := by
  have roles : ∀ roleId,
    roleId ∈ (getUserRoles (db.seenBy session) now userId tenantId).map (·.roleId) ↔
      roleId ∈ (getUserRoles (db'.seenBy session) now userId tenantId).map (·.roleId) := by
    intro roleId
    rw [mem_roleIds, mem_roleIds, rolePairs_alike single single' same]
  unfold getEffectivePermissions
  simp only [rolePermissionsOf_congr roles]
  rw [others]
  rfl

end Readers

/-! Runs. -/

inductive Act (Id : Type) where
  | assignToUser (userId tenantId : Id) (dto : AssignRoleDto Id) (actorId : Id)
  | updateUserRoles (userId tenantId : Id) (dto : UpdateUserRolesDto Id) (actorId : Id)
  | addOverride (userId tenantId : Id) (dto : CreateOverrideDto Id) (actorId : Id)
  | removeOverride (overrideId userId tenantId actorId : Id)
  | updateRolePermissions (roleId tenantId : Id) (dto : UpdateRolePermissionsDto Id) (actorId : Id)
  | purgeExpiredRoles
  | getUserRoles (userId tenantId : Id)
  | getEffectivePermissions (userId tenantId : Id)

/-- A call with the time of its clock, the session of its connection and the keys that it may draw. -/
structure Step (Id : Type) where
  act : Act Id
  now : Time
  session : Session
  ids : Nat → Uuid

inductive Output where
  | roles (pairs : Finset (Uuid × Option Time))
  | permissions (effective : List PermissionEntity)
  deriving DecidableEq

variable {Id : Type} [Identifier Id]

def Step.next (step : Step Id) (db : Db) : Db :=
  match step.act with
  | .assignToUser userId tenantId dto actorId =>
      (serve (engine Id step.session) step.ids
        (RbacServices.assignToUser userId tenantId dto actorId) db).db
  | .updateUserRoles userId tenantId dto actorId =>
      (serve (engine Id step.session) step.ids
        (RbacServices.updateUserRoles userId tenantId dto actorId) db).db
  | .addOverride userId tenantId dto actorId =>
      (serve (engine Id step.session) step.ids
        (RbacServices.addOverride userId tenantId dto actorId) db).db
  | .removeOverride overrideId userId tenantId actorId =>
      (serve (engine Id step.session) step.ids
        (RbacServices.removeOverride overrideId userId tenantId actorId) db).db
  | .updateRolePermissions roleId tenantId dto actorId =>
      (serve (engine Id step.session) step.ids
        (RbacServices.updateRolePermissions roleId tenantId dto actorId) db).db
  | .purgeExpiredRoles =>
      (serve (engine Id .bypassRls) step.ids (RbacServices.purgeExpiredRoles step.now) db).db
  | .getUserRoles _ _ | .getEffectivePermissions _ _ => db

def Step.answer (step : Step Id) (db : Db) : Option Output :=
  match step.act with
  | .getUserRoles userId tenantId =>
      some (.roles
        (rolePairs
        (EffectivePermissions.getUserRoles (db.seenBy step.session) step.now (value userId)
        (value tenantId))))
  | .getEffectivePermissions userId tenantId =>
      some (.permissions
        (EffectivePermissions.getEffectivePermissions (db.seenBy step.session) step.now (value userId)
        (value tenantId)))
  | _ => none

omit [Identifier Id] in
def Step.kept (step : Step Id) : Bool :=
  match step.act with
  | .purgeExpiredRoles => false
  | _ => true

def Step.drawn (step : Step Id) : List Uuid :=
  match step.act with
  | .assignToUser _ _ _ _ => (List.range 1).map step.ids
  | .updateUserRoles _ _ dto _ => (List.range dto.add.length).map step.ids
  | _ => []

/-- The clock does not go back and no key is drawn twice. -/
structure Orderly (steps : List (Step Id)) : Prop where
  clock : steps.Pairwise fun step later => step.now ≤ later.now
  drawn : (steps.flatMap Step.drawn).Nodup

def Unused (steps : List (Step Id)) (db : Db) : Prop :=
  ∀ row ∈ db.userRoles, row.id ∉ steps.flatMap Step.drawn

/-- The other tables are the same, and so are the assignments that have not expired by the
time of the next step. -/
structure Together (rest : List (Step Id)) (db db' : Db) : Prop where
  others : db' = withRoles db db'.userRoles
  referenced : ∀ user ∈ db.users, db.hasTenant user.tenantId = true
  single : Unique holding db.userRoles
  single' : Unique holding db'.userRoles
  orderly : Orderly rest
  unused : Unused rest db
  unused' : Unused rest db'
  same : ∃ since, (∀ step ∈ rest, since ≤ step.now) ∧
    Store.SameFresh (expired since) (assignments db) (assignments db')

section Runs
variable {step : Step Id} {rest : List (Step Id)} {db db' : Db} {limit : Nat}

omit [Identifier Id] in
theorem Orderly.tail (orderly : Orderly (step :: rest)) : Orderly rest where
  clock := (List.pairwise_cons.mp orderly.clock).2
  drawn := (List.nodup_append.mp orderly.drawn).2.1

omit [Identifier Id] in
theorem Orderly.distinct (orderly : Orderly (step :: rest))
    (drawn : step.drawn = (List.range limit).map step.ids) :
    Distinct step.ids limit := by
  have nodup : ((List.range limit).map step.ids).Nodup := drawn ▸ (List.nodup_append.mp orderly.drawn).1
  intro i below j within same
  exact List.inj_on_of_nodup_map nodup (List.mem_range.mpr below) (List.mem_range.mpr within) same

omit [Identifier Id] in
/-- The keys of later steps stay unused. -/
theorem Unused.later {after : Db} (orderly : Orderly (step :: rest))
    (unused : Unused (step :: rest) db)
    (origin : ∀ row ∈ after.userRoles, (∃ old ∈ db.userRoles, old.id = row.id) ∨ row.id ∈ step.drawn) :
    Unused rest after := by
  intro row member taken
  rcases origin row member with ⟨old, before, key⟩ | drawn
  · exact unused old before (key ▸ List.mem_append_right _ taken)
  · exact (List.nodup_append.mp orderly.drawn).2.2 row.id drawn row.id taken rfl

omit [Identifier Id] in
theorem Together.now (together : Together (step :: rest) db db') :
    Store.SameFresh (expired step.now) (assignments db) (assignments db') := by
  obtain ⟨since, before, same⟩ := together.same
  exact same.mono (expired_mono (before step List.mem_cons_self))

omit [Identifier Id] in
theorem Together.later (together : Together (step :: rest) db db') :
    ∀ later ∈ rest, step.now ≤ later.now :=
  (List.pairwise_cons.mp together.orderly.clock).1

omit [Identifier Id] in
/-- Nothing happens. -/
theorem Together.idle (together : Together (step :: rest) db db') : Together rest db db' where
  others := together.others
  referenced := together.referenced
  single := together.single
  single' := together.single'
  orderly := together.orderly.tail
  unused := together.unused.later together.orderly fun row member => .inl ⟨row, member, rfl⟩
  unused' := together.unused'.later together.orderly fun row member => .inl ⟨row, member, rfl⟩
  same := ⟨step.now, together.later, together.now⟩

omit [Identifier Id] in
theorem during_start (single : Unique holding db.userRoles) (unused : Unused (step :: rest) db)
    (drawn : step.drawn = (List.range limit).map step.ids) :
    During step.ids limit db (assignments db) 0 ({ db } : Tx (effects Id) Db) := by
  refine ⟨⟨rfl, single, rfl, fun row member => .inl ⟨row, member, rfl⟩⟩, Nat.le_refl 0, ?_⟩
  intro row member index below _ same
  refine unused row member (List.mem_append_left _ ?_)
  rw [drawn, same]
  exact List.mem_map_of_mem (List.mem_range.mpr below)

omit [Identifier Id] in
/-- Two databases that take the same change of the assignments. -/
theorem together_changed {after after' : Db} {content content' : Assignments}
    (together : Together (step :: rest) db db')
    (drawn : step.drawn = (List.range limit).map step.ids)
    (leaves : Leaves step.ids limit db content after)
    (leaves' : Leaves step.ids limit db' content' after')
    (same : Store.SameFresh (expired step.now) content content') :
    Together rest after after' := by
  have origin : ∀ {before later content}, Leaves step.ids limit before content later →
      ∀ row ∈ later.userRoles, (∃ old ∈ before.userRoles, old.id = row.id) ∨ row.id ∈ step.drawn := by
    intro before later content left row member
    refine (left.origin row member).imp_right fun ⟨index, below, key⟩ => ?_
    rw [drawn, key]
    exact List.mem_map_of_mem (List.mem_range.mpr below)
  constructor
  · rw [leaves'.others, together.others, leaves.others]
    rfl
  · rw [leaves.others]
    exact together.referenced
  · exact leaves.single
  · exact leaves'.single
  · exact together.orderly.tail
  · exact together.unused.later together.orderly (origin leaves)
  · exact together.unused'.later together.orderly (origin leaves')
  · refine ⟨step.now, together.later, ?_⟩
    rw [leaves.content, leaves'.content]
    exact same

theorem accepted_withRoles {session : Session} {userId tenantId : Id}
    {items : List (AssignRoleDto Id)} {userRoles : Table UserRoleEntity} :
    Accepted session (withRoles db userRoles) userId tenantId items ↔
      Accepted session db userId tenantId items :=
  ⟨fun accepted => ⟨accepted.user, accepted.roles⟩, fun accepted => ⟨accepted.user, accepted.roles⟩⟩

/-- A request that changes assignments is accepted in both databases or in neither. -/
theorem together_accepted {after after' : Db} {content content' : Assignments}
    {userId tenantId : Id} {items : List (AssignRoleDto Id)}
    (together : Together (step :: rest) db db')
    (drawn : step.drawn = (List.range limit).map step.ids)
    (ended : (Accepted step.session db userId tenantId items ∧ Leaves step.ids limit db content after) ∨
      (¬Accepted step.session db userId tenantId items ∧ after = db))
    (ended' : (Accepted step.session db' userId tenantId items ∧
      Leaves step.ids limit db' content' after') ∨
      (¬Accepted step.session db' userId tenantId items ∧ after' = db'))
    (same : Store.SameFresh (expired step.now) content content') : Together rest after after' := by
  have alike : Accepted step.session db' userId tenantId items ↔
      Accepted step.session db userId tenantId items := by
    rw [together.others]
    exact accepted_withRoles
  rcases ended with ⟨passed, leaves⟩ | ⟨refused, unchanged⟩
  · rcases ended' with ⟨_, leaves'⟩ | ⟨refused', _⟩
    · exact together_changed together drawn leaves leaves' same
    · exact absurd (alike.mpr passed) refused'
  · rcases ended' with ⟨passed', _⟩ | ⟨_, unchanged'⟩
    · exact absurd (alike.mp passed') refused
    · rw [unchanged, unchanged']
      exact together.idle

omit [Identifier Id] in
/-- The other database has the same users and tenants. -/
theorem Together.referenced' (together : Together rest db db') :
    ∀ user ∈ db'.users, db'.hasTenant user.tenantId = true := by
  rw [together.others]
  exact together.referenced

theorem together_assignToUser {userId tenantId actorId : Id} {dto : AssignRoleDto Id}
    (together : Together (step :: rest) db db')
    (act : step.act = .assignToUser userId tenantId dto actorId) :
    Together rest
      (serve (engine Id step.session) step.ids (assignToUser userId tenantId dto actorId) db).db
      (serve (engine Id step.session) step.ids (assignToUser userId tenantId dto actorId) db').db := by
  have drawn : step.drawn = (List.range 1).map step.ids := by
    unfold Step.drawn
    rw [act]
  have distinct := together.orderly.distinct drawn
  have ended :=
    served_cases
    (@wp_assignToUser _ step.session step.ids db _ { db } _ userId tenantId actorId dto distinct
    (during_start together.single together.unused drawn) together.referenced)
  have ended' :=
    served_cases
    (@wp_assignToUser _ step.session step.ids db' _ { db := db' } _ userId tenantId actorId dto distinct
    (during_start together.single' together.unused' drawn) together.referenced')
  exact together_accepted together drawn ended ended' (granted_sameFresh [dto] together.now)

theorem together_updateUserRoles {userId tenantId actorId : Id} {dto : UpdateUserRolesDto Id}
    (together : Together (step :: rest) db db')
    (act : step.act = .updateUserRoles userId tenantId dto actorId) :
    Together rest
      (serve (engine Id step.session) step.ids (updateUserRoles userId tenantId dto actorId) db).db
      (serve (engine Id step.session) step.ids
        (updateUserRoles userId tenantId dto actorId) db').db := by
  have drawn : step.drawn = (List.range dto.add.length).map step.ids := by
    unfold Step.drawn
    rw [act]
  have distinct := together.orderly.distinct drawn
  have ended :=
    served_cases
    (@wp_updateUserRoles _ step.session step.ids db _ { db } _ userId tenantId actorId dto distinct
    (during_start together.single together.unused drawn) together.referenced)
  have ended' :=
    served_cases
    (@wp_updateUserRoles _ step.session step.ids db' _
    { db := db' } _ userId tenantId actorId dto distinct
    (during_start together.single' together.unused' drawn) together.referenced')
  exact together_accepted together drawn ended ended'
    (revoked_sameFresh dto.remove (granted_sameFresh dto.add together.now))

omit [Identifier Id] in
/-- Requests that leave assignments alone. -/
theorem together_apart {α : Type} {handler : Handler Id α} (together : Together (step :: rest) db db')
    (reads : Reads (E := effects Id) withoutRoles handler)
    (sends : Sends (E := effects Id) (Within apartFromRoles) (fun _ => False) handler) :
    Together rest (serve (engine Id step.session) step.ids handler db).db
      (serve (engine Id step.session) step.ids handler db').db := by
  obtain ⟨same, whole⟩ := @serve_apart _ _ step.session _ reads sends step.ids db db'.userRoles
  rw [← together.others] at whole
  rw [whole]
  generalize (serve (engine Id step.session) step.ids handler db).db = after at same
  have userRoles : after.userRoles = db.userRoles := same.userRoles (by simp [apartFromRoles])
  have users : after.users = db.users := same.users (by simp [apartFromRoles])
  have tenants : after.tenants = db.tenants := same.tenants (by simp [apartFromRoles])
  have idle := together.idle
  constructor
  · rfl
  · intro user member
    rw [users] at member
    have referenced := idle.referenced user member
    unfold Db.hasTenant at referenced ⊢
    rw [tenants]
    exact referenced
  · rw [userRoles]
    exact idle.single
  · exact idle.single'
  · exact idle.orderly
  · intro row member
    rw [userRoles] at member
    exact idle.unused row member
  · exact idle.unused'
  · obtain ⟨since, before, fresh⟩ := idle.same
    refine ⟨since, before, ?_⟩
    unfold assignments at fresh ⊢
    rw [userRoles]
    exact fresh

omit [Identifier Id] in
/-- The purge takes expired assignments only, from one of the databases. -/
theorem together_purged (together : Together (step :: rest) db db') :
    Together rest (serve (engine Id .bypassRls) step.ids (purgeExpiredRoles step.now) db).db db' := by
  have purged : (serve (engine Id .bypassRls) step.ids (purgeExpiredRoles step.now) db).db =
    db.deleteExpiredUserRoles .bypassRls step.now := rfl
  rw [purged]
  have fewer : ∀ row ∈ (db.deleteExpiredUserRoles .bypassRls step.now).userRoles, row ∈ db.userRoles :=
      fun row member =>
    (mem_select.mp member).1
  have idle := together.idle
  constructor
  · rw [idle.others]
    rfl
  · exact idle.referenced
  · exact idle.single.subset fewer
  · exact idle.single'
  · exact idle.orderly
  · exact fun row member => idle.unused row (fewer row member)
  · exact idle.unused'
  · refine ⟨step.now, together.later, ?_⟩
    rw [purge_assignments together.single]
    exact together.now.sweep

/-- A query is answered in the same way. -/
theorem together_answers (together : Together (step :: rest) db db') :
    step.answer db = step.answer db' := by
  have roles : ∀ {session : Session} {userId tenantId : Uuid},
    rolePairs (getUserRoles (db.seenBy session) step.now userId tenantId) =
      rolePairs (getUserRoles (db'.seenBy session) step.now userId tenantId) :=
    rolePairs_alike together.single together.single' together.now
  have permissions : ∀ {session : Session} {userId tenantId : Uuid},
    getEffectivePermissions (db.seenBy session) step.now userId tenantId =
      getEffectivePermissions (db'.seenBy session) step.now userId tenantId :=
    effectivePermissions_alike together.single together.single' together.others together.now
  unfold Step.answer
  cases step.act with
  | getUserRoles userId tenantId => simp only [roles]
  | getEffectivePermissions userId tenantId => simp only [permissions]
  | _ => rfl

theorem together_next (kept : step.kept = true) (together : Together (step :: rest) db db') :
    Together rest (step.next db) (step.next db') := by
  unfold Step.next
  cases act : step.act with
  | assignToUser userId tenantId dto actorId => exact together_assignToUser together act
  | updateUserRoles userId tenantId dto actorId => exact together_updateUserRoles together act
  | addOverride userId tenantId dto actorId =>
    exact together_apart together (reads_addOverride userId tenantId dto actorId)
      (sends_addOverride userId tenantId dto actorId
          (fun _ => by simp [Within, Write.changes, apartFromRoles]) fun _ => by
        simp [Within, Write.changes, apartFromRoles])
  | removeOverride overrideId userId tenantId actorId =>
    exact together_apart together (reads_removeOverride overrideId userId tenantId actorId)
      (sends_removeOverride overrideId userId tenantId actorId
        fun _ => by simp [Within, Write.changes, apartFromRoles])
  | updateRolePermissions roleId tenantId dto actorId =>
    exact together_apart together (reads_updateRolePermissions roleId tenantId dto actorId)
      (sends_updateRolePermissions roleId tenantId dto actorId
          (fun _ => by simp [Within, Write.changes, apartFromRoles]) fun _ => by
        simp [Within, Write.changes, apartFromRoles])
  | purgeExpiredRoles =>
    unfold Step.kept at kept
    rw [act] at kept
    cases kept
  | getUserRoles userId tenantId | getEffectivePermissions userId tenantId => exact together.idle

theorem together_skipped (left : step.kept = false) (together : Together (step :: rest) db db') :
    step.answer db = none ∧ Together rest (step.next db) db' := by
  unfold Step.kept at left
  cases act : step.act with
  | purgeExpiredRoles =>
    unfold Step.answer Step.next
    rw [act]
    exact ⟨rfl, together_purged together⟩
  | _ =>
    rw [act] at left
    cases left

theorem unwinding :
    Unwinding Step.next Step.answer (fun _ _ => True) Step.kept (fun rest : List (Step Id) =>
      Together rest) where
  takes kept _ together := ⟨together_answers together, together_next kept together⟩
  skips left _ together := together_skipped left together

omit [Identifier Id] in
theorem together_self {steps : List (Step Id)}
    (referenced : ∀ user ∈ db.users, db.hasTenant user.tenantId = true)
    (single : Unique holding db.userRoles) (orderly : Orderly steps) (unused : Unused steps db) :
    Together steps db db :=
  ⟨rfl, referenced, single, single, orderly, unused, unused, 0, fun _ _ => Nat.zero_le _,
    Store.SameFresh.refl _ _⟩

end Runs

/-- With and without the purges all queries of a run are answered in the same way, where users
have tenants, as the foreign key asks, and keys are drawn afresh. -/
theorem purge_unobservable {steps : List (Step Id)} {db : Db}
    (referenced : ∀ user ∈ db.users, db.hasTenant user.tenantId = true)
    (single : Unique holding db.userRoles) (orderly : Orderly steps) (unused : Unused steps db) :
    answers Step.next Step.answer db steps =
      answers Step.next Step.answer db (steps.filter Step.kept) := by
  have every : EveryStep Step.next (fun _ _ => True) db steps := everyStep_trivial db steps
  exact (unwinding.run every (together_self referenced single orderly unused)).1

/-! Bob is an admin until 10, and is made one again until 20 after his assignment has expired. -/

section Example
open Reactivation (countedFrom office)

def bobs (act : Act Uuid) (now : Time) (start : Nat) : Step Uuid :=
  ⟨act, now, .tenantUser 21, countedFrom start⟩

def renewed (purges : List (Step Uuid)) : List (Step Uuid) :=
  [bobs (.assignToUser 31 21 ⟨11, some 10⟩ 22) 1 41, bobs (.getUserRoles 31 21) 9 0,
    bobs (.getUserRoles 31 21) 10 0] ++ purges ++
    [bobs (.updateUserRoles 31 21 { add := [⟨11, some 20⟩] } 22) 12 51, bobs (.getUserRoles 31 21) 13 0,
      bobs (.getEffectivePermissions 31 21) 14 0]

def purged : List (Step Uuid) := renewed [bobs .purgeExpiredRoles 10 0, bobs .purgeExpiredRoles 11 0]

/-- The queries are answered alike, while the renewed assignment has another key. -/
theorem purge_unobservable_bob :
    answers Step.next Step.answer office purged = answers Step.next Step.answer office (renewed []) ∧
      (final Step.next office purged).userRoles.rows ≠
        (final Step.next office (renewed [])).userRoles.rows := by
  have referenced : ∀ user ∈ office.users.rows, office.hasTenant user.tenantId = true := by decide
  have single : ∀ row ∈ office.userRoles.rows, ∀ other ∈ office.userRoles.rows,
    holding row = holding other → row = other := by decide
  have unused : ∀ row ∈ office.userRoles.rows, row.id ∉ purged.flatMap Step.drawn := by decide
  exact ⟨purge_unobservable referenced single ⟨by decide, by decide⟩ unused, by decide⟩

end Example

end GenericIam.PurgedRoles
