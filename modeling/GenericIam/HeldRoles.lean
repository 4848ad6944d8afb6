import GenericIam.EffectivePermissions
import GenericIam.RbacServices
import GenericIam.StaleEntries

/-! The assignments of roles as a partial map from tenant, user and role to the expiry, and
what the requests that assign and remove roles make of it. -/

namespace GenericIam.HeldRoles
open Table Database Identifiers EffectivePermissions Transaction Handlers RbacServices

/-! Assignments as a partial map. -/

def holding (row : UserRoleEntity) : Uuid × Uuid × Uuid := (row.tenantId, row.userId, row.roleId)

abbrev Assignments := Store (Uuid × Uuid × Uuid) (Option Time)

def assignments (db : Db) : Assignments := index holding UserRoleEntity.expiresAt db.userRoles

def expired (now : Time) (expiresAt : Option Time) : Bool :=
  expiresAt.any fun expiresAt => decide (expiresAt < now)

theorem expired_mono {now later : Time} (passed : now ≤ later) (expiresAt : Option Time)
    (gone : expired now expiresAt = true) :
    expired later expiresAt = true := by
  cases expiresAt with
  | none => cases gone
  | some expiresAt =>
    simp only [expired, Option.any_some, decide_eq_true_eq] at gone ⊢
    exact Nat.lt_of_lt_of_le gone passed

def counts (now : Time) (expiresAt : Option Time) : Bool :=
  expiresAt.all fun expiresAt => decide (now < expiresAt)

theorem activeAt_eq (now : Time) (row : UserRoleEntity) :
    activeAt now row = counts now row.expiresAt := by
  unfold activeAt counts
  cases row.expiresAt <;> rfl

/-- At the instant of its expiry an assignment neither counts nor is purged. -/
theorem not_expired_of_counts {now : Time} {expiresAt : Option Time}
    (active : counts now expiresAt = true) :
    expired now expiresAt = false := by
  cases expiresAt with
  | none => rfl
  | some expiresAt =>
    simp only [counts, Option.all_some, decide_eq_true_eq] at active
    simp only [expired, Option.any_some, decide_eq_false_iff_not]
    exact Nat.lt_asymm active

section Statements
variable {session : Session} {db : Db} {row hit : UserRoleEntity}

def withRoles (db : Db) (userRoles : Table UserRoleEntity) : Db := { db with userRoles }

/-- A row that is inserted under a new key, as the foreign keys and the policy allow. -/
theorem insertUserRole_applied (tenant : db.hasTenant row.tenantId = true)
    (user : db.hasUser row.userId = true) (role : db.hasRole row.roleId = true)
    (admits : session.admits row.tenantId = true)
    (fresh : ∀ other ∈ db.userRoles, other.id ≠ row.id) :
    ∃ userRoles, db.userRoles.insert row = some userRoles ∧
      (Write.insertUserRole row).apply session db = some (withRoles db userRoles) := by
  obtain ⟨userRoles, inserted⟩ := Option.isSome_iff_exists.mp (insert_isSome.mpr fresh)
  refine ⟨userRoles, inserted, ?_⟩
  simp only [Write.apply, Db.insertUserRole, tenant, user, role, admits, Bool.and_self, if_true,
    inserted, Option.map_some, withRoles]

/-- The row of the update, found by its key. -/
theorem updateUserRole_assignments (single : Unique holding db.userRoles) (member : hit ∈ db.userRoles)
    (admits : session.admits hit.tenantId = true) (expiresAt : Option Time) :
    Unique holding (db.updateUserRole session hit.id expiresAt).userRoles ∧
      assignments (db.updateUserRole session hit.id expiresAt) =
        (assignments db).put (holding hit) expiresAt := by
  have matched : (hit.id == hit.id && session.admits hit.tenantId) = true := by simp [admits]
  have only : ∀ other ∈ db.userRoles, (other.id == hit.id && session.admits other.tenantId) = true →
      key other = key hit := by
    intro other _ accepted
    simp only [Bool.and_eq_true, beq_iff_eq] at accepted
    exact accepted.1
  have keeps : ∀ row : UserRoleEntity, key { row with expiresAt } = key row := fun _ => rfl
  exact ⟨unique_modify single keeps member matched only rfl,
    index_modify single keeps member matched only rfl⟩

theorem mem_deleteUserRole (member : hit ∈ db.userRoles) (admits : session.admits hit.tenantId = true) :
    row ∈ (db.deleteUserRole session hit.id).userRoles ↔ row ∈ db.userRoles ∧ row ≠ hit := by
  simp only [Db.deleteUserRole, mem_select, Bool.not_eq_true', Bool.and_eq_false_iff,
    beq_eq_false_iff_ne]
  refine and_congr_right fun present => ?_
  constructor
  · intro either same
    subst same
    rcases either with other | hidden
    · exact other rfl
    · rw [admits] at hidden
      cases hidden
  · exact fun other => .inl fun same => other (eq_of_key_eq present member same)

theorem purge_assignments (single : Unique holding db.userRoles) (now : Time) :
    assignments (db.deleteExpiredUserRoles .bypassRls now) = (assignments db).sweep (expired now) := by
  apply index_sweep single
  intro row
  simp only [Db.deleteExpiredUserRoles, mem_select, Session.admits, Bool.and_true, Bool.not_eq_true']
  rfl

end Statements

/-! What a request makes of the assignments. -/

section Requests

/-- A database with the other tables as before, one assignment for each tenant, user and role,
and no row under a key that is neither old nor drawn. -/
structure Leaves (ids : Nat → Uuid) (limit : Nat) (before : Db) (content : Assignments)
    (after : Db) : Prop where
  others : after = withRoles before after.userRoles
  single : Unique holding after.userRoles
  content : assignments after = content
  origin : ∀ row ∈ after.userRoles, (∃ old ∈ before.userRoles, old.id = row.id) ∨
    ∃ index < limit, row.id = ids index

variable {Id : Type} {session : Session} {ids : Nat → Uuid} {limit count : Nat} {before : Db}
  {content : Assignments}
  {tx : Tx (effects Id) Db} {hit : UserRoleEntity}

/-- The same within the transaction, where some keys have been drawn and those to come are not in use. -/
structure During (ids : Nat → Uuid) (limit : Nat) (before : Db) (content : Assignments) (count : Nat)
    (tx : Tx (effects Id) Db) :
    Prop extends Leaves ids limit before content tx.db where
  drawn : tx.generated ≤ count
  fresh : ∀ row ∈ tx.db.userRoles, ∀ index < limit, tx.generated ≤ index → row.id ≠ ids index

def Distinct (ids : Nat → Uuid) (limit : Nat) : Prop := ∀ i < limit, ∀ j < limit, ids i = ids j → i = j

/-- Events and statements that have been sent do not matter. -/
theorem During.told (during : During ids limit before content count tx) (log : List Write)
    (events : List (Events.Event Id)) :
    During ids limit before content count { tx with log, events } :=
  ⟨during.toLeaves, during.drawn, during.fresh⟩

theorem During.mono (during : During ids limit before content count tx) {more : Nat}
    (enough : count ≤ more) :
    During ids limit before content more tx :=
  ⟨during.toLeaves, Nat.le_trans during.drawn enough, during.fresh⟩

theorem During.update (during : During ids limit before content count tx)
    (member : hit ∈ tx.db.userRoles) (admits : session.admits hit.tenantId = true)
    (expiresAt : Option Time) :
    During ids limit before (content.put (holding hit) expiresAt) count
      { tx with db := tx.db.updateUserRole session hit.id expiresAt } := by
  obtain ⟨single, changed⟩ := updateUserRole_assignments during.single member admits expiresAt
  have same : ∀ row ∈ (tx.db.updateUserRole session hit.id expiresAt).userRoles,
      ∃ old ∈ tx.db.userRoles, old.id = row.id := by
    intro row present
    simp only [Db.updateUserRole, mem_modify] at present
    rcases present with ⟨old, _⟩ | ⟨old, stored, _, rfl⟩
    · exact ⟨row, old, rfl⟩
    · exact ⟨old, stored, rfl⟩
  refine ⟨⟨?_, single, by rw [changed, during.content], ?_⟩, during.drawn, ?_⟩
  · rw [during.others]
    rfl
  · intro row present
    obtain ⟨old, stored, key⟩ := same row present
    rw [← key]
    exact during.origin old stored
  · intro row present index within later
    obtain ⟨old, stored, key⟩ := same row present
    rw [← key]
    exact during.fresh old stored index within later

theorem During.insert (distinct : Distinct ids limit)
    (during : During ids limit before content count tx) (room : count < limit)
    {row : UserRoleEntity} {userRoles : Table UserRoleEntity}
    (inserted : tx.db.userRoles.insert row = some userRoles) (drawn : row.id = ids tx.generated)
    (free : ∀ other ∈ tx.db.userRoles, holding other ≠ holding row) :
    During ids limit before (content.put (holding row) row.expiresAt) (count + 1)
      { tx with db := withRoles tx.db userRoles, generated := tx.generated + 1 } := by
  have within : tx.generated < limit := Nat.lt_of_le_of_lt during.drawn room
  refine ⟨⟨?_, unique_insert during.single inserted free, ?_, ?_⟩, Nat.succ_le_succ during.drawn, ?_⟩
  · rw [during.others]
    rfl
  · rw [← during.content]
    exact index_insert during.single inserted free
  · intro other present
    rcases (mem_insert inserted).mp present with old | rfl
    · exact during.origin other old
    · exact .inr ⟨tx.generated, within, drawn⟩
  · intro other present index below later
    rcases (mem_insert inserted).mp present with old | rfl
    · exact during.fresh other old index below (Nat.le_of_succ_le later)
    · rw [drawn]
      exact fun same => absurd (distinct _ within index below same) (Nat.ne_of_lt later)

theorem During.delete (during : During ids limit before content count tx)
    (member : hit ∈ tx.db.userRoles) (admits : session.admits hit.tenantId = true) :
    During ids limit before (content.removeWhere fun at_ => decide (at_ = holding hit)) count
      { tx with db := tx.db.deleteUserRole session hit.id } := by
  have rest : ∀ row, row ∈ (tx.db.deleteUserRole session hit.id).userRoles ↔
    row ∈ tx.db.userRoles ∧ row ≠ hit :=
    fun row => mem_deleteUserRole member admits
  refine ⟨⟨?_, during.single.subset fun row present => ((rest row).mp present).1, ?_, ?_⟩,
    during.drawn, ?_⟩
  · rw [during.others]
    rfl
  · rw [← during.content]
    exact index_remove during.single member rest
  · exact fun row present => during.origin row ((rest row).mp present).1
  · exact fun row present => during.fresh row ((rest row).mp present).1

def attached (Id : Type) : Monitor (effects Id) Db := ⟨fun _ _ => True, fun _ _ => False⟩

variable [Identifier Id] {userId tenantId roleId actorId : Id} {post : Unit → Tx (effects Id) Db → Prop}
  {fail : HttpException → Tx (effects Id) Db → Prop}

def userOf (session : Session) (db : Db) (userId tenantId : Id) : Option UserEntity :=
  (shown session db).users.findOne fun user =>
    user.id == value userId && user.tenantId == value tenantId

def roleOf (session : Session) (db : Db) (roleId tenantId : Id) : Option RoleEntity :=
  (shown session db).roles.findOne fun role =>
    role.id == value roleId && (role.tenantId == some (value tenantId) || role.isSystem)

/-- What the foreign keys and the policy ask for when a role is assigned to the user. -/
structure Assignable (session : Session) (db : Db) (userId tenantId : Id) : Prop where
  tenant : db.hasTenant (value tenantId) = true
  user : db.hasUser (value userId) = true
  admits : session.admits (value tenantId) = true

theorem assignable_of_found {db : Db}
    (referenced : ∀ user ∈ db.users, db.hasTenant user.tenantId = true)
    (found : (userOf session db userId tenantId).isSome = true) :
    Assignable session db userId tenantId := by
  obtain ⟨user, found⟩ := Option.isSome_iff_exists.mp found
  obtain ⟨seen, matched⟩ := findOne_some found
  obtain ⟨member, admits⟩ := mem_select.mp seen
  simp only [Bool.and_eq_true, beq_iff_eq] at matched
  rw [matched.2] at admits
  refine ⟨matched.2 ▸ referenced user member, any_iff.mpr ⟨user, member, ?_⟩, admits⟩
  simp [matched.1]

theorem hasRole_of_found {db : Db} (found : (roleOf session db roleId tenantId).isSome = true) :
    db.hasRole (value roleId) = true := by
  obtain ⟨role, found⟩ := Option.isSome_iff_exists.mp found
  obtain ⟨seen, matched⟩ := findOne_some found
  simp only [Bool.and_eq_true, beq_iff_eq] at matched
  exact any_iff.mpr ⟨role, (mem_select.mp seen).1, by simp [matched.1]⟩

/-- Under a session that is admitted to the tenant the assignment is found if there is one. -/
theorem shown_assignment (admits : session.admits (value tenantId) = true) (db : Db) :
    ((shown session db).userRoles.findOne fun ur =>
        ur.userId == value userId && ur.roleId == value roleId && ur.tenantId == value tenantId) =
      db.userRoles.findOne fun row =>
        decide (holding row = (value tenantId, value userId, value roleId)) := by
  have within : ∀ ur ∈ db.userRoles,
    (ur.userId == value userId && ur.roleId == value roleId && ur.tenantId == value tenantId) = true →
      session.admits ur.tenantId = true := by
    intro ur _ matched
    simp only [Bool.and_eq_true, beq_iff_eq] at matched
    rw [matched.2, admits]
  have alike : (fun ur : UserRoleEntity => ur.userId == value userId && ur.roleId == value roleId &&
    ur.tenantId == value tenantId) =
      fun row => decide (holding row = (value tenantId, value userId, value roleId)) := by
    funext ur
    rw [Bool.eq_iff_iff]
    simp only [Bool.and_eq_true, beq_iff_eq, holding, Prod.mk.injEq, decide_eq_true_eq]
    exact ⟨fun ⟨⟨user, role⟩, tenant⟩ => ⟨tenant, user, role⟩, fun ⟨tenant, user, role⟩ =>
      ⟨⟨user, role⟩, tenant⟩⟩
  rw [← alike]
  exact findOne_select within

structure Accepted (session : Session) (db : Db) (userId tenantId : Id)
    (items : List (AssignRoleDto Id)) : Prop where
  user : (userOf session db userId tenantId).isSome = true
  roles : ∀ item ∈ items, (roleOf session db item.roleId tenantId).isSome = true

theorem not_accepted_of_user {items : List (AssignRoleDto Id)}
    (missing : userOf session before userId tenantId = none) :
    ¬Accepted session before userId tenantId items := by
  intro accepted
  have present := accepted.user
  rw [missing] at present
  cases present

theorem not_accepted_of_role {items : List (AssignRoleDto Id)} {item : AssignRoleDto Id}
    (member : item ∈ items) (missing : roleOf session before item.roleId tenantId = none) :
    ¬Accepted session before userId tenantId items := by
  intro accepted
  have present := accepted.roles item member
  rw [missing] at present
  cases present

theorem During.userOf (during : During ids limit before content count tx) :
    userOf session tx.db userId tenantId = userOf session before userId tenantId := by
  rw [during.others]
  rfl

theorem During.roleOf (during : During ids limit before content count tx) :
    roleOf session tx.db roleId tenantId = roleOf session before roleId tenantId := by
  rw [during.others]
  rfl

theorem During.assignable (during : During ids limit before content count tx)
    (assignable : Assignable session before userId tenantId) :
    Assignable session tx.db userId tenantId := by
  rw [during.others]
  exact ⟨assignable.tenant, assignable.user, assignable.admits⟩

theorem admits_of_holding {row : UserRoleEntity}
    (same : holding row = (value tenantId, value userId, value roleId))
    (admits : session.admits (value tenantId) = true) : session.admits row.tenantId = true := by
  have tenant : row.tenantId = value tenantId := congrArg Prod.fst same
  rw [tenant]
  exact admits

/-- Lookups within the transaction find what they find before it. -/
theorem wp_requireUser {next : UserEntity → Tx (effects Id) Db → Prop}
    (during : During ids limit before content count tx)
    (present : (userOf session before userId tenantId).isSome = true → ∀ user, next user tx)
    (absent : userOf session before userId tenantId = none → ∀ error, fail error tx) :
    wp (engine Id session) ids (attached Id) (requireUser userId tenantId) next fail tx := by
  rw [← during.userOf] at present absent
  exact wp_orThrow (fun user found => present (Option.isSome_iff_exists.mpr ⟨user, found⟩) user)
    fun missing => absent missing _

theorem wp_lookupRole {next : RoleEntity → Tx (effects Id) Db → Prop}
    (during : During ids limit before content count tx)
    (present : (roleOf session before roleId tenantId).isSome = true → ∀ role, next role tx)
    (absent : roleOf session before roleId tenantId = none → ∀ error, fail error tx) :
    wp (engine Id session) ids (attached Id) (findOneForTenant roleId tenantId) next fail tx := by
  rw [← during.roleOf] at present absent
  exact wp_orThrow (fun role found => present (Option.isSome_iff_exists.mpr ⟨role, found⟩) role)
    fun missing => absent missing _

/-- Whichever way it takes, renewing or inserting, saving leaves the assignment with the new expiry. -/
theorem wp_saveAssignment {dto : AssignRoleDto Id} (distinct : Distinct ids limit)
    (during : During ids limit before content count tx) (room : count < limit)
    (assignable : Assignable session before userId tenantId)
    (known : (roleOf session before dto.roleId tenantId).isSome = true) :
    wp (engine Id session) ids (attached Id) (saveAssignment userId tenantId dto)
      (fun _ => During ids limit before
        (content.put (value tenantId, value userId, value dto.roleId) dto.expiresAt) (count + 1))
      fail tx := by
  have assignable := during.assignable assignable
  have role : tx.db.hasRole (value dto.roleId) = true := by
    rw [← during.roleOf] at known
    exact hasRole_of_found known
  unfold saveAssignment findAssignment
  simp only [wp_bind, wp_visible, wp_pure]
  rw [shown_assignment assignable.admits]
  cases found : tx.db.userRoles.findOne fun row =>
      decide (holding row = (value tenantId, value userId, value dto.roleId)) with
  | some existing =>
    obtain ⟨member, same⟩ := (findOne_unique during.single).mp found
    have admits : session.admits existing.tenantId = true := admits_of_holding same assignable.admits
    have seen : ((shown session tx.db).userRoles.any fun ur => ur.id == existing.id) = true :=
      any_iff.mpr ⟨existing, mem_select.mpr ⟨member, admits⟩, by simp⟩
    unfold renewAssignment
    simp only [wp_bind, wp_visible]
    rw [if_pos seen, wp_bind]
    refine wp_persist_applied trivial rfl ?_
    have updated := during.update member admits dto.expiresAt
    rw [same] at updated
    exact (updated.mono (Nat.le_succ count)).told _ _
  | none =>
    have free : ∀ other ∈ tx.db.userRoles,
        holding other ≠ (value tenantId, value userId, value dto.roleId) := by
      intro other member same
      have missed := findOne_none.mp found other member
      simp [same] at missed
    simp only [wp_bind, wp_newId]
    obtain ⟨userRoles, inserted, applied⟩ := @insertUserRole_applied session tx.db
      ⟨ids tx.generated, value tenantId, value userId, value dto.roleId,
        dto.expiresAt⟩ assignable.tenant assignable.user
        role assignable.admits
      fun other member =>
        during.fresh other member tx.generated (Nat.lt_of_le_of_lt during.drawn room) (Nat.le_refl _)
    refine wp_persist_applied trivial applied ?_
    exact (during.insert distinct room inserted rfl free).told _ _

def granted (userId tenantId : Id) (items : List (AssignRoleDto Id))
    (content : Assignments) : Assignments :=
  items.foldl (fun content item =>
    content.put (value tenantId, value userId, value item.roleId) item.expiresAt) content

def revoked (userId tenantId : Id) (roleIds : List Id) (content : Assignments) : Assignments :=
  roleIds.foldl (fun content roleId => content.removeWhere fun at_ =>
    decide (at_ = (value tenantId, value userId, value roleId))) content

omit [Identifier Id] in
theorem sameFresh_foldl {ι : Type} {stale : Option Time → Bool}
    {change : Assignments → ι → Assignments}
    (keeps : ∀ {first second} item, Store.SameFresh stale first second →
      Store.SameFresh stale (change first item) (change second item))
    {items : List ι} {first second : Assignments} (same : Store.SameFresh stale first second) :
    Store.SameFresh stale (items.foldl change first) (items.foldl change second) := by
  induction items generalizing first second with
  | nil => exact same
  | cons item rest ih => exact ih (keeps item same)

theorem granted_sameFresh {stale : Option Time → Bool} {first second : Assignments}
    (items : List (AssignRoleDto Id)) (same : Store.SameFresh stale first second) :
    Store.SameFresh stale (granted userId tenantId items first)
      (granted userId tenantId items second) := by
  refine sameFresh_foldl ?_ same
  intro _ _ item before
  exact before.put _ item.expiresAt

theorem revoked_sameFresh {stale : Option Time → Bool} {first second : Assignments} (roleIds : List Id)
    (same : Store.SameFresh stale first second) :
    Store.SameFresh stale (revoked userId tenantId roleIds first)
      (revoked userId tenantId roleIds second) := by
  refine sameFresh_foldl ?_ same
  intro _ _ roleId before
  exact before.removeWhere _

theorem wp_addRole {item : AssignRoleDto Id} (distinct : Distinct ids limit)
    (during : During ids limit before content count tx) (room : count < limit)
    (assignable : Assignable session before userId tenantId)
    (refused : roleOf session before item.roleId tenantId = none → ∀ error after, fail error after) :
    wp (engine Id session) ids (attached Id) (addRole userId tenantId actorId item)
      (fun _ after => (roleOf session before item.roleId tenantId).isSome = true ∧
        During ids limit before
          (content.put (value tenantId, value userId, value item.roleId) item.expiresAt)
          (count + 1) after)
      fail tx := by
  unfold addRole
  rw [wp_bind]
  refine wp_lookupRole during ?_ fun missing error => refused missing error tx
  intro known role
  rw [wp_bind]
  refine wp_mono (wp_saveAssignment distinct during room assignable known) ?_ fun _ _ failed => failed
  intro _ after saved
  exact ⟨known, saved.told after.log _⟩

theorem wp_removeRole (during : During ids limit before content count tx)
    (admits : session.admits (value tenantId) = true) :
    wp (engine Id session) ids (attached Id) (removeRole userId tenantId actorId roleId)
      (fun _ => During ids limit before
        (content.removeWhere fun at_ => decide (at_ = (value tenantId, value userId, value roleId)))
          count) fail tx := by
  unfold removeRole findAssignment
  simp only [wp_bind, wp_visible, wp_pure]
  rw [shown_assignment admits]
  cases found : tx.db.userRoles.findOne fun row =>
      decide (holding row = (value tenantId, value userId, value roleId)) with
  | none =>
    have absent : content (value tenantId, value userId, value roleId) = none := by
      rw [← during.content, assignments, index, found]
      rfl
    rw [Store.removeWhere_absent absent]
    exact during
  | some assignment =>
    obtain ⟨member, same⟩ := (findOne_unique during.single).mp found
    rw [wp_bind]
    refine wp_persist_applied trivial rfl ?_
    have removed := during.delete member (admits_of_holding same admits)
    rw [same] at removed
    exact removed.told _ _

theorem wp_assignToUser {dto : AssignRoleDto Id} (distinct : Distinct ids 1)
    (during : During ids 1 before content 0 tx)
    (referenced : ∀ user ∈ before.users, before.hasTenant user.tenantId = true) :
    wp (engine Id session) ids (attached Id) (assignToUser userId tenantId dto actorId)
      (fun _ after => Accepted session before userId tenantId [dto] ∧
        During ids 1 before (granted userId tenantId [dto] content) 1 after)
      (fun _ _ => ¬Accepted session before userId tenantId [dto]) tx := by
  unfold assignToUser
  rw [wp_bind]
  refine wp_requireUser during ?_ fun missing _ => not_accepted_of_user missing
  intro found _
  rw [wp_bind]
  refine wp_lookupRole during ?_ fun missing _ => not_accepted_of_role List.mem_cons_self missing
  intro known _
  rw [wp_bind]
  refine wp_mono
    (wp_saveAssignment distinct during Nat.one_pos (assignable_of_found referenced found) known) ?_
    fun _ _ failed => failed
  intro _ after saved
  exact ⟨⟨found, by simpa using known⟩, saved.told after.log _⟩

theorem wp_updateUserRoles {dto : UpdateUserRolesDto Id} (distinct : Distinct ids dto.add.length)
    (during : During ids dto.add.length before content 0 tx)
    (referenced : ∀ user ∈ before.users, before.hasTenant user.tenantId = true) :
    wp (engine Id session) ids (attached Id) (updateUserRoles userId tenantId dto actorId)
      (fun _ after => Accepted session before userId tenantId dto.add ∧
        During ids dto.add.length before
          (revoked userId tenantId dto.remove (granted userId tenantId dto.add content))
          dto.add.length after)
      (fun _ _ => ¬Accepted session before userId tenantId dto.add) tx := by
  unfold updateUserRoles
  rw [wp_bind]
  refine wp_requireUser during ?_ fun missing _ => not_accepted_of_user missing
  intro found _
  have assignable := assignable_of_found referenced found
  rw [wp_bind]
  -- the roles that have been added so far were all found
  refine @wp_forEach_done _ _ _ _ _ _ _ _ (fun done after =>
    (∀ item ∈ done, (roleOf session before item.roleId tenantId).isSome = true) ∧
    During ids dto.add.length before (granted userId tenantId done content) done.length after) _ _ _
      ⟨by simp, during⟩ ?_ ?_
  · intro done item rest whole now soFar
    obtain ⟨known, under⟩ := soFar
    have member : item ∈ dto.add := by
      rw [← whole]
      simp
    have room : done.length < dto.add.length := by
      rw [← whole]
      simp
    refine wp_mono (wp_addRole distinct under room assignable fun missing _ _ =>
      not_accepted_of_role member missing) ?_ fun _ _ failed => failed
    intro _ after oneMore
    obtain ⟨present, added⟩ := oneMore
    refine ⟨?_, by simpa [granted] using added⟩
    intro other listed
    rcases List.mem_append.mp listed with old | new
    · exact known other old
    · rw [List.mem_singleton.mp new]
      exact present
  · intro after allAdded
    obtain ⟨known, under⟩ := allAdded
    rw [wp_bind]
    refine @wp_forEach_done _ _ _ _ _ _ _ _ (fun done later => During ids dto.add.length before
      (revoked userId tenantId done (granted userId tenantId dto.add content)) dto.add.length later) _ _
        _ under ?_ ?_
    · intro done roleId rest _ now within
      refine wp_mono (wp_removeRole within assignable.admits) ?_ fun _ _ failed => failed
      intro _ later removed
      simpa [revoked] using removed
    · intro later ended
      exact ⟨⟨found, known⟩, ended.told later.log _⟩

omit [Identifier Id] in
/-- A request goes through with its change, or nothing remains of it. -/
theorem served_cases {α : Type} {handler : Handler Id α} {accepted : Prop} {db : Db}
    (holds : wp (engine Id session) ids (attached Id) handler (fun _ after => accepted ∧
      During ids limit db content count after)
      (fun _ _ => ¬accepted) { db }) :
    (accepted ∧ Leaves ids limit db content (serve (engine Id session) ids handler db).db) ∨
      (¬accepted ∧ (serve (engine Id session) ids handler db).db = db) := by
  have ended := serve_post holds
  cases result : (serve (engine Id session) ids handler db).result with
  | ok value =>
    rw [result] at ended
    obtain ⟨⟨passed, during⟩, committed⟩ := ended
    rw [committed]
    exact .inl ⟨passed, during.toLeaves⟩
  | error error =>
    have undone := serve_undone holds (fun impossible => impossible) result
    rw [result] at ended
    exact .inr ⟨ended.1, undone⟩

end Requests

end GenericIam.HeldRoles
