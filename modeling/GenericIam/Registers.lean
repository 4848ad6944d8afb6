import GenericIam.Coherence
import GenericIam.Promises
import GenericIam.SuperAdminRequests

/-! What an id stands for stays the same for good, whoever has changed its row meanwhile. So a
statement does what the events of its request announce even if others have been at work
since the rows that it goes by were read. -/

namespace GenericIam.Registers
open Table Database EffectivePermissions Identifiers CacheKeys
open AuthorizationCheck Events Transaction Handlers RbacServices
open AccountServices TenantWrites Operations Footprint SuperAdminRequests

/-- The tenant of a custom role, tenant and user of an assignment and of an override, the
role of a mapping, and all of an ACL entry. -/
structure Registry where
  home : Uuid → Option Uuid
  assignment : Uuid → Uuid × Uuid
  override : Uuid → Uuid × Uuid
  mapping : Uuid → Uuid
  acl : Uuid → ResourceAclEntity

def homeOf (role : RoleEntity) : Option Uuid := if role.isSystem then none else role.tenantId

def Registry.AtHome (registry : Registry) (tenantId roleId : Uuid) : Prop :=
  ∀ owner, registry.home roleId = some owner → owner = tenantId

def Filled (acl : ResourceAclEntity) : Prop :=
  acl.resourceType ≠ "" ∧ acl.resourceId ≠ "" ∧ acl.permission ≠ ""

structure Filed (registry : Registry) (db : Db) : Prop where
  roles : ∀ role ∈ db.roles, registry.home role.id = homeOf role
  assignments : ∀ ur ∈ db.userRoles, registry.assignment ur.id = (ur.tenantId, ur.userId) ∧
    registry.AtHome ur.tenantId ur.roleId
  overrides : ∀ o ∈ db.userPermissionOverrides, registry.override o.id = (o.tenantId, o.userId)
  mappings : ∀ rp ∈ db.rolePermissions, registry.mapping rp.id = rp.roleId
  acls : ∀ acl ∈ db.resourceAcls, registry.acl acl.id = acl ∧ Filled acl

def Registry.Names (registry : Registry) : Write → Prop
  | .insertRole row => registry.home row.id = homeOf row
  | .insertRolePermission row => registry.mapping row.id = row.roleId
  | .insertUserRole row => registry.assignment row.id = (row.tenantId, row.userId)
  | .insertOverride row => registry.override row.id = (row.tenantId, row.userId)
  | .insertAcl row => registry.acl row.id = row
  | _ => True

/-- What the ids of a database stand for; the others stand for what they are drawn for. -/
def Registry.filing (fresh : Registry) (db : Db) : Registry where
  home id := ((db.roles.findOne fun role => key role == id).map homeOf).getD (fresh.home id)
  assignment id :=
    ((db.userRoles.findOne fun ur => key ur == id).map fun ur => (ur.tenantId, ur.userId)).getD
    (fresh.assignment id)
  override id :=
    ((db.userPermissionOverrides.findOne fun o => key o == id).map fun o => (o.tenantId, o.userId)).getD
    (fresh.override id)
  mapping id :=
    ((db.rolePermissions.findOne fun rp => key rp == id).map (·.roleId)).getD (fresh.mapping id)
  acl id := (db.resourceAcls.findOne fun acl => key acl == id).getD (fresh.acl id)

/-- A role that a tenant may use is for the tenant. -/
theorem atHome_of_usable {registry : Registry} {role : RoleEntity} {tenantId : Uuid}
    (home : registry.home role.id = homeOf role)
    (usable : role.isSystem = true ∨ role.tenantId = some tenantId) :
    registry.AtHome tenantId role.id := by
  intro owner same
  rw [home, homeOf] at same
  rcases usable with system | own
  · rw [system] at same
    cases same
  · rw [own] at same
    split at same
    · cases same
    · exact (Option.some.inj same).symm

/-- As long as rows are held together, every database can be filed. -/
theorem filed_filing {db : Db} (consistent : Consistent db) (fresh : Registry) :
    Filed (fresh.filing db) db := by
  have homes : ∀ role ∈ db.roles, (fresh.filing db).home role.id = homeOf role := fun role present =>
    congrArg (fun found => (Option.map homeOf found).getD (fresh.home role.id))
      (findOne_key.mpr ⟨present, rfl⟩)
  refine ⟨homes, fun ur present => ⟨?_, ?_⟩, fun o present => ?_, fun rp present => ?_,
      fun acl present =>
    ⟨?_, consistent.filled acl present⟩⟩
  · exact congrArg (fun found =>
      (Option.map (fun ur : UserRoleEntity => (ur.tenantId, ur.userId)) found).getD
      (fresh.assignment ur.id))
      (findOne_key.mpr ⟨present, rfl⟩)
  · obtain ⟨role, kept, same, usable⟩ := consistent.held ur present
    rw [← same]
    exact atHome_of_usable (homes role kept) usable
  · exact congrArg (fun found =>
      (Option.map (fun o : UserPermissionOverrideEntity => (o.tenantId, o.userId)) found).getD
      (fresh.override o.id))
      (findOne_key.mpr ⟨present, rfl⟩)
  · exact congrArg (fun found =>
      (Option.map (fun rp : RolePermissionEntity => rp.roleId) found).getD (fresh.mapping rp.id))
      (findOne_key.mpr ⟨present, rfl⟩)
  · exact congrArg (fun found => found.getD (fresh.acl acl.id)) (findOne_key.mpr ⟨present, rfl⟩)

/-- The statements of a tenant and of super admins, whenever they come. Roles are deleted by
requests of their own. -/
def Lawful (registry : Registry) (now : Time) (owner : Uuid) : Write → Prop
  | .updateRole row => registry.home row.id = homeOf row
  | .insertRolePermission row => registry.home row.roleId = some owner
  | .deleteRolePermission row =>
    registry.mapping row.id = row.roleId ∧ registry.home row.roleId = some owner
  | .insertUserRole row => registry.AtHome row.tenantId row.roleId
  | .updateUserRole row | .deleteUserRole row => registry.assignment row.id = (row.tenantId, row.userId)
  | .updateOverride row | .deleteOverride row => registry.override row.id = (row.tenantId, row.userId)
  | .insertAcl row => Filled row
  | .deleteAcl row => registry.acl row.id = row ∧ Filled row
  | .deleteExpiredUserRoles purged => purged = now
  | .insertPermission _ | .deleteRole _ => False
  | _ => True

section Statements
variable {registry : Registry} {now : Time} {owner tenantId userId : Uuid} {session : Session}
  {write : Write} {db db' : Db}

theorem filed_apply (filed : Filed registry db) (lawful : Lawful registry now owner write)
    (named : registry.Names write) (applied : write.apply session db = some db') :
    Filed registry db' where
  roles role present := by
    rcases mem_roles_apply applied present with before | rfl | ⟨row, rfl, old, _, same, rfl⟩
    · exact filed.roles role before
    · exact named
    · exact (congrArg registry.home same).trans lawful
  assignments ur present := by
    rcases mem_userRoles_apply applied present with ⟨old, before, same⟩ | rfl
    · rw [same]
      exact filed.assignments old before
    · exact ⟨named, lawful⟩
  overrides o present := by
    rcases mem_overrides_apply applied present with ⟨old, before, same⟩ | rfl
    · rw [same]
      exact filed.overrides old before
    · exact named
  mappings rp present := by
    rcases mem_rolePermissions_apply applied present with before | rfl
    · exact filed.mappings rp before
    · exact named
  acls acl present := by
    rcases mem_resourceAcls_apply applied present with before | rfl
    · exact filed.acls acl before
    · exact ⟨named, lawful⟩

theorem filed_deleteRole (filed : Filed registry db) (roleId : Uuid) :
    Filed registry (db.deleteRole session roleId) := by
  rcases deleteRole_eq session db roleId with same | changed
  · rw [same]
    exact filed
  · rw [changed]
    exact ⟨fun role present => filed.roles role (mem_select.mp present).1,
      fun ur present => filed.assignments ur (mem_select.mp present).1,
      filed.overrides, fun rp present => filed.mappings rp (mem_select.mp present).1, filed.acls⟩

/-- A lawful statement leaves the permissions of every user alone whom it does not affect,
whatever has become of the rows since. -/
theorem sameRows_of_lawful (filed : Filed registry db) (lawful : Lawful registry now owner write)
    (applied : write.apply session db = some db')
    (unaffected : ¬Affects owner tenantId userId write) : SameRows now tenantId userId db db' := by
  have frame := sameBut_apply applied
  have elsewhere : ∀ {ur : UserRoleEntity}, ur ∈ db.userRoles → ur.tenantId = tenantId →
    ∀ {roleId}, ur.roleId = roleId →
      registry.home roleId = some owner → owner = tenantId := by
    intro ur assigned tenant roleId role home
    subst role
    exact ((filed.assignments ur assigned).2 owner home).trans tenant
  cases write with
  | insertRolePermission row =>
    obtain ⟨rolePermissions, inserted, rfl⟩ := insertRolePermission_some applied
    refine ⟨rfl, fun _ _ _ _ => Iff.rfl, ?_, fun _ _ _ => Iff.rfl⟩
    intro ur assigned tenant _ rp role
    refine (mem_insert inserted).trans ⟨fun either => either.resolve_right ?_, .inl⟩
    intro same
    obtain rfl := same
    exact unaffected (elsewhere assigned tenant role.symm lawful)
  | deleteRolePermission row =>
    cases applied
    refine ⟨rfl, fun _ _ _ _ => Iff.rfl, ?_, fun _ _ _ => Iff.rfl⟩
    intro ur assigned tenant _ rp role
    simp only [Db.deleteRolePermission]
    refine mem_select_away fun present hit => ?_
    simp only [Bool.not_eq_false', Bool.and_eq_true, beq_iff_eq] at hit
    have stands : rp.roleId = row.roleId := by rw [← filed.mappings rp present, hit.1, lawful.1]
    exact unaffected (elsewhere assigned tenant (role.symm.trans stands) lawful.2)
  | insertUserRole row =>
    obtain ⟨userRoles, inserted, rfl⟩ := insertUserRole_some applied
    refine ⟨rfl, ?_, fun _ _ _ _ _ _ => Iff.rfl, fun _ _ _ => Iff.rfl⟩
    intro ur tenant user _
    refine (mem_insert inserted).trans ⟨fun either => either.resolve_right ?_, .inl⟩
    intro same
    obtain rfl := same
    exact unaffected ⟨tenant, user⟩
  | updateUserRole row =>
    cases applied
    refine ⟨rfl, ?_, fun _ _ _ _ _ _ => Iff.rfl, fun _ _ _ => Iff.rfl⟩
    intro ur tenant user _
    simp only [Db.updateUserRole]
    refine mem_modify_away fun old present hit => ?_
    simp only [Bool.and_eq_true, beq_iff_eq] at hit
    have stands := (filed.assignments old present).1
    rw [hit.1, lawful, Prod.mk.injEq] at stands
    refine ⟨?_, ?_⟩
    · intro same
      obtain rfl := same
      exact unaffected ⟨stands.1.trans tenant, stands.2.trans user⟩
    · intro same
      obtain rfl := same
      exact unaffected ⟨stands.1.trans tenant, stands.2.trans user⟩
  | deleteUserRole row =>
    cases applied
    refine ⟨rfl, ?_, fun _ _ _ _ _ _ => Iff.rfl, fun _ _ _ => Iff.rfl⟩
    intro ur tenant user _
    simp only [Db.deleteUserRole]
    refine mem_select_away fun present hit => ?_
    simp only [Bool.not_eq_false', Bool.and_eq_true, beq_iff_eq] at hit
    have stands := (filed.assignments ur present).1
    rw [hit.1, lawful, Prod.mk.injEq] at stands
    exact unaffected ⟨stands.1.trans tenant, stands.2.trans user⟩
  | insertOverride row =>
    obtain ⟨overrides, inserted, rfl⟩ := insertOverride_some applied
    refine ⟨rfl, fun _ _ _ _ => Iff.rfl, fun _ _ _ _ _ _ => Iff.rfl, ?_⟩
    intro o tenant user
    refine (mem_insert inserted).trans ⟨fun either => either.resolve_right ?_, .inl⟩
    intro same
    obtain rfl := same
    exact unaffected ⟨tenant, user⟩
  | updateOverride row =>
    cases applied
    refine ⟨rfl, fun _ _ _ _ => Iff.rfl, fun _ _ _ _ _ _ => Iff.rfl, ?_⟩
    intro o tenant user
    simp only [Db.updateOverride]
    refine mem_modify_away fun old present hit => ?_
    simp only [Bool.and_eq_true, beq_iff_eq] at hit
    have stands := filed.overrides old present
    rw [hit.1, lawful, Prod.mk.injEq] at stands
    refine ⟨?_, ?_⟩
    · intro same
      obtain rfl := same
      exact unaffected ⟨stands.1.trans tenant, stands.2.trans user⟩
    · intro same
      obtain rfl := same
      exact unaffected ⟨stands.1.trans tenant, stands.2.trans user⟩
  | deleteOverride row =>
    cases applied
    refine ⟨rfl, fun _ _ _ _ => Iff.rfl, fun _ _ _ _ _ _ => Iff.rfl, ?_⟩
    intro o tenant user
    simp only [Db.deleteOverride]
    refine mem_select_away fun present hit => ?_
    simp only [Bool.not_eq_false', Bool.and_eq_true, beq_iff_eq] at hit
    have stands := filed.overrides o present
    rw [hit.1, lawful, Prod.mk.injEq] at stands
    exact unaffected ⟨stands.1.trans tenant, stands.2.trans user⟩
  | deleteExpiredUserRoles purged =>
    cases applied
    cases lawful
    exact sameRows_deleteExpired
  | insertPermission _ | deleteRole _ => exact lawful.elim
  | _ =>
    exact .of_tables (frame.permissions (by simp [Write.changes]))
      (frame.userRoles (by simp [Write.changes]))
      (frame.rolePermissions (by simp [Write.changes]))
        (frame.userPermissionOverrides (by simp [Write.changes]))

/-- Nor does it touch what the access list says of an entry that it is not about. -/
theorem aclExists_of_lawful {dto : CheckAclDto Uuid} (filed : Filed registry db)
    (lawful : Lawful registry now owner write) (applied : write.apply session db = some db')
    (unaffected : ¬AffectsAcl tenantId dto write) :
    aclExists db' tenantId dto = aclExists db tenantId dto := by
  apply aclExists_congr
  intro acl answers
  have frame := sameBut_apply applied
  cases write with
  | insertAcl row =>
    obtain ⟨resourceAcls, inserted, rfl⟩ := insertAcl_some applied
    refine (mem_insert inserted).trans ⟨fun either => either.resolve_right ?_, .inl⟩
    intro same
    obtain rfl := same
    exact unaffected answers
  | deleteAcl row =>
    cases applied
    simp only [Db.deleteAcl]
    refine mem_select_away fun present hit => ?_
    simp only [Bool.not_eq_false', Bool.and_eq_true, beq_iff_eq] at hit
    have whole : acl = row := by rw [← (filed.acls acl present).1, hit.1, lawful.1]
    subst whole
    exact unaffected answers
  | deleteRole _ => exact lawful.elim
  | _ => rw [frame.resourceAcls (by simp [Write.changes])]

structure SameReads (now : Time) (tenantId userId : Uuid) (db db' : Db) : Prop where
  permissions : db'.permissions = db.permissions
  roles : ∀ roleId, roleId ∈ (getUserRoles db' now userId tenantId).map (·.roleId) ↔
    roleId ∈ (getUserRoles db now userId tenantId).map (·.roleId)
  grants : ∀ p, RoleGrants db' now userId tenantId p ↔ RoleGrants db now userId tenantId p
  overrides : ∀ type p, Overrides db' type userId tenantId p ↔ Overrides db type userId tenantId p

theorem SameReads.refl (now : Time) (tenantId userId : Uuid) (db : Db) :
    SameReads now tenantId userId db db :=
  ⟨rfl, fun _ => Iff.rfl, fun _ => Iff.rfl, fun _ _ => Iff.rfl⟩

theorem SameReads.trans {mid : Db} (first : SameReads now tenantId userId db mid)
    (second : SameReads now tenantId userId mid db') :
    SameReads now tenantId userId db db' :=
  ⟨second.permissions.trans first.permissions, fun roleId =>
    (second.roles roleId).trans (first.roles roleId),
    fun p => (second.grants p).trans (first.grants p), fun type p =>
      (second.overrides type p).trans (first.overrides type p)⟩

theorem SameReads.of_sameRows (same : SameRows now tenantId userId db db') :
    SameReads now tenantId userId db db' where
  permissions := same.permissions
  roles roleId := by
    simp only [List.mem_map, mem_getUserRoles]
    refine exists_congr fun ur => and_congr_left fun _ => and_congr_left fun own => ?_
    exact same.assignments ur own.2.1 own.1 own.2.2
  grants := same.roleGrants
  overrides := same.overridden

theorem SameReads.codes (same : SameReads now tenantId userId db db') (code : String) :
    code ∈ effectiveCodes db' now userId tenantId ↔ code ∈ effectiveCodes db now userId tenantId := by
  simp only [mem_effectiveCodes, same.permissions, same.grants, same.overrides]

end Statements

/-! A whole transaction, replayed on what is committed by its end. -/

section Replay
variable {registry : Registry} {now : Time} {owner : Uuid} {session : Session}
  {log : List Write} {db own : Db}

structure Carried (registry : Registry) (now : Time) (owner : Uuid) (log : List Write)
    (db own : Db) : Prop where
  filed : Filed registry own
  reads : ∀ tenantId userId, (∀ write ∈ log, ¬Affects owner tenantId userId write) →
    SameReads now tenantId userId db own
  acls : ∀ (tenantId : Uuid) dto, (∀ write ∈ log, ¬AffectsAcl tenantId dto write) →
    aclExists own tenantId dto = aclExists db tenantId dto

theorem replay_cons {write : Write} {rest : List Write}
    (seen : ReadCommitted.replay (engine Uuid session) (write :: rest) db = some own) :
    ∃ mid, write.apply session db = some mid ∧
      ReadCommitted.replay (engine Uuid session) rest mid = some own := by
  unfold ReadCommitted.replay at seen
  rw [List.foldlM_cons] at seen
  obtain ⟨mid, went, later⟩ := Option.bind_eq_some_iff.mp seen
  refine ⟨mid, ?_, later⟩
  cases answer : send session write db with
  | ok after =>
    have same : some after = some mid := by
      rw [← went]
      simp only [engine, answer]
      rfl
    cases same
    exact send_ok answer
  | error why =>
    simp only [engine, answer] at went
    cases went

theorem carried_replay
    (lawful : ∀ write ∈ log, Lawful registry now owner write ∧ registry.Names write)
    (filed : Filed registry db)
    (seen : ReadCommitted.replay (engine Uuid session) log db = some own) :
    Carried registry now owner log db own := by
  induction log generalizing db with
  | nil =>
    cases seen
    exact ⟨filed, fun _ _ _ => .refl .., fun _ _ _ => rfl⟩
  | cons write rest ih =>
    obtain ⟨mid, applied, later⟩ := replay_cons seen
    obtain ⟨allowed, named⟩ := lawful write List.mem_cons_self
    have carried := ih (fun other member => lawful other (List.mem_cons_of_mem _ member))
      (filed_apply filed allowed named applied) later
    refine ⟨carried.filed, fun t u away => ?_, fun t dto away => ?_⟩
    · have first :=
        SameReads.of_sameRows (sameRows_of_lawful filed allowed applied (away write List.mem_cons_self))
      exact first.trans (carried.reads t u fun other member =>
        away other (List.mem_cons_of_mem _ member))
    · rw [carried.acls t dto fun other member => away other (List.mem_cons_of_mem _ member)]
      exact aclExists_of_lawful filed allowed applied (away write List.mem_cons_self)

/-- A transaction that deletes roles which nobody has by then. -/
theorem carried_deletions (deletions : ∀ write ∈ log, ∃ row, write = .deleteRole row)
    (unheld : ∀ row, Write.deleteRole row ∈ log → ∀ ur ∈ db.userRoles, ur.roleId ≠ row.id)
    (filed : Filed registry db)
    (seen : ReadCommitted.replay (engine Uuid session) log db = some own) :
    Carried registry now owner log db own := by
  induction log generalizing db with
  | nil =>
    cases seen
    exact ⟨filed, fun _ _ _ => .refl .., fun _ _ _ => rfl⟩
  | cons write rest ih =>
    obtain ⟨mid, applied, later⟩ := replay_cons seen
    obtain ⟨row, rfl⟩ := deletions write List.mem_cons_self
    cases applied
    have fewer : ∀ ur ∈ (db.deleteRole session row.id).userRoles, ur ∈ db.userRoles := by
      intro ur present
      rcases deleteRole_eq session db row.id with same | changed
      · rw [same] at present
        exact present
      · rw [changed] at present
        exact (mem_select.mp present).1
    have carried := ih (fun other member => deletions other (List.mem_cons_of_mem _ member))
      (fun other member ur present =>
        unheld other (List.mem_cons_of_mem _ member) ur (fewer ur present))
        (filed_deleteRole filed row.id) later
    have nobody := unheld row List.mem_cons_self
    refine ⟨carried.filed, fun t u away => ?_, fun t dto away => ?_⟩
    · have first : SameReads now t u db (db.deleteRole session row.id) :=
        .of_sameRows (sameRows_deleteRole_unheld nobody)
      exact first.trans (carried.reads t u fun other member =>
        away other (List.mem_cons_of_mem _ member))
    · rw [carried.acls t dto fun other member => away other (List.mem_cons_of_mem _ member)]
      apply aclExists_congr
      intro acl _
      rcases deleteRole_eq session db row.id with same | changed
      · rw [same]
      · rw [changed]

end Replay

/-! What the handlers promise, whatever they read of a database in which every row is what its id
stands for. -/

section Promises
variable {Id α : Type} [Identifier Id] {registry : Registry} {now : Time} {tenantId : Id} {owner : Uuid}
  {session : Session}
  {events : List (Event Id)} {log : List Write}

def lawful (Id : Type) (registry : Registry) (now : Time) (owner : Uuid) (session : Session) :
    Guard (effects Id) where
  sees view := ∃ db, Filed registry db ∧ view = shown session db
  sends := Lawful registry now owner
  detaches write := ∃ userId, write = .deleteRefreshTokensOf userId

def deleting (Id : Type) : Guard (effects Id) where
  sees _ := True
  sends write := ∃ row, write = .deleteRole row
  detaches _ := False

section Rules
variable {guard : Guard (effects Id)}

omit [Identifier Id]

theorem promises_visible {post : Db → List (Event Id) → List Write → Prop} :
    Promises guard visible post events log ↔ ∀ view, guard.sees view → post view events log := Iff.rfl

@[simp] theorem promises_newId {post : Uuid → List (Event Id) → List Write → Prop} :
    Promises guard newId post events log ↔ ∀ id, post id events log := Iff.rfl

@[simp] theorem promises_emit {event : Event Id} {post : Unit → List (Event Id) → List Write → Prop} :
    Promises guard (emit event) post events log ↔ post () (events ++ [event]) log := Iff.rfl

theorem promises_persist {write : Write} {post : Unit → List (Event Id) → List Write → Prop}
    (sends : guard.sends write) (done : post () events (log ++ [write])) :
    Promises guard (persist write) post events log := ⟨sends, done, fun _ => trivial⟩

theorem promises_refuseIf {condition : Bool} {error : HttpException}
    {post : Unit → List (Event Id) → List Write → Prop}
    (passed : condition = false → post () events log) :
    Promises guard (refuseIf condition error) post events log := by
  cases condition with
  | false => exact passed rfl
  | true => trivial

theorem promises_orThrow {found : Option α} {error : HttpException}
    {post : α → List (Event Id) → List Write → Prop}
    (present : ∀ row, found = some row → post row events log) :
    Promises guard (orThrow found error) post events log := by
  cases found with
  | none => trivial
  | some row => exact present row rfl

end Rules

abbrev Vows (registry : Registry) (now : Time) (tenantId : Id) (handler : Handler Id α)
    (post : α → List (Event Id) → List Write → Prop)
    (events : List (Event Id)) (log : List Write) : Prop :=
  Promises (lawful Id registry now (value tenantId) (.tenantUser (value tenantId)))
    handler post events log

theorem vows_visible {post : Db → List (Event Id) → List Write → Prop}
    (all : ∀ db, Filed registry db → post (shown (.tenantUser (value tenantId)) db) events log) :
    Vows registry now tenantId visible post events log := by
  intro _ holds
  obtain ⟨db, filed, rfl⟩ := holds
  exact all db filed

/-- A role that the tenant may use is for the tenant, and a custom one is its own. -/
theorem home_of_usable {db : Db} {role : RoleEntity} {t : Uuid} (filed : Filed registry db)
    (member : role ∈ db.roles) (usable : role.isSystem = true ∨ role.tenantId = some t) :
    registry.AtHome t role.id ∧
      (role.isSystem = false → registry.home role.id = some t ∧ role.tenantId = some t) := by
  have home := filed.roles role member
  refine ⟨atHome_of_usable home usable, fun custom => ?_⟩
  rcases usable with system | own
  · rw [system] at custom
    cases custom
  · rw [home, homeOf, custom, own]
    exact ⟨rfl, rfl⟩

theorem vows_findOneForTenant {id : Id} {post : RoleEntity → List (Event Id) → List Write → Prop}
    (found : ∀ role, role.id = value id → registry.home role.id = homeOf role →
      registry.AtHome (value tenantId) role.id →
      (role.isSystem = false → registry.home role.id = some (value tenantId) ∧
        role.tenantId = some (value tenantId)) →
      post role events log) :
    Vows registry now tenantId (findOneForTenant id tenantId) post events log := by
  unfold findOneForTenant
  rw [Vows, promises_bind]
  apply vows_visible
  intro db filed
  apply promises_orThrow
  intro role present
  obtain ⟨visible, matched⟩ := findOne_some present
  simp only [Bool.and_eq_true, beq_iff_eq] at matched
  obtain ⟨member, usable⟩ := mem_seen_roles.mp visible
  obtain ⟨atHome, custom⟩ := home_of_usable filed member usable
  exact found role matched.1 (filed.roles role member) atHome custom

abbrev Told (tenantId : Id) (events : List (Event Id)) (log : List Write) : Prop :=
  AllAnnounced (value tenantId) events log

/-! Roles and their permissions. -/

theorem vows_createCustomRole (created : Time) (dto : CreateRoleDto) (actorId : Id) (start : log = []) :
    Vows registry now tenantId (createCustomRole created tenantId dto actorId) (fun _ =>
      Told tenantId) events log := by
  unfold createCustomRole
  simp only [Vows, promises_bind, promises_newId]
  intro id
  refine promises_persist trivial ?_
  exact allAnnounced_one start trivial

theorem vows_updateCustomRole (driver : Driver) (updated : Time) (id : Id) (body : Json)
    (actorId : Id) (plain : Plain body) (start : log = []) :
    Vows registry now tenantId (updateCustomRole driver updated id tenantId body actorId) (fun _ =>
      Told tenantId) events log := by
  unfold updateCustomRole
  rw [Vows, promises_bind]
  apply vows_findOneForTenant
  intro role _ home _ _
  rw [promises_bind]
  apply promises_refuseIf
  intro _
  unfold saveRole
  simp only [promises_bind]
  apply promises_orThrow
  intro _ _
  apply vows_visible
  intro db _
  split
  · next stored found =>
    split
    · exact allAnnounced_none start
    · rw [promises_bind]
      apply promises_orThrow
      intro row overwritten
      obtain ⟨same, tenant, system⟩ := over_plain plain overwritten
      have named := (findOne_some found).2
      rw [names_plain plain, beq_iff_eq] at named
      have own : row.id = role.id := same.trans named
      have filed : registry.home row.id = homeOf row := by
        rw [own, home]
        simp only [homeOf, tenant, system]
      rw [promises_bind]
      exact promises_persist filed (allAnnounced_one start trivial)
  · rw [promises_bind]
    apply promises_orThrow
    intro _ _
    rw [promises_bind]
    exact promises_persist trivial (allAnnounced_one start trivial)

theorem promises_deleteCustomRole (id actorId : Id) (start : log = []) :
    Promises (deleting Id) (deleteCustomRole id tenantId actorId) (fun _ =>
      Told tenantId) events log := by
  unfold deleteCustomRole findOneForTenant
  simp only [promises_bind, promises_visible]
  intro _ _
  apply promises_orThrow
  intro role _
  apply promises_refuseIf
  intro _ _ _
  apply promises_refuseIf
  intro _
  exact promises_persist ⟨role, rfl⟩ (allAnnounced_one start trivial)

theorem vows_addMapping {roleId : Id} (actorId : Id) (permission : PermissionEntity)
    (home : registry.home (value roleId) = some (value tenantId))
    (told : Told tenantId [rolePermissionsChanged tenantId roleId] log) :
    Vows registry now tenantId (addMapping roleId tenantId actorId permission)
      (fun _ _ log => Told tenantId [rolePermissionsChanged tenantId roleId] log) events log := by
  unfold addMapping findMapping
  simp only [Vows, promises_bind]
  apply vows_visible
  intro db _
  rw [promises_pure]
  split
  · exact told
  · simp only [promises_bind, promises_newId]
    intro id
    exact promises_persist home (told.append (announced_mapping tenantId roleId))

theorem vows_removeMapping {roleId : Id} (actorId : Id) (permission : PermissionEntity)
    (home : registry.home (value roleId) = some (value tenantId))
    (told : Told tenantId [rolePermissionsChanged tenantId roleId] log) :
    Vows registry now tenantId (removeMapping roleId tenantId actorId permission)
      (fun _ _ log => Told tenantId [rolePermissionsChanged tenantId roleId] log) events log := by
  unfold removeMapping findMapping
  simp only [Vows, promises_bind]
  apply vows_visible
  intro db filed
  rw [promises_pure]
  split
  · exact told
  · next row found =>
    obtain ⟨member, matched⟩ := findOne_some found
    simp only [Bool.and_eq_true, beq_iff_eq] at matched
    rw [promises_bind]
    refine promises_persist ⟨filed.mappings row (mem_seen_rolePermissions.mp member).1, ?_⟩
      (told.append (announced_mapping tenantId roleId))
    rw [matched.1]
    exact home

theorem vows_updateRolePermissions (roleId : Id) (dto : UpdateRolePermissionsDto Id) (actorId : Id)
    (start : log = []) :
    Vows registry now tenantId (updateRolePermissions roleId tenantId dto actorId) (fun _ =>
      Told tenantId) events log := by
  unfold updateRolePermissions findPermissions
  rw [Vows, promises_bind]
  apply vows_findOneForTenant
  intro role same _ _ custom
  rw [promises_bind]
  apply promises_refuseIf
  intro system
  have home : registry.home (value roleId) = some (value tenantId) := by
    rw [← same]
    exact (custom system).1
  simp only [promises_bind]
  apply vows_visible
  intro db _
  rw [promises_pure]
  have first : Told tenantId [rolePermissionsChanged tenantId roleId] log := by
    rw [start]
    exact .none
  apply promises_forEach (fun _ log => Told tenantId [rolePermissionsChanged tenantId roleId] log) first
  · intro permission _ _ told
    exact vows_addMapping actorId permission home told
  · intro _ _ added
    apply vows_visible
    intro db _
    rw [promises_pure]
    apply promises_forEach (fun _ log =>
      Told tenantId [rolePermissionsChanged tenantId roleId] log) added
    · intro permission _ _ told
      exact vows_removeMapping actorId permission home told
    · intro _ _ removed write sent
      exact (removed write sent).mono fun event member => List.mem_append_right _ member

/-! Assignments. -/

theorem vows_requireUser {userId : Id} {post : UserEntity → List (Event Id) → List Write → Prop}
    (found : ∀ user, post user events log) :
    Vows registry now tenantId (requireUser userId tenantId) post events log := by
  unfold requireUser
  rw [Vows, promises_bind]
  apply vows_visible
  intro db _
  apply promises_orThrow
  intro user _
  exact found user

theorem vows_findAssignment {userId roleId : Id}
    {post : Option UserRoleEntity → List (Event Id) → List Write → Prop}
    (found : ∀ ur, ur.userId = value userId → ur.tenantId = value tenantId →
      registry.assignment ur.id = (ur.tenantId, ur.userId) →
      registry.AtHome ur.tenantId ur.roleId → post (some ur) events log)
    (absent : post none events log) :
    Vows registry now tenantId (findAssignment userId roleId tenantId) post events log := by
  unfold findAssignment
  rw [Vows, promises_bind]
  apply vows_visible
  intro db filed
  rw [promises_pure]
  cases present : (shown (.tenantUser (value tenantId)) db).userRoles.findOne (fun ur =>
      ur.userId == value userId && ur.roleId == value roleId && ur.tenantId == value tenantId) with
  | none => exact absent
  | some ur =>
    obtain ⟨visible, matched⟩ := findOne_some present
    simp only [Bool.and_eq_true, beq_iff_eq] at matched
    obtain ⟨assignment, atHome⟩ := filed.assignments ur (mem_seen_userRoles.mp visible).1
    exact found ur matched.1.1 matched.2 assignment atHome

theorem vows_saveAssignment {userId : Id} {dto : AssignRoleDto Id}
    (atHome : registry.AtHome (value tenantId) (value dto.roleId))
    (told : Told tenantId [permissionChanged tenantId userId] log) :
    Vows registry now tenantId (saveAssignment userId tenantId dto)
    (fun _ _ log => Told tenantId [permissionChanged tenantId userId] log)
      events log := by
  unfold saveAssignment
  rw [Vows, promises_bind]
  apply vows_findAssignment
  · intro ur user tenant assignment atHome
    unfold renewAssignment
    simp only [promises_bind]
    apply vows_visible
    intro db _
    split
    · rw [promises_bind]
      exact promises_persist assignment (told.append (announced_assignment tenant user))
    · rw [promises_bind]
      exact promises_persist atHome (told.append (announced_assignment tenant user))
  · simp only [promises_bind, promises_newId]
    intro id
    exact promises_persist atHome (told.append (announced_assignment rfl rfl))

theorem vows_assignToUser {userId : Id} (dto : AssignRoleDto Id) (actorId : Id)
    (told : Told tenantId [permissionChanged tenantId userId] log) :
    Vows registry now tenantId (assignToUser userId tenantId dto actorId) (fun _ =>
      Told tenantId) events log := by
  unfold assignToUser
  rw [Vows, promises_bind]
  apply vows_requireUser
  intro _
  rw [promises_bind]
  apply vows_findOneForTenant
  intro role same _ atHome _
  rw [same] at atHome
  rw [promises_bind]
  apply promises_mono (vows_saveAssignment atHome told)
  intro _ _ _ saved write sent
  exact (saved write sent).mono fun event member => List.mem_append_right _ member

theorem vows_updateUserRoles (userId : Id) (dto : UpdateUserRolesDto Id) (actorId : Id)
    (start : log = []) :
    Vows registry now tenantId (updateUserRoles userId tenantId dto actorId) (fun _ =>
      Told tenantId) events log := by
  unfold updateUserRoles
  rw [Vows, promises_bind]
  apply vows_requireUser
  intro _
  have first : Told tenantId [permissionChanged tenantId userId] log := by
    rw [start]
    exact .none
  rw [promises_bind]
  apply promises_forEach (fun _ log => Told tenantId [permissionChanged tenantId userId] log) first
  · intro item _ _ told
    unfold addRole
    rw [promises_bind]
    apply vows_findOneForTenant
    intro role same _ atHome _
    rw [same] at atHome
    rw [promises_bind]
    exact vows_saveAssignment atHome told
  · intro _ _ added
    rw [promises_bind]
    apply promises_forEach (fun _ log => Told tenantId [permissionChanged tenantId userId] log) added
    · intro roleId _ _ told
      unfold removeRole
      rw [promises_bind]
      apply vows_findAssignment
      · intro ur user tenant assignment _
        simp only [promises_bind]
        exact promises_persist assignment (told.append (announced_assignment tenant user))
      · exact told
    · intro _ _ removed write sent
      exact (removed write sent).mono fun event member => List.mem_append_right _ member

/-! Overrides and ACL entries. -/

theorem vows_addOverride (userId : Id) (dto : CreateOverrideDto Id) (actorId : Id) (start : log = []) :
    Vows registry now tenantId (addOverride userId tenantId dto actorId) (fun _ =>
      Told tenantId) events log := by
  unfold addOverride
  simp only [Vows, promises_bind]
  apply vows_visible
  intro db _
  apply promises_orThrow
  intro permission _
  apply vows_visible
  intro db filed
  split
  · next existing found =>
    obtain ⟨visible, matched⟩ := findOne_some found
    simp only [Bool.and_eq_true, beq_iff_eq] at matched
    split
    · exact allAnnounced_none start
    · rw [promises_bind]
      refine promises_persist (filed.overrides existing (mem_seen_overrides.mp visible).1) ?_
      exact allAnnounced_one start
        (announced_override matched.2 matched.1.1 (List.mem_append_right _ List.mem_cons_self))
  · simp only [promises_bind, promises_newId]
    intro id
    refine promises_persist trivial ?_
    exact allAnnounced_one start
      (announced_override rfl rfl (List.mem_append_right _ List.mem_cons_self))

theorem vows_removeOverride (overrideId userId actorId : Id) (start : log = []) :
    Vows registry now tenantId (removeOverride overrideId userId tenantId actorId) (fun _ =>
      Told tenantId) events log := by
  unfold removeOverride
  simp only [Vows, promises_bind]
  apply vows_visible
  intro db filed
  split
  · rw [promises_pure, start]
    exact .none
  · next override found =>
    obtain ⟨visible, matched⟩ := findOne_some found
    simp only [Bool.and_eq_true, beq_iff_eq] at matched
    rw [promises_bind]
    refine promises_persist (filed.overrides override (mem_seen_overrides.mp visible).1) ?_
    exact allAnnounced_one start
      (announced_override matched.2 matched.1.2 (List.mem_append_right _ List.mem_cons_self))

theorem vows_createAcl (dto : CreateAclDto Id) (actorId : Id) (filled : NonEmpty dto)
    (start : log = []) :
    Vows registry now tenantId (createAcl tenantId dto actorId) (fun _ =>
      Told tenantId) events log := by
  unfold createAcl
  simp only [Vows, promises_bind]
  apply vows_visible
  intro db _
  split
  · rw [promises_pure, start]
    exact .none
  · simp only [promises_bind, promises_newId]
    intro id
    refine ⟨filled, ?_, ?_⟩
    · have covers := covers_aclChanged .ACL_CREATED
        ⟨id, value tenantId, value dto.userId, dto.resourceType, dto.resourceId,
          dto.permission⟩ tenantId dto.userId rfl rfl
      exact allAnnounced_one start
        ⟨_, List.mem_append_left _ (List.mem_append_right _ List.mem_cons_self), covers⟩
    · intro why
      dsimp only [Promises]
      split
      · trivial
      · trivial
      · trivial
      · next impossible => cases impossible

theorem vows_deleteAcl (id actorId : Id) (start : log = []) :
    Vows registry now tenantId (deleteAcl id tenantId actorId) (fun _ => Told tenantId) events log := by
  unfold deleteAcl
  simp only [Vows, promises_bind]
  apply vows_visible
  intro db filed
  apply promises_orThrow
  intro acl found
  obtain ⟨visible, matched⟩ := findOne_some found
  simp only [Bool.and_eq_true, beq_iff_eq] at matched
  refine promises_persist (filed.acls acl (mem_seen_resourceAcls.mp visible).1) ?_
  have covers :=
    covers_aclChanged .ACL_DELETED acl tenantId (canonical acl.userId) matched.2.symm
    (value_canonical _)
  exact allAnnounced_one start
    ⟨_, List.mem_append_left _ (List.mem_append_right _ List.mem_cons_self), covers⟩

/-! Users. -/

theorem vows_findUser {id : Id} {post : UserEntity → List (Event Id) → List Write → Prop}
    (found : ∀ user, post user events log) :
    Vows registry now tenantId (findUser id) post events log := by
  unfold findUser
  rw [Vows, promises_bind]
  apply vows_visible
  intro db _
  apply promises_orThrow
  intro user _
  exact found user

theorem vows_saveUser {user : UserEntity} {post : Unit → List (Event Id) → List Write → Prop}
    (done : ∀ write, (∀ events : List (Event Id), Announced (value tenantId) events write) →
      post () events (log ++ [write])) :
    Vows registry now tenantId (saveUser user) post events log := by
  unfold saveUser
  rw [Vows, promises_bind]
  apply vows_visible
  intro db _
  split
  · exact promises_persist trivial (done _ fun _ => trivial)
  · exact promises_persist trivial (done _ fun _ => trivial)

theorem vows_createUser (hashPassword : String → String) (dto : CreateUserDto Id) (actorId : Id)
    (start : log = []) :
    Vows registry now tenantId (createUser hashPassword tenantId dto actorId) (fun _ =>
      Told tenantId) events log := by
  unfold createUser findOneByName
  simp only [Vows, promises_bind]
  apply vows_visible
  intro db _
  apply promises_refuseIf
  intro _
  rw [promises_newId]
  intro id
  refine promises_persist trivial ?_
  apply vows_visible
  intro db _
  rw [promises_pure]
  split
  · exact allAnnounced_one start trivial
  · rw [promises_bind]
    refine promises_mono (vows_assignToUser _ actorId (allAnnounced_one start ?_)) ?_
    · trivial
    · intro _ _ _ assigned write sent
      exact (assigned write sent).mono fun event member => List.mem_append_left _ member

theorem vows_updateUser [DecidableEq Id] (id : Id) (dto : UpdateUserDto Id) (actorId : Id)
    (start : log = []) :
    Vows registry now tenantId (updateUser id dto tenantId actorId) (fun _ =>
      Told tenantId) events log := by
  unfold updateUser
  rw [Vows, promises_bind]
  apply vows_findUser
  intro user
  rw [promises_bind]
  apply promises_refuseIf
  intro _
  rw [promises_bind]
  apply promises_refuseIf
  intro _
  rw [promises_bind]
  apply vows_saveUser
  intro write announced
  exact allAnnounced_one start (announced _)

theorem vows_setActivation [DecidableEq Id] (id : Id) (isActive : Bool) (actorId : Id)
    (start : log = []) :
    Vows registry now tenantId (setActivation id tenantId isActive actorId) (fun _ =>
      Told tenantId) events log := by
  unfold setActivation
  rw [Vows, promises_bind]
  apply vows_findUser
  intro user
  rw [promises_bind]
  apply promises_refuseIf
  intro _
  rw [promises_bind]
  apply vows_saveUser
  intro write announced
  cases isActive with
  | true => exact allAnnounced_one start (announced _)
  | false =>
    refine ⟨⟨value id, rfl⟩, fun refused => ?_⟩
    cases refused with
    | none => exact allAnnounced_one start (announced _)
    | some why => trivial

/-! All of them. -/

def Operation.Deletes : Operation Id → Prop
  | .deleteCustomRole _ => True
  | _ => False

/-- Every request of a tenant but the removal of a role. -/
theorem vows_operation [DecidableEq Id] (env : Environment) (actorId : Id) {operation : Operation Id}
    (admissible : operation.Admissible)
    (other : ¬Operation.Deletes operation) :
    Vows registry now tenantId (operation.handler env tenantId actorId) (fun _ =>
      Told tenantId) [] [] := by
  cases operation with
  | createCustomRole created dto =>
    exact promises_bind.mpr (vows_createCustomRole created dto actorId rfl)
  | updateCustomRole updated id body =>
    exact promises_bind.mpr (vows_updateCustomRole env.driver updated id body actorId admissible rfl)
  | deleteCustomRole id => exact absurd trivial other
  | updateRolePermissions roleId dto => exact vows_updateRolePermissions roleId dto actorId rfl
  | assignToUser userId dto => exact promises_bind.mpr (vows_assignToUser dto actorId .none)
  | updateUserRoles userId dto => exact vows_updateUserRoles userId dto actorId rfl
  | addOverride userId dto => exact promises_bind.mpr (vows_addOverride userId dto actorId rfl)
  | removeOverride overrideId userId => exact vows_removeOverride overrideId userId actorId rfl
  | createAcl dto => exact promises_bind.mpr (vows_createAcl dto actorId admissible rfl)
  | deleteAcl id => exact vows_deleteAcl id actorId rfl
  | createUser dto => exact promises_bind.mpr (vows_createUser env.hashPassword dto actorId rfl)
  | updateUser id dto => exact promises_bind.mpr (vows_updateUser id dto actorId rfl)
  | setActivation id isActive => exact vows_setActivation id isActive actorId rfl

def Announcing (owner : Uuid) (events : List (Event Id)) (log : List Write) : Prop :=
  ∀ write ∈ log, (∃ row, write = .insertUserRole row) ∨ Announced owner events write

theorem Announcing.append {write : Write} (announcing : Announcing owner events log)
    (last : (∃ row, write = .insertUserRole row) ∨ Announced owner events write) :
    Announcing owner events (log ++ [write]) := by
  intro other member
  rcases List.mem_append.mp member with early | late
  · exact announcing other early
  · rw [List.mem_singleton.mp late]
    exact last

theorem Announcing.emit {event : Event Id} (announcing : Announcing owner events log) :
    Announcing owner (events ++ [event]) log := by
  intro write sent
  exact (announcing write sent).imp_right fun announced => announced.mono fun _ member =>
    List.mem_append_left _ member

section SuperAdmin
variable {guard : Guard (effects Id)}

theorem promises_saveTenant {tenant : TenantEntity} (announcing : Announcing owner events log) :
    Promises (lawful Id registry now owner session) (saveTenant tenant) (fun _ =>
      Announcing owner) events log := by
  unfold saveTenant
  rw [promises_bind, promises_visible]
  intro view _
  split
  · exact promises_persist trivial (announcing.append (.inr trivial))
  · exact promises_persist trivial (announcing.append (.inr trivial))

theorem promises_createTenantWithAdmin (hashPassword : String → String) (dto : CreateTenantDto)
    (actorId : Id) (announcing : Announcing owner events log) :
    Promises (lawful Id registry now owner .bypassRls) (createTenantWithAdmin hashPassword dto actorId)
    (fun _ => Announcing owner) events log := by
  unfold createTenantWithAdmin
  simp only [promises_bind, promises_visible]
  intro _ _
  apply promises_refuseIf
  intro _
  rw [promises_newId]
  intro tenantId
  refine promises_persist trivial ?_
  intro userId
  refine promises_persist trivial ?_
  intro _ holds
  obtain ⟨db, filed, rfl⟩ := holds
  have founded : ∀ tenant user,
      Announcing owner events (log ++ [.insertTenant tenant] ++ [.insertUser user]) := by
    intro tenant user
    refine Announcing.append (announcing.append ?_) ?_
    · exact .inr trivial
    · exact .inr trivial
  split
  · exact (founded _ _).emit
  · next adminRole found =>
    simp only [promises_bind, promises_newId]
    intro assignmentId
    obtain ⟨visible, matched⟩ := findOne_some found
    simp only [Bool.and_eq_true, beq_iff_eq] at matched
    refine promises_persist ?_ ((founded _ _).append (.inl ⟨_, rfl⟩)).emit
    intro home same
    have home_none := filed.roles adminRole (by simpa [Db.seenBy, Session.admitsRole] using visible)
    rw [homeOf, matched.2, if_pos rfl] at home_none
    rw [home_none] at same
    cases same

theorem promises_superAdmin (env : Environment) (actorId : Id) (operation : SuperAdminOperation Id) :
    Promises (lawful Id registry now owner .bypassRls) (operation.handler env actorId) (fun _ =>
      Announcing owner) [] [] := by
  have nothing : Announcing owner ([] : List (Event Id)) [] := fun _ sent =>
    absurd sent List.not_mem_nil
  cases operation with
  | createTenantWithAdmin dto =>
    exact promises_bind.mpr (promises_createTenantWithAdmin env.hashPassword dto actorId nothing)
  | updateTenant id dto =>
    refine promises_bind.mpr ?_
    unfold updateTenant findTenant
    simp only [promises_bind, promises_visible]
    intro _ _
    apply promises_orThrow
    intro tenant _
    apply promises_refuseIf
    intro _
    apply promises_mono (promises_saveTenant nothing)
    intro _ _ _ saved
    exact saved.emit
  | deactivateTenant id =>
    change Promises _ (AccountServices.deactivateTenant id actorId) _ _ _
    unfold deactivateTenant findTenant
    simp only [promises_bind, promises_visible]
    intro _ _
    apply promises_orThrow
    intro tenant _
    apply promises_mono (promises_saveTenant nothing)
    intro _ _ _ saved
    exact saved.emit

theorem promises_purge : Promises (lawful Id registry now owner .bypassRls) (purgeExpiredRoles now)
    (fun _ => Announcing owner) [] [] := by
  refine promises_persist rfl ?_
  intro write sent
  rw [List.mem_singleton.mp sent]
  exact .inr trivial

end SuperAdmin
end Promises
end GenericIam.Registers
