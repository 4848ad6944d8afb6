import GenericIam.AccessRefinement
import GenericIam.Races
import GenericIam.Reactivation
import GenericIam.Runs

/-! Runs of requests as runs of the access model: what the check answers after them, and whose
answers they leave alone. -/

namespace GenericIam.AccessRuns
open Table Database EffectivePermissions PermissionMatcher Identifiers CacheKeys
open AuthorizationCheck Transaction Handlers RbacServices AccountServices Operations ReachableStates
open SuperAdminRequests HeldRoles AccessModel AccessRefinement Races Runs Reactivation
open Coherence (plainEnvironment)

section Sequences
variable {db : Db}

structure Incoming where
  sender : Sender
  ids : Nat → Uuid
  now : Time

def Incoming.served (incoming : Incoming) (db : Db) : Served (effects Uuid) Db Unit :=
  serve (engine Uuid incoming.sender.session) incoming.ids (incoming.sender.program incoming.now) db

def Incoming.next (incoming : Incoming) (db : Db) : Db := (incoming.served db).db

def Incoming.asks (incoming : Incoming) (db : Db) : List AccessCommand :=
  match incoming.sender with
  | .tenant _ tenantId _ operation => requested incoming.ids tenantId db operation
  | .superAdmin _ _ operation => governed incoming.ids db operation
  | .purge => [.purge incoming.now]

def Incoming.commands (incoming : Incoming) (db : Db) : List AccessCommand :=
  if (incoming.served db).result.isOk then incoming.asks db else []

def accepted : Db → List Incoming → List AccessCommand
  | _, [] => []
  | db, incoming :: rest => incoming.commands db ++ accepted (incoming.next db) rest

theorem becomes_next (incoming : Incoming) (tidy : Tidy db) (housed : Housed db) :
    Becomes db (incoming.commands db) (incoming.next db) := by
  obtain ⟨sender, ids, now⟩ := incoming
  cases sender with
  | tenant env tenantId actorId operation =>
    exact served_becomes tidy (acts_operation env operation tidy)
  | superAdmin env actorId operation =>
    exact served_becomes tidy (acts_superAdmin env operation tidy housed)
  | purge => exact served_becomes tidy (acts_purge tidy)

theorem housed_next (incoming : Incoming) (housed : Housed db) : Housed (incoming.next db) := by
  have keeps : ∀ {session write db db'}, Housed db → send session write db = .ok db' → Housed db' :=
    fun before sent => housed_apply before (send_ok sent)
  exact serve_keeps keeps keeps _ housed

theorem becomes_run {run : List Incoming} (tidy : Tidy db) (housed : Housed db) :
    Becomes db (accepted db run) (final Incoming.next db run) := by
  induction run generalizing db with
  | nil => exact .refl tidy
  | cons incoming rest ih =>
    have one := becomes_next incoming tidy housed
    exact one.trans (ih one.tidy (housed_next incoming housed))

end Sequences

/-! What the check makes of the state of the model. -/

section Decisions
variable {Id : Type} [Identifier Id] {db : Db} {now : Time} {tenantId userId permissionId : Uuid}

theorem overridden_iff (tidy : Tidy db) {overrideType : OverrideType} {permission : PermissionEntity} :
    Overrides db overrideType userId tenantId permission ↔
      (access db).overridden (tenantId, userId, permission.id) = some (verdict overrideType) := by
  have exact_ : ∀ {first second : OverrideType}, verdict first = verdict second ↔ first = second := by
    intro first second
    cases first <;> cases second <;> decide
  simp only [access, index_some tidy.overridden, Overrides, overriding, Prod.mk.injEq, exact_]
  refine exists_congr fun row => and_congr_right fun _ => ?_
  constructor
  · intro holds
    obtain ⟨user, tenant, same, permission⟩ := holds
    exact ⟨⟨tenant, user, permission⟩, same⟩
  · intro holds
    obtain ⟨⟨tenant, user, permission⟩, same⟩ := holds
    exact ⟨user, tenant, same, permission⟩

theorem roleGrants_iff (tidy : Tidy db) {permission : PermissionEntity} :
    RoleGrants db now userId tenantId permission ↔ ∃ role expiresAt,
      (access db).assigned (tenantId, userId, role) = some expiresAt ∧ lasts now expiresAt = true ∧
        (access db).mapped (role, permission.id) = some () := by
  simp only [access, assignments, index_some tidy.assigned, index_some tidy.mapped, and_true]
  constructor
  · intro holds
    obtain ⟨ur, held, ⟨user, tenant, active⟩, rp, mapped, permissionSame, roleSame⟩ := holds
    rw [activeAt_eq] at active
    refine ⟨ur.roleId, ur.expiresAt, ⟨ur, held, ?_, rfl⟩, active, rp, mapped, ?_⟩
    · rw [holding, tenant, user]
    · rw [mapping, roleSame, permissionSame]
  · intro holds
    obtain ⟨role, expiresAt, ⟨ur, held, holds, rfl⟩, active, rp, mapped, maps⟩ := holds
    simp only [holding, mapping, Prod.mk.injEq] at holds maps
    refine ⟨ur, held, ⟨holds.2.1, holds.1, ?_⟩, rp, mapped, maps.2, ?_⟩
    · rw [activeAt_eq]
      exact active
    · rw [maps.1, holds.2.2]

def Grants (access : AccessState) (permissions : Table PermissionEntity) (now : Time)
    (dto : CheckAuthzDto Id) : Prop :=
  (∃ permission ∈ permissions,
    access.Permits now (value dto.tenantId) (value dto.userId) permission.id ∧
    covers permission.code dto.permission = true) ∨
  ∃ resource, dto.resource = some resource ∧
    access.shared (value dto.tenantId, value dto.userId, resource.1, resource.2,
      dto.permission) = some ()

theorem decision_iff (tidy : Tidy db) (dto : CheckAuthzDto Id) :
    decision db now dto = true ↔ Grants (access db) db.permissions now dto := by
  have permitted : ∀ permission : PermissionEntity,
      (access db).Permits now (value dto.tenantId) (value dto.userId) permission.id ↔
        (RoleGrants db now (value dto.userId) (value dto.tenantId) permission ∨
          Overrides db .grant (value dto.userId) (value dto.tenantId) permission) ∧
            ¬Overrides db .deny (value dto.userId) (value dto.tenantId) permission := by
    intro permission
    rw [overridden_iff tidy, overridden_iff tidy, roleGrants_iff tidy, Access.Permits]
    cases (access db).overridden (value dto.tenantId, value dto.userId, permission.id) with
    | none => simp
    | some given => cases given <;> simp [verdict]
  unfold decision Grants
  rw [Bool.or_eq_true, hasPermission_iff_covers]
  refine or_congr ?_ ?_
  · constructor
    · intro holds
      obtain ⟨code, effective, covered⟩ := holds
      obtain ⟨permission, member, granted, free, rfl⟩ := mem_effectiveCodes.mp effective
      exact ⟨permission, member, (permitted permission).mpr ⟨granted, free⟩, covered⟩
    · intro holds
      obtain ⟨permission, member, permits, covered⟩ := holds
      obtain ⟨granted, free⟩ := (permitted permission).mp permits
      exact ⟨permission.code, mem_effectiveCodes.mpr ⟨permission, member, granted, free, rfl⟩, covered⟩
  · cases dto.resource with
    | none => simp
    | some resource =>
      simp only [aclExists_iff, access, index_some tidy.shared, sharing, Prod.mk.injEq,
        Option.some.injEq, and_true, exists_eq_left', aclDto]

end Decisions

/-! The results. -/

section Results
variable {Id : Type} [Identifier Id] {db : Db}

/-- After any run, the access there is what the accepted requests make of the access before, and
the check answers by it. What is asked of the database holds of every one of the service, and
whatever the bodies of its requests, it goes on to hold. -/
theorem decisions_follow (tidy : Tidy db) (housed : Housed db) (run : List Incoming) (now : Time)
    (dto : CheckAuthzDto Id) :
    access (final Incoming.next db run) = (access db).after (accepted db run) ∧
      (decision (final Incoming.next db run) now dto = true ↔
        Grants ((access db).after (accepted db run)) db.permissions now dto) := by
  have becomes := @becomes_run db run tidy housed
  refine ⟨becomes.access, ?_⟩
  rw [decision_iff becomes.tidy dto, becomes.access, becomes.permissions]

theorem grants_sameFor {first second : AccessState} {permissions : Table PermissionEntity}
    {now : Time} {dto : CheckAuthzDto Id}
    (same : SameFor now (value dto.tenantId) (value dto.userId) first second) :
    Grants second permissions now dto ↔ Grants first permissions now dto := by
  unfold Grants
  simp only [same.permits, same.shared]

end Results

/-! Bob is granted by an override what his role does not give him; what Ada may do stays. -/

section Example

def favour : List Incoming :=
  [⟨.tenant plainEnvironment 21 22 (.addOverride 31 ⟨1, .grant, none⟩), countedFrom 41, 5⟩,
    ⟨.purge, countedFrom 51, 6⟩]

def writing (userId : Uuid) : CheckAuthzDto Uuid := ⟨userId, 21, "user.write", none, none⟩

theorem decisions_follow_favour : accepted office favour = [.override (21, 31, 1) .grant, .purge 6] ∧
    access (final Incoming.next office favour) = (access office).after (accepted office favour) ∧
      (decision (final Incoming.next office favour) 7 (writing 31) = true ↔
        Grants ((access office).after (accepted office favour)) office.permissions 7 (writing 31)) ∧
        decision (final Incoming.next office favour) 7 (writing 31) = true := by
  obtain ⟨same, answered⟩ :=
    decisions_follow (tidy_of_reachable office_reachable)
    (housed_of_reachable office_reachable) favour 7 (writing 31)
  exact ⟨by decide, same, answered, by decide⟩

end Example

end GenericIam.AccessRuns
