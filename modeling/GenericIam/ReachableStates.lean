import GenericIam.Footprint

/-! The databases that the service can be in, and the invariant that all of them keep. -/

namespace GenericIam.ReachableStates
open Table Database Identifiers Transaction Handlers RbacServices
open AccountServices TenantWrites Operations Footprint

section Keeping
variable {Id α : Type} {session : Session} {ids : Nat → Uuid} {tx : Tx (effects Id) Db}

def keeping (Id : Type) : Monitor (effects Id) Db := ⟨Keeps, fun _ _ => False⟩

abbrev KeepsAll (session : Session) (ids : Nat → Uuid) (handler : Handler Id α)
    (tx : Tx (effects Id) Db) : Prop :=
  wp (engine Id session) ids (keeping Id) handler (fun _ _ => True) (fun _ _ => True) tx

theorem consistent_run {handler : Handler Id α} {db : Db} (keeps : KeepsAll session ids handler { db })
    (consistent : Consistent db) : Consistent (run (engine Id session) ids handler { db }).2.db := by
  obtain ⟨_, _, _, _, evolves⟩ := wp_evolves keeps
  apply evolves.invariant _ _ consistent
  · intro _ _ stmt _ before allowed applied
    exact consistent_apply before allowed (send_ok applied)
  · intro _ _ _ _ impossible
    exact impossible.elim

theorem consistent_serve {handler : Handler Id α} {db : Db}
    (keeps : KeepsAll session ids handler { db }) (consistent : Consistent db) :
    Consistent (serve (engine Id session) ids handler db).db := by
  apply serve_invariant keeps consistent
  · intro _ _ _ _ stmt _ before allowed applied
    exact consistent_apply before allowed (send_ok applied)
  · intro _ _ _ _ impossible
    exact impossible.elim

theorem keeps_forEach {ι : Type} {items : List ι} {body : ι → Handler Id Unit}
    (round : ∀ item ∈ items, ∀ during, KeepsAll session ids (body item) during) :
    KeepsAll session ids (forEach items body) tx := by
  have start : (fun _ : Tx (effects Id) Db => True) tx := trivial
  exact wp_forEach start (fun item member during _ => round item member during) fun _ _ => trivial

theorem keeps_persist {write : Write} (allowed : Keeps tx.db write) :
    KeepsAll session ids (persist write : Handler Id Unit) tx :=
  wp_persist allowed (fun _ _ => trivial) trivial

/-! Seeding. -/

theorem keeps_seedPermission (code : String) :
    KeepsAll session ids (seedPermission code : Handler Id Unit) tx := by
  unfold seedPermission
  simp only [KeepsAll, wp_bind, wp_visible]
  split
  · trivial
  · simp only [wp_bind, wp_newId]
    exact keeps_persist trivial

theorem keeps_seedMapping (roleId : Uuid) (permission : PermissionEntity) :
    KeepsAll session ids (seedMapping roleId permission : Handler Id Unit) tx := by
  unfold seedMapping
  simp only [KeepsAll, wp_bind, wp_visible]
  split
  · trivial
  · simp only [wp_bind, wp_newId]
    exact keeps_persist trivial

theorem keeps_seedRole (clock : Uuid → Time) (allPerms : List PermissionEntity)
    (roleDef : RoleDefinition) :
    KeepsAll session ids (seedRole clock allPerms roleDef : Handler Id Unit) tx := by
  unfold seedRole findOrSeedRole
  simp only [KeepsAll, wp_bind, wp_visible]
  split
  · exact keeps_forEach fun permission _ _ => keeps_seedMapping _ permission
  · simp only [wp_bind, wp_newId]
    refine wp_persist trivial ?_ trivial
    intro db _
    exact keeps_forEach fun permission _ _ => keeps_seedMapping _ permission

theorem keeps_seedRoles (clock : Uuid → Time) (rolesData : List RoleDefinition) :
    KeepsAll session ids (seedRoles clock rolesData : Handler Id Unit) tx := by
  unfold seedRoles
  simp only [KeepsAll, wp_bind, wp_visible]
  exact keeps_forEach fun roleDef _ _ => keeps_seedRole clock _ roleDef

/-! Requests. -/

theorem keeps_createTenantWithAdmin [Identifier Id] (hashPassword : String → String)
    (dto : CreateTenantDto) (actorId : Id) :
    KeepsAll .bypassRls ids (createTenantWithAdmin hashPassword dto actorId) tx := by
  unfold createTenantWithAdmin
  simp only [KeepsAll, wp_bind, wp_visible]
  refine wp_refuseIf ?_ fun _ => trivial
  intro _
  simp only [wp_bind, wp_newId]
  refine wp_persist trivial ?_ trivial
  intro _ _
  simp only [wp_bind, wp_newId]
  refine wp_persist trivial ?_ trivial
  intro _ _
  simp only [wp_bind, wp_visible]
  split
  · trivial
  · next adminRole found =>
    obtain ⟨member, matched⟩ := findOne_some found
    simp only [Bool.and_eq_true, beq_iff_eq] at matched
    simp only [wp_bind, wp_newId]
    refine wp_persist ?_ (fun _ _ => trivial) trivial
    exact ⟨adminRole, (mem_select.mp member).1, rfl, .inl matched.2⟩

theorem consistent_operation [Identifier Id] [DecidableEq Id] (env : Environment)
    (tenantId actorId : Id) {operation : Operation Id} (admissible : operation.Admissible) {db : Db}
    (consistent : Consistent db) :
    Consistent
      (serve (engine Id (.tenantUser (value tenantId))) ids
      (operation.handler env tenantId actorId) db).db := by
  apply serve_invariant (ensures_operation env actorId admissible rfl) consistent
  · intro _ _ _ _ stmt _ before allowed applied
    exact consistent_apply before (keeps_of_tenantWrite allowed.1) (send_ok applied)
  · intro _ _ _ _ allowed before applied
    obtain ⟨_, rfl⟩ := detached_applied allowed applied
    exact ⟨before.held, before.filled⟩

end Keeping

/-- Seeding, tenants created by a super admin, the requests of tenant principals and
the hourly purge, in any order. Seeding runs outside any transaction. -/
inductive Reachable : Db → Prop where
  | empty (superAdmins : Table SuperAdminEntity) : Reachable { superAdmins }
  | permissionsSeeded {db : Db} (ids : Nat → Uuid) (codes : List String) (reached : Reachable db) :
      Reachable (run (engine Uuid .bypassRls) ids (seedPermissions codes) { db }).2.db
  | rolesSeeded {db : Db} (clock : Uuid → Time) (ids : Nat → Uuid) (rolesData : List RoleDefinition)
      (reached : Reachable db) :
      Reachable (run (engine Uuid .bypassRls) ids (seedRoles clock rolesData) { db }).2.db
  | tenantCreated {db : Db} (env : Environment) (ids : Nat →
      Uuid) (dto : CreateTenantDto) (actorId : Uuid)
      (reached : Reachable db) :
      Reachable (serve (engine Uuid .bypassRls) ids
        (createTenantWithAdmin env.hashPassword dto actorId) db).db
  | requested {db : Db} (env : Environment) (ids : Nat → Uuid) (tenantId actorId : Uuid)
      {operation : Operation Uuid}
      (admissible : operation.Admissible) (reached : Reachable db) :
      Reachable (serve (engine Uuid (.tenantUser tenantId)) ids
        (operation.handler env tenantId actorId) db).db
  | purged {db : Db} (ids : Nat → Uuid) (now : Time) (reached : Reachable db) :
      Reachable (serve (engine Uuid .bypassRls) ids (purgeExpiredRoles now) db).db

/-- What holds at first and is kept by every statement holds always. -/
theorem Reachable.invariant {property : Db → Prop} (empty : ∀ superAdmins, property { superAdmins })
    (keeps : ∀ {session write db db'}, property db →
      Write.apply session db write = some db' → property db')
    {db : Db} (reached : Reachable db) : property db := by
  have sent : ∀ {session write db db'}, property db → send session write db = .ok db' → property db' :=
    fun before answer => keeps before (send_ok answer)
  induction reached with
  | empty superAdmins => exact empty superAdmins
  | permissionsSeeded ids codes _ ih => exact run_invariant sent sent _ ih
  | rolesSeeded clock ids rolesData _ ih => exact run_invariant sent sent _ ih
  | tenantCreated env ids dto actorId _ ih => exact serve_keeps sent sent _ ih
  | requested env ids tenantId actorId _ _ ih => exact serve_keeps sent sent _ ih
  | purged ids now _ ih => exact serve_keeps sent sent _ ih

theorem Reachable.consistent {db : Db} (reached : Reachable db) : Consistent db := by
  induction reached with
  | empty superAdmins => exact ⟨by simp, by simp⟩
  | permissionsSeeded ids codes _ ih =>
    exact consistent_run (keeps_forEach fun code _ _ => keeps_seedPermission code) ih
  | rolesSeeded clock ids rolesData _ ih => exact consistent_run (keeps_seedRoles clock rolesData) ih
  | tenantCreated env ids dto actorId _ ih =>
    exact consistent_serve (keeps_createTenantWithAdmin env.hashPassword dto actorId) ih
  | requested env ids tenantId actorId admissible _ ih =>
    exact consistent_operation env tenantId actorId admissible ih
  | purged ids now _ ih => exact consistent_serve (keeps_persist trivial) ih

end GenericIam.ReachableStates
