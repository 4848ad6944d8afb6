import GenericIam.GeneratedKeys
import GenericIam.ReachableStates
import GenericIam.TenantEvents

/-! Two databases that go abreast for a tenant: a request of the tenant goes the same way
on both, and a request of another tenant leaves them so when only one of them takes it. -/

namespace GenericIam.TenantRequests
open Table Database EffectivePermissions Identifiers AuthorizationCheck
open Events Transaction Handlers AccountServices TenantWrites Operations Footprint
open ReachableStates TenantView TenantTwins TenantEvents GeneratedKeys

/-- The tenant is shown the same in both databases. Of the users, those with a strange id
may be missing in the second. -/
structure Abreast (tenantId : Uuid) (strange : Uuid → Prop) (db db' : Db) : Prop where
  same : view tenantId db = view tenantId db'
  users : ∀ id, ¬(strange id ∧ db.hasUser id = true) → db.hasUser id = db'.hasUser id
  consistent : Consistent db
  consistent' : Consistent db'

def Drawn (ids : Nat → Uuid) (id : Uuid) : Prop := ∃ index, id = ids index

section Reading
variable {tenantId : Uuid} {db : Db}

/-- What a check for the tenant computes, it computes from what the tenant is shown. -/
theorem getEffectivePermissions_view (consistent : Consistent db) (now : Time) (userId : Uuid) :
    getEffectivePermissions (view tenantId db) now userId tenantId =
      getEffectivePermissions db now userId tenantId := by
  have assignments : getUserRoles (view tenantId db) now userId tenantId =
      getUserRoles db now userId tenantId := by
    apply find_select
    intro ur _ matched
    simp only [Bool.and_eq_true, beq_iff_eq] at matched
    exact admits_iff.mpr matched.1.2
  have overrides : getOverridesForUser (view tenantId db) userId tenantId =
      getOverridesForUser db userId tenantId := by
    apply find_select
    intro o _ matched
    simp only [Bool.and_eq_true, beq_iff_eq] at matched
    exact admits_iff.mpr matched.2
  have mappings : rolePermissionsOf (view tenantId db)
    ((getUserRoles db now userId tenantId).map (·.roleId)) =
      rolePermissionsOf db ((getUserRoles db now userId tenantId).map (·.roleId)) := by
    unfold rolePermissionsOf
    have each : ∀ p : PermissionEntity,
      ((view tenantId db).rolePermissions.any fun rp => rp.permissionId == p.id &&
          ((getUserRoles db now userId tenantId).map (·.roleId)).contains rp.roleId) =
        db.rolePermissions.any fun rp => rp.permissionId == p.id &&
          ((getUserRoles db now userId tenantId).map (·.roleId)).contains rp.roleId := by
      intro p
      apply any_select
      intro rp _ matched
      simp only [Bool.and_eq_true, List.contains_iff_mem, List.mem_map] at matched
      obtain ⟨_, ur, assigned, role⟩ := matched
      obtain ⟨member, _, tenant, _⟩ := mem_getUserRoles.mp assigned
      have usable := consistent.held ur member
      rw [tenant, role] at usable
      exact admitsRolePermission_iff.mpr usable
    simp only [each]
    rfl
  simp only [getEffectivePermissions, assignments, overrides, mappings]
  rfl

theorem aclExists_view {Id : Type} [Identifier Id] {t : Id} (own : value t = tenantId)
    (dto : CacheKeys.CheckAclDto Id) :
    aclExists (view tenantId db) t dto = aclExists db t dto := by
  have listed : ∀ where_ : ResourceAclEntity → Bool,
    (∀ acl, where_ acl = true → acl.tenantId = tenantId) →
      (view tenantId db).resourceAcls.find where_ = db.resourceAcls.find where_ :=
    fun where_ within => find_select fun acl _ matched => admits_iff.mpr (within acl matched)
  unfold aclExists Table.count
  rw [listed]
  intro acl matched
  simp only [Bool.and_eq_true, beq_iff_eq] at matched
  exact matched.1.1.1.1.trans own

theorem Abreast.permissions {strange : Uuid → Prop} {db' : Db}
    (abreast : Abreast tenantId strange db db') (now : Time) (userId : Uuid) :
    getEffectivePermissions db now userId tenantId =
      getEffectivePermissions db' now userId tenantId := by
  rw [← getEffectivePermissions_view abreast.consistent, abreast.same,
    getEffectivePermissions_view abreast.consistent']

theorem Abreast.answers {strange : Uuid → Prop} {db' : Db}
    (abreast : Abreast tenantId strange db db') (Id : Type) [Identifier Id] :
    SameAnswers Id tenantId db db' where
  codes now userId := by simp only [effectiveCodes, abreast.permissions]
  acls t dto own := by
    rw [← aclExists_view own, abreast.same, aclExists_view own]

end Reading

/-! Requests. -/

section Requests
variable {Id : Type} [Identifier Id] [DecidableEq Id] {ids : Nat → Uuid}
  {strange : Uuid → Prop} {db db' : Db}

theorem draws_operation (env : Environment) (tenantId actorId : Id) {operation : Operation Id}
    (admissible : operation.Admissible) (db : Db) :
    Draws ids db
      (serve (engine Id (.tenantUser (value tenantId))) ids
      (operation.handler env tenantId actorId) db).db :=
  draws_serve (ensures_operation env actorId admissible rfl) (fun allowed => allowed.2) fun revokes =>
    revokes

/-- A request of the tenant that names no strange user goes the same way on both. -/
theorem abreast_own (env : Environment) (tenantId actorId : Id) {operation : Operation Id}
    (admissible : operation.Admissible) (abreast : Abreast (value tenantId) strange db db')
    (unused : Unused (Drawn ids) db) (unused' : Unused (Drawn ids) db')
    (names : ∀ id, operation.mentions.names id → ¬(strange id ∧ db.hasUser id = true)) :
    let served :=
      serve (engine Id (.tenantUser (value tenantId))) ids (operation.handler env tenantId actorId) db
    let served' :=
      serve (engine Id (.tenantUser (value tenantId))) ids (operation.handler env tenantId actorId) db'
    Abreast (value tenantId) strange served.db served'.db ∧ served.tx.events = served'.tx.events := by
  intro served served'
  have holds : Ensures tenantId operation.mentions ids (operation.handler env tenantId actorId)
      (fun _ after => AllAnnounced (value tenantId) after.events after.log) { db } :=
    ensures_operation env actorId admissible rfl
  have twins : Twins (value tenantId) ids (fun id => ¬(strange id ∧ db.hasUser id = true)) db db' :=
    ⟨abreast.same, abreast.users, unused.clear, unused'.clear⟩
  have alike :=
    serve_alike (fun twins => twins.same) (fun twins allowed =>
    twins.lockstep Id names allowed.1 allowed.2)
    (fun {_ _ _ stmt} twins revokes => by
      obtain ⟨userId, rfl⟩ : ∃ userId, stmt = .deleteRefreshTokensOf userId := revokes
      exact twins.revoked userId)
    (reads_whole _) twins holds
  obtain ⟨_, after, events⟩ := alike
  refine ⟨⟨after.same, ?_, ?_, ?_⟩, events⟩
  · intro id settled
    apply after.users
    intro stranger
    exact settled ⟨stranger.1, (draws_operation env tenantId actorId admissible db).users id stranger.2⟩
  · exact consistent_operation env tenantId actorId admissible abreast.consistent
  · exact consistent_operation env tenantId actorId admissible abreast.consistent'

/-- A request of another tenant, on the first database only. -/
theorem abreast_foreign (env : Environment) {tenantId : Uuid} (owner actorId : Id)
    {operation : Operation Id} (foreign : value owner ≠ tenantId)
    (admissible : operation.Admissible) (abreast : Abreast tenantId strange db db')
    (strangers : ∀ index, strange (ids index)) :
    Abreast tenantId strange
      (serve (engine Id (.tenantUser (value owner))) ids (operation.handler env owner actorId) db).db
      db' := by
  have unseen :
    Consistent
    (serve (engine Id (.tenantUser (value owner))) ids (operation.handler env owner actorId) db).db ∧
      view tenantId
        (serve (engine Id (.tenantUser (value owner))) ids
        (operation.handler env owner actorId) db).db =
        view tenantId db := by
    refine @serve_invariant _ _ _ _ _ _ (fun during => Consistent during ∧
      view tenantId during = view tenantId db) _ _ _ _
      (ensures_operation env actorId admissible rfl) ⟨abreast.consistent, rfl⟩ ?_ ?_
    · intro _ _ _ _ stmt _ before allowed applied
      have went := send_ok applied
      exact ⟨consistent_apply before.1 (keeps_of_tenantWrite allowed.1) went,
        (view_of_foreignWrite foreign before.1 allowed.1 went).trans before.2⟩
    · intro _ _ _ _ allowed before applied
      obtain ⟨_, rfl⟩ := detached_applied allowed applied
      exact ⟨⟨before.1.held, before.1.filled⟩, before.2⟩
  have draws :
    Draws ids db
    (serve (engine Id (.tenantUser (value owner))) ids (operation.handler env owner actorId) db).db :=
    draws_operation env owner actorId admissible db
  refine ⟨unseen.2.trans abreast.same, ?_, unseen.1, abreast.consistent'⟩
  intro id settled
  cases present :
      (serve (engine Id (.tenantUser (value owner))) ids
      (operation.handler env owner actorId) db).db.hasUser id with
  | true =>
    have known : ¬strange id := fun stranger => settled ⟨stranger, present⟩
    rcases draws.newUsers id present with old | ⟨index, same⟩
    · rw [← abreast.users id fun stranger => known stranger.1, old]
    · rw [same] at known
      exact absurd (strangers index) known
  | false =>
    have absent : db.hasUser id = false := by
      rw [← Bool.not_eq_true]
      intro old
      rw [draws.users id old] at present
      cases present
    have same : db.hasUser id = db'.hasUser id := by
      apply abreast.users
      intro stranger
      rw [absent] at stranger
      cases stranger.2
    exact absent.symm.trans same

end Requests
end GenericIam.TenantRequests
