import GenericIam.Handlers
import GenericIam.Statements
import GenericIam.ReadCommitted

/-! What the rows of role permissions, of assignments and of ACL entries say, apart from
their ids, and what a log of statements makes of it. -/

namespace GenericIam.Mappings
open Table Database Transaction Handlers ReadCommitted

inductive Mapping where
  | rolePermission (roleId permissionId : Uuid)
  | userRole (tenantId userId roleId : Uuid)
  | acl (tenantId userId : Uuid) (resourceType resourceId permission : String)
  deriving DecidableEq

def Says (db : Db) (id : Uuid) : Mapping → Prop
  | .rolePermission roleId permissionId => ⟨id, roleId, permissionId⟩ ∈ db.rolePermissions
  | .userRole tenantId userId roleId =>
    ∃ expiresAt, ⟨id, tenantId, userId, roleId, expiresAt⟩ ∈ db.userRoles
  | .acl tenantId userId resourceType resourceId permission =>
      ⟨id, tenantId, userId, resourceType, resourceId, permission⟩ ∈ db.resourceAcls

def Single (db : Db) : Prop :=
  ∀ {mapping first second}, Says db first mapping → Says db second mapping → first = second

def shows (session : Session) (roles : Table RoleEntity) : Mapping → Bool
  | .rolePermission roleId _ => session == .bypassRls || roles.any fun role =>
    role.id == roleId && session.admitsRole role
  | .userRole tenantId _ _ => session.admits tenantId
  | .acl tenantId _ _ _ _ => session.admits tenantId

def without (db : Db) : Mapping → Db
  | .rolePermission roleId permissionId =>
      { db with rolePermissions := db.rolePermissions.select fun row =>
        !(row.roleId == roleId && row.permissionId == permissionId) }
  | .userRole tenantId userId roleId =>
      { db with
        userRoles := db.userRoles.select fun row =>
          !(row.tenantId == tenantId && row.userId == userId && row.roleId == roleId) }
  | .acl tenantId userId resourceType resourceId permission =>
      { db with
        resourceAcls := db.resourceAcls.select fun row =>
          !(row.tenantId == tenantId && row.userId == userId && row.resourceType == resourceType &&
            row.resourceId == resourceId && row.permission == permission) }

def adds : Write → Option (Uuid × Mapping)
  | .insertRolePermission row => some (row.id, .rolePermission row.roleId row.permissionId)
  | .insertUserRole row => some (row.id, .userRole row.tenantId row.userId row.roleId)
  | .insertAcl row =>
    some (row.id, .acl row.tenantId row.userId row.resourceType row.resourceId row.permission)
  | _ => none

def removes : Write → Option (Uuid × Mapping)
  | .deleteRolePermission row => some (row.id, .rolePermission row.roleId row.permissionId)
  | .deleteUserRole row => some (row.id, .userRole row.tenantId row.userId row.roleId)
  | _ => none

def Takes (write : Write) (id : Uuid) (mapping : Mapping) : Prop :=
  match write, mapping with
  | .deleteRolePermission row, .rolePermission _ _ => id = row.id
  | .deleteUserRole row, .userRole _ _ _ => id = row.id
  | _, _ => False

def Mapped : Write → Prop
  | .insertRolePermission _ | .deleteRolePermission _ | .insertUserRole _ | .updateUserRole _
  | .deleteUserRole _ | .insertAcl _ => True
  | _ => False

def After (session : Session) (roles : Table RoleEntity) (write : Write)
    (before : Uuid → Mapping → Prop) (id : Uuid) (mapping : Mapping) :
    Prop :=
  (before id mapping ∧ ¬(Takes write id mapping ∧ shows session roles mapping = true)) ∨
    adds write = some (id, mapping)

def Sight (session : Session) (roles : Table RoleEntity) (log : List Write)
    (before : Uuid → Mapping → Prop) : Uuid → Mapping → Prop :=
  log.foldl (fun rows write => After session roles write rows) before

section Rows
variable {session : Session} {db db' : Db} {id : Uuid} {mapping : Mapping}

theorem admitsRolePermission_eq (row : RolePermissionEntity) :
    session.admitsRolePermission db row =
      shows session db.roles (.rolePermission row.roleId row.permissionId) := by
  cases session <;> simp [Session.admitsRolePermission, shows]

theorem says_shown :
    Says (shown session db) id mapping ↔ Says db id mapping ∧
      shows session db.roles mapping = true := by
  cases mapping with
  | rolePermission roleId permissionId => simp [Says, Db.seenBy, admitsRolePermission_eq]
  | userRole tenantId userId roleId => simp [Says, Db.seenBy, shows]
  | acl tenantId userId resourceType resourceId permission => simp [Says, Db.seenBy, shows]

/-- One row at most for a role and a permission, for a tenant, a user and a role, and for
the five columns of an ACL entry. -/
theorem single_iff : Single db ↔
    (∀ first ∈ db.rolePermissions.rows, ∀ second ∈ db.rolePermissions.rows,
      first.roleId = second.roleId →
      first.permissionId = second.permissionId → first = second) ∧
    (∀ first ∈ db.userRoles.rows, ∀ second ∈ db.userRoles.rows, first.tenantId = second.tenantId →
      first.userId = second.userId →
      first.roleId = second.roleId → first = second) ∧
    (∀ first ∈ db.resourceAcls.rows, ∀ second ∈ db.resourceAcls.rows, first.tenantId = second.tenantId →
      first.userId = second.userId →
      first.resourceType = second.resourceType → first.resourceId = second.resourceId →
        first.permission = second.permission →
        first = second) := by
  constructor
  · intro single
    refine ⟨?_, ?_, ?_⟩
    · intro first there second also role permission
      refine eq_of_key_eq there also
        (@single (.rolePermission first.roleId first.permissionId) first.id second.id there ?_)
      unfold Says
      rw [role, permission]
      exact also
    · intro first there second also tenant user role
      refine eq_of_key_eq there also
        (@single (.userRole first.tenantId first.userId first.roleId) first.id second.id ⟨_, there⟩
          ⟨second.expiresAt, ?_⟩)
      rw [tenant, user, role]
      exact also
    · intro first there second also tenant user resourceType resourceId permission
      refine eq_of_key_eq there also (@single
        (.acl first.tenantId first.userId first.resourceType first.resourceId first.permission) first.id
          second.id there ?_)
      unfold Says
      rw [tenant, user, resourceType, resourceId, permission]
      exact also
  · intro unique mapping first second there also
    obtain ⟨rolePermissions, userRoles, resourceAcls⟩ := unique
    cases mapping with
    | rolePermission roleId permissionId =>
      exact congrArg (·.id) (rolePermissions _ there _ also rfl rfl)
    | userRole tenantId userId roleId =>
      obtain ⟨_, there⟩ := there
      obtain ⟨_, also⟩ := also
      exact congrArg (·.id) (userRoles _ there _ also rfl rfl rfl)
    | acl tenantId userId resourceType resourceId permission =>
      exact congrArg (·.id) (resourceAcls _ there _ also rfl rfl rfl rfl rfl)

/-- Every reading of a database in which no row says so is one without such rows. -/
theorem without_eq (absent : ∀ id, ¬Says db id mapping) : without db mapping = db := by
  cases mapping with
  | rolePermission roleId permissionId =>
    have same : db.rolePermissions.select (fun row =>
        !(row.roleId == roleId && row.permissionId == permissionId)) = db.rolePermissions := by
      apply Table.ext
      refine List.filter_eq_self.mpr fun row member => ?_
      by_contra hit
      simp only [Bool.not_eq_true', Bool.not_eq_false, Bool.and_eq_true, beq_iff_eq] at hit
      refine absent row.id ?_
      unfold Says
      rw [← hit.1, ← hit.2]
      exact member
    simp only [without, same]
  | userRole tenantId userId roleId =>
    have same : db.userRoles.select (fun row =>
      !(row.tenantId == tenantId && row.userId == userId && row.roleId == roleId)) =
        db.userRoles := by
      apply Table.ext
      refine List.filter_eq_self.mpr fun row member => ?_
      by_contra hit
      simp only [Bool.not_eq_true', Bool.not_eq_false, Bool.and_eq_true, beq_iff_eq] at hit
      refine absent row.id ⟨row.expiresAt, ?_⟩
      rw [← hit.1.1, ← hit.1.2, ← hit.2]
      exact member
    simp only [without, same]
  | acl tenantId userId resourceType resourceId permission =>
    have same : db.resourceAcls.select (fun row => !(row.tenantId == tenantId && row.userId == userId &&
        row.resourceType == resourceType && row.resourceId == resourceId &&
            row.permission == permission)) = db.resourceAcls := by
      apply Table.ext
      refine List.filter_eq_self.mpr fun row member => ?_
      by_contra hit
      simp only [Bool.not_eq_true', Bool.not_eq_false, Bool.and_eq_true, beq_iff_eq] at hit
      refine absent row.id ?_
      unfold Says
      rw [← hit.1.1.1.1, ← hit.1.1.1.2, ← hit.1.1.2, ← hit.1.2, ← hit.2]
      exact member
    simp only [without, same]

/-- What a row says that is added can be seen by the session that adds it. -/
theorem shows_of_adds {write : Write} (applied : write.apply session db = some db')
    (added : adds write = some (id, mapping)) :
    shows session db.roles mapping = true := by
  cases write with
  | insertRolePermission row =>
    cases added
    simp only [Write.apply, Db.insertRolePermission] at applied
    split at applied
    · next accepted =>
      simp only [Bool.and_eq_true] at accepted
      rw [← admitsRolePermission_eq]
      exact accepted.2
    · cases applied
  | insertUserRole row =>
    cases added
    simp only [Write.apply, Db.insertUserRole] at applied
    split at applied
    · next accepted =>
      simp only [Bool.and_eq_true] at accepted
      exact accepted.2
    · cases applied
  | insertAcl row =>
    cases added
    simp only [Write.apply, Db.insertAcl] at applied
    split at applied
    · next accepted =>
      simp only [Bool.and_eq_true] at accepted
      exact accepted.2
    · cases applied
  | _ => cases added

theorem roles_of_mapped {write : Write} (mapped : Mapped write)
    (applied : write.apply session db = some db') : db'.roles = db.roles := by
  have frame := sameBut_apply applied
  cases write with
  | insertRolePermission row | deleteRolePermission row | insertUserRole row | updateUserRole row
  | deleteUserRole row | insertAcl row =>
    exact frame.roles (by simp [Write.changes])
  | _ => exact mapped.elim

/-- What the rows say after a statement that has been accepted. -/
theorem says_apply {write : Write} (mapped : Mapped write)
    (applied : write.apply session db = some db') :
    Says db' id mapping ↔ After session db.roles write (Says db) id mapping := by
  unfold After
  cases write with
  | insertRolePermission row =>
    obtain ⟨rolePermissions, inserted, rfl⟩ := insertRolePermission_some applied
    cases mapping with
    | rolePermission roleId permissionId =>
      simp only [Says, mem_insert inserted, Takes, adds, false_and, not_false_iff, and_true,
        Option.some.injEq, Prod.mk.injEq,
        Mapping.rolePermission.injEq]
      refine or_congr Iff.rfl ⟨?_, ?_⟩
      · intro same
        cases same
        exact ⟨rfl, rfl, rfl⟩
      · intro same
        obtain ⟨rfl, rfl, rfl⟩ := same
        rfl
    | _ => simp [Says, Takes, adds]
  | insertUserRole row =>
    obtain ⟨userRoles, inserted, rfl⟩ := insertUserRole_some applied
    cases mapping with
    | userRole tenantId userId roleId =>
      simp only [Says, mem_insert inserted, Takes, adds, false_and, not_false_iff, and_true,
        Option.some.injEq, Prod.mk.injEq,
        Mapping.userRole.injEq, exists_or]
      refine or_congr Iff.rfl ⟨?_, ?_⟩
      · intro new
        obtain ⟨expiresAt, same⟩ := new
        cases same
        exact ⟨rfl, rfl, rfl, rfl⟩
      · intro same
        obtain ⟨rfl, rfl, rfl, rfl⟩ := same
        exact ⟨row.expiresAt, rfl⟩
    | _ => simp [Says, Takes, adds]
  | insertAcl row =>
    obtain ⟨resourceAcls, inserted, rfl⟩ := insertAcl_some applied
    cases mapping with
    | acl tenantId userId resourceType resourceId permission =>
      simp only [Says, mem_insert inserted, Takes, adds, false_and, not_false_iff, and_true,
        Option.some.injEq, Prod.mk.injEq,
        Mapping.acl.injEq]
      refine or_congr Iff.rfl ⟨?_, ?_⟩
      · intro same
        cases same
        exact ⟨rfl, rfl, rfl, rfl, rfl, rfl⟩
      · intro same
        obtain ⟨rfl, rfl, rfl, rfl, rfl, rfl⟩ := same
        rfl
    | _ => simp [Says, Takes, adds]
  | deleteRolePermission row =>
    cases applied
    cases mapping with
    | rolePermission roleId permissionId =>
      simp [Says, Db.deleteRolePermission, Takes, adds, admitsRolePermission_eq, imp_iff_not_or]
    | _ => simp [Says, Db.deleteRolePermission, Takes, adds]
  | deleteUserRole row =>
    cases applied
    cases mapping with
    | userRole tenantId userId roleId =>
      simp [Says, Db.deleteUserRole, Takes, adds, shows, imp_iff_not_or]
    | _ => simp [Says, Db.deleteUserRole, Takes, adds]
  | updateUserRole row =>
    cases applied
    cases mapping with
    | userRole tenantId userId roleId =>
      simp only [Says, Db.updateUserRole, mem_modify, Takes, adds, false_and, not_false_iff, and_true,
        reduceCtorEq, or_false]
      constructor
      · intro after
        obtain ⟨expiresAt, ⟨old, _⟩ | ⟨old, present, _, changed⟩⟩ := after
        · exact ⟨expiresAt, old⟩
        · cases changed
          exact ⟨old.expiresAt, present⟩
      · intro before
        obtain ⟨expiresAt, present⟩ := before
        by_cases hit : (id == row.id && session.admits tenantId) = true
        · exact ⟨row.expiresAt, .inr ⟨_, present, hit, rfl⟩⟩
        · exact ⟨expiresAt, .inl ⟨present, Bool.eq_false_iff.mpr hit⟩⟩
    | _ => simp [Says, Db.updateUserRole, Takes, adds]
  | _ => exact mapped.elim

end Rows

section Logs
variable {session : Session} {roles : Table RoleEntity} {log : List Write}
  {before : Uuid → Mapping → Prop} {id : Uuid} {mapping : Mapping}

theorem sight_append (write : Write) :
    Sight session roles (log ++ [write]) before =
      After session roles write (Sight session roles log before) := by
  unfold Sight
  rw [List.foldl_append]
  rfl

/-- More rows before, more rows after. -/
theorem sight_mono {fewer : Uuid → Mapping → Prop} (less : ∀ id, fewer id mapping → before id mapping)
    (seen : Sight session roles log fewer id mapping) : Sight session roles log before id mapping := by
  induction log generalizing fewer before with
  | nil => exact less id seen
  | cons write rest ih =>
    refine ih (fun id after => ?_) seen
    rcases after with ⟨old, kept⟩ | new
    · exact .inl ⟨less id old, kept⟩
    · exact .inr new

/-- A log that does not add a mapping leaves at most the rows there were. -/
theorem sight_old (never : ∀ write ∈ log, ∀ id, adds write ≠ some (id, mapping))
    (seen : Sight session roles log before id mapping) :
    before id mapping := by
  induction log generalizing before with
  | nil => exact seen
  | cons write rest ih =>
    rcases ih (fun other member => never other (List.mem_cons_of_mem _ member)) seen with ⟨old, _⟩ | new
    · exact old
    · exact absurd new (never write List.mem_cons_self id)

/-- The rows after a log that the database has accepted. -/
theorem says_replay {Id : Type} {db own : Db} (mapped : ∀ write ∈ log, Mapped write)
    (replayed : replay (engine Id session) log db = some own) :
    own.roles = db.roles ∧ ∀ {id mapping}, Says own id mapping ↔
      Sight session db.roles log (Says db) id mapping := by
  induction log using List.reverseRecOn generalizing own with
  | nil =>
    cases replayed
    exact ⟨rfl, Iff.rfl⟩
  | append_singleton log write ih =>
    rw [replay_append] at replayed
    obtain ⟨between, earlier, accepted⟩ := Option.bind_eq_some_iff.mp replayed
    obtain ⟨roles, rows⟩ :=
      ih (fun other member => mapped other (List.mem_append_left _ member)) earlier
    have last : Mapped write := mapped write (List.mem_append_right _ (List.mem_singleton_self _))
    cases answer : send session write between with
    | error why =>
      have refused : (engine Id session).apply write between = .error why := answer
      rw [refused] at accepted
      cases accepted
    | ok after =>
      have sent : (engine Id session).apply write between = .ok after := answer
      rw [sent] at accepted
      cases accepted
      have applied := send_ok answer
      refine ⟨(roles_of_mapped last applied).trans roles, ?_⟩
      intro id mapping
      rw [says_apply last applied, roles, sight_append]
      unfold After
      rw [rows]

end Logs

end GenericIam.Mappings
