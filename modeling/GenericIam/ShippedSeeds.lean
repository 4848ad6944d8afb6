import GenericIam.Reseeding

/-! The permissions and the roles that the service is shipped with, and what seeding makes of a
catalogue and of role definitions that go together. -/

namespace GenericIam.ShippedSeeds
open Table Database Transaction Handlers PermissionMatcher
open PermissionAlgebra AccountServices SeededRoles Reseeding Controllers

section Shipped

def extractPermissions : Json → List String
  | .object fields => extractFields fields
  | .array items => extractItems items
  | _ => []
where
  extractFields : List (String × Json) → List String
    | [] => []
    | (_, .string text) :: rest => text :: extractFields rest
    | (_, value) :: rest => extractPermissions value ++ extractFields rest
  extractItems : List Json → List String
    | [] => []
    | .string text :: rest => text :: extractItems rest
    | value :: rest => extractPermissions value ++ extractItems rest

def systemPermissions : Json := .object [
  ("GLOBAL_ALL", .string "*.*"),
  ("EXPENSE", .object [
    ("ALL", .string "expense.*"),
    ("DEPARTMENTS", .object [
      ("CREATE", .string "expense.departments.create"),
      ("LIST", .string "expense.departments.list"),
      ("READ", .string "expense.departments.read"),
      ("UPDATE", .string "expense.departments.update"),
      ("BUDGET", .object [("UPDATE", .string "expense.departments.budget.update")])]),
    ("CATEGORIES", .object [
      ("CREATE", .string "expense.categories.create"),
      ("LIST", .string "expense.categories.list"),
      ("UPDATE", .string "expense.categories.update")]),
    ("EXCHANGE_RATES", .object [
      ("CREATE", .string "expense.exchange-rates.create"),
      ("LIST", .string "expense.exchange-rates.list"),
      ("DELETE", .string "expense.exchange-rates.delete")]),
    ("SETTINGS",
      .object [("READ", .string "expense.settings.read"),
      ("UPDATE", .string "expense.settings.update")]),
    ("EXPENSES", .object [
      ("CREATE", .string "expense.expenses.create"),
      ("LIST", .string "expense.expenses.list"),
      ("READ", .string "expense.expenses.read"),
      ("UPDATE", .string "expense.expenses.update"),
      ("DELETE", .string "expense.expenses.delete"),
      ("RECEIPT", .object [
        ("UPLOAD", .string "expense.expenses.receipt.upload"),
        ("DOWNLOAD", .string "expense.expenses.receipt.download"),
        ("DELETE", .string "expense.expenses.receipt.delete")])]),
    ("CLAIMS", .object [
      ("CREATE", .string "expense.claims.create"),
      ("LIST", .string "expense.claims.list"),
      ("READ", .string "expense.claims.read"),
      ("UPDATE", .string "expense.claims.update"),
      ("SUBMIT", .string "expense.claims.submit"),
      ("WITHDRAW", .string "expense.claims.withdraw")]),
    ("APPROVALS", .object [
      ("PENDING", .object [("LIST", .string "expense.approvals.pending.list")]),
      ("HISTORY", .object [("LIST", .string "expense.approvals.history.list")]),
      ("CLAIMS", .object [
        ("READ", .string "expense.approvals.claims.read"),
        ("APPROVE", .string "expense.approvals.claims.approve"),
        ("PARTIAL_APPROVE", .string "expense.approvals.claims.partial-approve"),
        ("REJECT", .string "expense.approvals.claims.reject")])])]),
  ("PAYROLL", .object [
    ("ALL", .string "payroll.*"), ("READ", .string "payroll.read"), ("WRITE", .string "payroll.write"),
    ("APPROVE", .string "payroll.approve")]),
  ("USER", .object [
    ("ALL", .string "user.*"), ("READ", .string "user.read"), ("WRITE", .string "user.write"),
      ("DELETE", .string "user.delete")]),
  ("ROLE", .object [
    ("ALL", .string "role.*"), ("READ", .string "role.read"), ("WRITE", .string "role.write"),
      ("ASSIGN", .string "role.assign")]),
  ("INVOICE", .object [
    ("ALL", .string "invoice.*"), ("READ", .string "invoice.read"), ("WRITE", .string "invoice.write"),
    ("DELETE", .string "invoice.delete"), ("APPROVE", .string "invoice.approve")]),
  ("REPORT", .object [
    ("ALL", .string "report.*"), ("READ", .string "report.read"), ("WRITE", .string "report.write"),
    ("EXPORT", .string "report.export")]),
  ("WORKFLOW", .object [
    ("ALL", .string "workflow.*"), ("READ", .string "workflow.read"),
      ("WRITE", .string "workflow.write"),
    ("EXECUTE", .string "workflow.execute")]),
  ("TENANT",
    .object [("ALL", .string "tenant.*"), ("READ", .string "tenant.read"),
    ("WRITE", .string "tenant.write")]),
  ("ACL", .object [("ALL", .string "acl.*")]),
  ("AUDIT", .object [("ALL", .string "audit.*"), ("READ", .string "audit.read")])]

def rolesData : List RoleDefinition := [
  ⟨"Super Admin", "System-wide super administrator", ["*.*"]⟩,
  ⟨"Tenant Admin", "Full access to tenant resources",
    ["user.*", "role.*", "acl.*", "expense.*", "payroll.*", "invoice.*", "report.*", "workflow.*"]⟩,
  ⟨"Auditor", "Read-only access to audit logs and reports",
    ["audit.read", "report.read", "expense.*", "payroll.read", "invoice.read"]⟩,
  ⟨"Employee", "Basic employee access",
    ["expense.expenses.read", "expense.expenses.create", "payroll.read"]⟩,
  ⟨"Manager", "Managerial access for approvals",
    ["expense.expenses.read", "expense.approvals.claims.approve", "payroll.read", "report.read"]⟩,
  ⟨"Billing Manager", "Access to invoices and billing",
    ["invoice.read", "invoice.write", "invoice.approve", "report.read", "report.export"]⟩]

def shippedSeeds (email : Option String) : Seeds :=
  ⟨extractPermissions systemPermissions, rolesData, email.getD "superadmin@example.com"⟩

end Shipped

/-! Seeds that go together. -/

section Sound
variable {seeds : Seeds}

/-- Every entry of a definition is a permission, and none stands for more than it permits. -/
structure Sound (seeds : Seeds) : Prop where
  names : (seeds.rolesData.map RoleDefinition.name).Nodup
  listed : ∀ roleDef ∈ seeds.rolesData, ∀ entry ∈ roleDef.permissions, entry ∈ seeds.permissionsToSeed
  faithful : ∀ roleDef ∈ seeds.rolesData, Faithful seeds.permissionsToSeed roleDef.permissions

/-- It is enough that every entry stands for itself. -/
theorem sound_of_exact (names : (seeds.rolesData.map RoleDefinition.name).Nodup)
    (listed : ∀ roleDef ∈ seeds.rolesData, ∀ entry ∈ roleDef.permissions,
      entry ∈ seeds.permissionsToSeed)
    (permitted : ∀ roleDef ∈ seeds.rolesData, ∀ entry ∈ roleDef.permissions,
      ∀ code ∈ seeds.permissionsToSeed,
      StandsFor entry code → hasPermission roleDef.permissions code = true)
    (kept : ∀ roleDef ∈ seeds.rolesData, ∀ entry ∈ roleDef.permissions, StandsFor entry entry) :
    Sound seeds where
  names := names
  listed := listed
  faithful := fun roleDef member =>
    ⟨permitted roleDef member, fun entry inside => .inl (kept roleDef member entry inside)⟩

theorem sound_shippedSeeds (email : Option String) : Sound (shippedSeeds email) := by
  have names : (rolesData.map RoleDefinition.name).Nodup := by decide
  have listed : ∀ roleDef ∈ rolesData, ∀ entry ∈ roleDef.permissions,
    entry ∈ extractPermissions systemPermissions := by decide +kernel
  have permitted : ∀ roleDef ∈ rolesData, ∀ entry ∈ roleDef.permissions,
    ∀ code ∈ extractPermissions systemPermissions,
      StandsFor entry code → hasPermission roleDef.permissions code = true := by decide +kernel
  have kept : ∀ roleDef ∈ rolesData, ∀ entry ∈ roleDef.permissions, StandsFor entry entry := by
    decide +kernel
  exact sound_of_exact names listed permitted kept

end Sound

/-! What the roles of the system are mapped to, and that it stays. -/

section Defined
variable {session : Session} {seeds : Seeds} {db db' : Db} {write : Write}

def AsDefined (seeds : Seeds) (db : Db) : Prop :=
  ∀ roleDef ∈ seeds.rolesData, ∃ role, seededRole db roleDef = some role ∧
    ∀ code, code ∈ roleCodes db role.id ↔ code ∈ seeds.permissionsToSeed ∧
      ∃ entry ∈ roleDef.permissions, StandsFor entry code

/-- A system role belongs to no tenant, and any other role to one. -/
def Ownerless (db : Db) : Prop := ∀ role ∈ db.roles, role.tenantId = none ↔ role.isSystem = true

theorem asDefined_of_bootstrap {hashPassword : String → String} {password : String} {keys : Keys}
    {superAdmins : Table SuperAdminEntity} (names : (seeds.rolesData.map RoleDefinition.name).Nodup)
    (completed : (bootstrap hashPassword password seeds keys { superAdmins }).1 = .ok ()) :
    AsDefined seeds (bootstrap hashPassword password seeds keys { superAdmins }).2 := by
  obtain ⟨named, granted, ⟨superAdmins, others⟩, _⟩ := completed_of_bootstrap completed
  intro roleDef member
  obtain ⟨role, found⟩ := granted.seeded roleDef member
  rw [others]
  refine ⟨role, found, fun code => ?_⟩
  have unmapped := congrArg Table.rows named.rolePermissions
  refine (mem_roleCodes_seeded granted unmapped names member found code).trans
    (and_congr_left fun _ => ?_)
  rw [named.catalogue]
  exact or_iff_right List.not_mem_nil

def Seeding : Write → Prop
  | .insertPermission _ | .insertRolePermission _ => True
  | .insertRole row => row.tenantId = none ∧ row.isSystem = true
  | _ => False

theorem sends_seedPermissions (codes : List String) :
    Sends (E := effects Uuid) Seeding (fun _ => False) (seedPermissions codes) := by
  refine sends_forEach fun code => ?_
  apply sends_visible
  intro db
  split
  · trivial
  · apply sends_newId
    intro id
    exact sends_persist trivial

theorem sends_seedRoles (clock : Uuid → Time) (rolesData : List RoleDefinition) :
    Sends (E := effects Uuid) Seeding (fun _ => False) (seedRoles clock rolesData) := by
  apply sends_visible
  intro db
  refine sends_forEach fun roleDef => sends_bind ?_ fun role => sends_forEach fun permission => ?_
  · apply sends_visible
    intro db
    split
    · trivial
    · apply sends_newId
      intro id
      exact sends_bind (sends_persist ⟨rfl, rfl⟩) fun _ => trivial
  · apply sends_visible
    intro db
    split
    · trivial
    · apply sends_newId
      intro id
      exact sends_persist trivial

theorem ownerless_seeding (ownerless : Ownerless db) (seeding : Seeding write)
    (applied : write.apply session db = some db') :
    Ownerless db' := by
  intro role present
  rcases mem_roles_apply applied present with before | rfl | ⟨row, rfl, _⟩
  · exact ownerless role before
  · exact iff_of_true seeding.1 seeding.2
  · exact seeding.elim

theorem ownerless_run {handler : Handler Uuid Unit}
    (sends : Sends (E := effects Uuid) Seeding (fun _ => False) handler) {ids : Nat → Uuid}
    (ownerless : Ownerless db) : Ownerless (run (engine Uuid .bypassRls) ids handler { db }).2.db := by
  have kept : wp (engine Uuid .bypassRls) ids ⟨fun _ _ => True, fun _ _ => True⟩ handler (fun _ after =>
    Ownerless after.db)
      (fun _ after => Ownerless after.db) { db } := by
    refine sends_keeps sends (fun _ => trivial) (fun _ => trivial) ?_ (fun impossible =>
      impossible.elim) ?_
    · intro _ _ _ seeding before applied
      exact ownerless_seeding before seeding (send_ok applied)
    · exact ownerless
  have ended := wp_run kept
  cases ran : run (engine Uuid .bypassRls) ids handler { db } with
  | mk result after =>
    rw [ran] at ended
    cases result with
    | ok value => exact ended
    | error error => exact ended

theorem ownerless_of_bootstrap {hashPassword : String → String} {password : String} {keys : Keys}
    (ownerless : Ownerless db)
    (completed : (bootstrap hashPassword password seeds keys db).1 = .ok ()) :
    Ownerless (bootstrap hashPassword password seeds keys db).2 := by
  obtain ⟨_, _, ⟨superAdmins, others⟩, _⟩ := completed_of_bootstrap completed
  rw [others]
  exact ownerless_run (sends_seedRoles _ _) (ownerless_run (sends_seedPermissions _) ownerless)

/-! One statement of a request. -/

theorem ownerless_apply (ownerless : Ownerless db) (harmless : Harmless db write)
    (applied : write.apply session db = some db') :
    Ownerless db' := by
  intro role present
  rcases mem_roles_apply applied present with before | rfl | ⟨row, rfl, old, _, _, whole⟩
  · exact ownerless role before
  · obtain ⟨custom, owned⟩ := harmless
    rw [custom, ← Option.not_isSome_iff_eq_none, owned]
    simp
  · obtain ⟨custom, owned, _⟩ := harmless
    rw [whole, ← Option.not_isSome_iff_eq_none]
    simp [custom, owned]

/-- No mapping is added to a system role either. -/
theorem roleCodes_apply (harmless : Harmless db write) (applied : write.apply session db = some db')
    {role : RoleEntity} (member : role ∈ db.roles) (system : role.isSystem = true) (code : String) :
    code ∈ roleCodes db' role.id ↔ code ∈ roleCodes db role.id := by
  rw [mem_roleCodes, mem_roleCodes, permissions_apply harmless applied]
  refine exists_congr fun permission => and_congr_right fun _ => and_congr_left fun _ =>
    ⟨?_, mapped_apply harmless applied member system⟩
  intro holds
  obtain ⟨rp, present, ofRole, named⟩ := holds
  rcases mem_rolePermissions_apply applied present with before | rfl
  · exact ⟨rp, before, ofRole, named⟩
  · obtain ⟨custom, known, same, ordinary⟩ := harmless
    have one : custom = role := eq_of_key_eq known member (same.trans ofRole)
    rw [one, system] at ordinary
    cases ordinary

theorem asDefined_apply (defined : AsDefined seeds db) (harmless : Harmless db write)
    (applied : write.apply session db = some db') :
    AsDefined seeds db' := by
  intro roleDef member
  obtain ⟨role, found, expanded⟩ := defined roleDef member
  obtain ⟨present, matched⟩ := findOne_some found
  simp only [Bool.and_eq_true] at matched
  refine ⟨role, (seededRole_apply harmless applied roleDef).trans found, fun code => ?_⟩
  rw [roleCodes_apply harmless applied present matched.1.2, expanded]

end Defined

end GenericIam.ShippedSeeds
