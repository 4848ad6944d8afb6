import GenericIam.AccessRuns
import GenericIam.SeededRoles

/-! The seeding of permissions, roles and the super admin, which every deployment starts with,
and what a later one finds after the service has run. -/

namespace GenericIam.Reseeding
open Table Database Identifiers Transaction Handlers AccountServices TenantWrites
open Operations SuperAdminRequests SeededRoles Races Runs AccessRuns Controllers

section Seeds

structure Seeds where
  permissionsToSeed : List String
  rolesData : List RoleDefinition
  superAdminEmail : String
  deriving DecidableEq

structure Keys where
  permissions : Nat → Uuid
  roles : Nat → Uuid
  superAdmin : Uuid
  clock : Uuid → Time

def seedSuperAdmin (hashPassword : String → String) (email password : String) (id : Uuid)
    (db : Db) : Except HttpException Unit × Db :=
  match db.superAdmins.findOne fun row => row.email == email with
  | some _ => (.ok (), db)
  | none => match db.superAdmins.insert ⟨id, email, hashPassword password, true⟩ with
    | some superAdmins => (.ok (), { db with superAdmins })
    | none => (.error .queryFailed, db)

/-- The parts one after the other, up to the first error. There is no transaction around them. -/
def bootstrap (hashPassword : String → String) (password : String) (seeds : Seeds) (keys : Keys)
    (db : Db) :
    Except HttpException Unit × Db :=
  match run (engine Uuid .bypassRls) keys.permissions
      (seedPermissions seeds.permissionsToSeed) { db } with
  | (.error error, tx) => (.error error, tx.db)
  | (.ok _, tx) =>
    match run (engine Uuid .bypassRls) keys.roles (seedRoles keys.clock seeds.rolesData)
    { db := tx.db } with
    | (.error error, tx) => (.error error, tx.db)
    | (.ok _, tx) => seedSuperAdmin hashPassword seeds.superAdminEmail password keys.superAdmin tx.db

/-- Every permission, every role with what its entries stand for, and the super admin. -/
structure Seeded (seeds : Seeds) (db : Db) : Prop where
  permissions : ∀ code ∈ seeds.permissionsToSeed, ∃ permission ∈ db.permissions, permission.code = code
  roles : ∀ roleDef ∈ seeds.rolesData, ∃ role, seededRole db roleDef = some role ∧
    ∀ permission, Assigned (db.permissions.find fun _ => true) roleDef permission →
      Mapped db role.id permission
  superAdmin : ∃ row ∈ db.superAdmins, row.email = seeds.superAdminEmail

end Seeds

/-! What a seeding that completes leaves behind. -/

section Completed
variable {ids : Nat → Uuid} {tx : Tx (effects Uuid) Db}

structure Names (before : Db) (codes : List String) (after : Db) : Prop where
  catalogue : ∀ code, code ∈ catalogue after ↔ code ∈ catalogue before ∨ code ∈ codes
  rolePermissions : after.rolePermissions = before.rolePermissions

theorem leaves_seedPermission (code : String) :
    Leaves ids (seedPermission code) (Names tx.db [code]) tx := by
  unfold seedPermission
  simp only [Leaves, wp_bind, wp_visible]
  split
  · next permission found =>
    obtain ⟨member, same⟩ := findOne_some found
    have known : code ∈ catalogue tx.db := List.mem_map.mpr ⟨permission, member, by simpa using same⟩
    refine ⟨fun other => ⟨.inl, ?_⟩, rfl⟩
    intro holds
    rcases holds with before | own
    · exact before
    · rw [List.mem_singleton.mp own]
      exact known
  · simp only [wp_bind, wp_newId]
    refine wp_persist trivial ?_ trivial
    intro db applied
    obtain ⟨permissions, inserted, rfl⟩ := insertPermission_some applied
    refine ⟨fun other => ?_, rfl⟩
    simp only [catalogue, (insert_some inserted).2, List.map_append, List.mem_append,
      List.map_cons, List.map_nil]

theorem leaves_seedPermissions (codes : List String) :
    Leaves ids (seedPermissions codes) (Names tx.db codes) tx := by
  refine @wp_forEach_done _ _ _ _ _ _ _ _ (fun done (during : Tx (effects Uuid) Db) =>
    Names tx.db done during.db) _ _ _ ?_ ?_ fun _ all => all
  · exact ⟨fun code => by simp, rfl⟩
  · rintro done code rest - during sofar
    refine wp_mono (leaves_seedPermission code) ?_ fun _ _ _ => trivial
    intro _ after one
    refine ⟨fun other => ?_, one.rolePermissions.trans sofar.rolePermissions⟩
    rw [one.catalogue, sofar.catalogue, or_assoc, List.mem_append]

def namedDb (ids : Nat → Uuid) (codes : List String) (db : Db) : Db :=
  (run (engine Uuid .bypassRls) ids (seedPermissions codes) { db }).2.db

/-- All parts have come to their end. The last one touches the table of the super admins only. -/
structure Completed (seeds : Seeds) (keys : Keys) (db after : Db) : Prop where
  named : Names db seeds.permissionsToSeed (namedDb keys.permissions seeds.permissionsToSeed db)
  granted : SeedsAll (namedDb keys.permissions seeds.permissionsToSeed db) seeds.rolesData
    (seededDb keys.clock keys.roles seeds.rolesData
      (namedDb keys.permissions seeds.permissionsToSeed db))
  others : ∃ superAdmins,
    after = { seededDb keys.clock keys.roles seeds.rolesData
      (namedDb keys.permissions seeds.permissionsToSeed db) with superAdmins }
  superAdmin : ∃ row ∈ after.superAdmins, row.email = seeds.superAdminEmail

theorem run_leaves {handler : Handler Uuid Unit} {post : Db → Prop} {db : Db}
    (leaves : Leaves ids handler post { db })
    (returned : (run (engine Uuid .bypassRls) ids handler { db }).1 = .ok ()) :
    post (run (engine Uuid .bypassRls) ids handler { db }).2.db := by
  have ended := wp_run leaves
  cases ran : run (engine Uuid .bypassRls) ids handler { db } with
  | mk result after =>
    rw [ran] at ended returned
    cases returned
    exact ended

variable {hashPassword : String → String} {password : String} {seeds : Seeds} {keys : Keys} {db : Db}

theorem seedSuperAdmin_ok {email : String} {id : Uuid}
    (completed : (seedSuperAdmin hashPassword email password id db).1 = .ok ()) :
    (∃ superAdmins, (seedSuperAdmin hashPassword email password id db).2 = { db with superAdmins }) ∧
      ∃ row ∈ (seedSuperAdmin hashPassword email password id db).2.superAdmins, row.email = email := by
  unfold seedSuperAdmin at completed ⊢
  split
  · next row found =>
    obtain ⟨member, same⟩ := findOne_some found
    exact ⟨⟨_, rfl⟩, row, member, by simpa using same⟩
  · next missing =>
    rw [missing] at completed
    cases inserted : db.superAdmins.insert ⟨id, email, hashPassword password, true⟩ with
    | none =>
      rw [inserted] at completed
      cases completed
    | some superAdmins => exact ⟨⟨_, rfl⟩, _, (mem_insert inserted).mpr (.inr rfl), rfl⟩

theorem completed_of_bootstrap
    (completed : (bootstrap hashPassword password seeds keys db).1 = .ok ()) :
    Completed seeds keys db (bootstrap hashPassword password seeds keys db).2 := by
  have named := @run_leaves keys.permissions _ _ db (leaves_seedPermissions seeds.permissionsToSeed)
  have granted :=
    @run_leaves keys.roles _ _ (namedDb keys.permissions seeds.permissionsToSeed db)
    (leaves_seedRoles keys.clock seeds.rolesData)
  unfold bootstrap at completed ⊢
  cases first : run (engine Uuid .bypassRls) keys.permissions
      (seedPermissions seeds.permissionsToSeed) { db } with
  | mk result catalogued =>
    rw [first] at completed
    cases result with
    | error error => cases completed
    | ok _ =>
      have whole : namedDb keys.permissions seeds.permissionsToSeed db = catalogued.db := by
        rw [namedDb, first]
      simp only at completed ⊢
      cases second : run (engine Uuid .bypassRls) keys.roles (seedRoles keys.clock seeds.rolesData)
          { db := catalogued.db } with
      | mk result mapped =>
        rw [second] at completed
        cases result with
        | error error => cases completed
        | ok _ =>
          have last : seededDb keys.clock keys.roles seeds.rolesData
              (namedDb keys.permissions seeds.permissionsToSeed db) = mapped.db := by
            rw [seededDb, whole, second]
          simp only at completed ⊢
          obtain ⟨⟨superAdmins, others⟩, superAdmin⟩ := seedSuperAdmin_ok completed
          refine ⟨named (by rw [first]), granted (by rw [whole, second]), ⟨superAdmins, ?_⟩, superAdmin⟩
          rw [others, last]

theorem seeded_of_bootstrap (completed : (bootstrap hashPassword password seeds keys db).1 = .ok ()) :
    Seeded seeds (bootstrap hashPassword password seeds keys db).2 := by
  obtain ⟨named, granted, ⟨superAdmins, others⟩, superAdmin⟩ := completed_of_bootstrap completed
  refine ⟨fun code member => ?_, fun roleDef member => ?_, superAdmin⟩
  · rw [others]
    have known := (named.catalogue code).mpr (.inr member)
    rw [catalogue, ← granted.permissions] at known
    obtain ⟨permission, present, same⟩ := List.mem_map.mp known
    exact ⟨permission, present, same⟩
  · rw [others]
    obtain ⟨role, found⟩ := granted.seeded roleDef member
    refine ⟨role, found, fun permission assigned =>
      (granted.mapped _ _).mpr (.inr ⟨roleDef, member, role, found, rfl, ?_⟩)⟩
    rw [← granted.permissions]
    exact assigned

end Completed

/-! A seeding that finds everything. -/

section Idle
variable {ids : Nat → Uuid} {tx : Tx (effects Uuid) Db} {seeds : Seeds} {db : Db}

abbrev Idle (ids : Nat → Uuid) (handler : Handler Uuid Unit) (tx : Tx (effects Uuid) Db) : Prop :=
  wp (engine Uuid .bypassRls) ids ⟨fun _ _ => False, fun _ _ => False⟩ handler (fun _ after =>
    after = tx) (fun _ _ => False) tx

theorem idle_forEach {ι : Type} {items : List ι} {body : ι → Handler Uuid Unit}
    (round : ∀ item ∈ items, Idle ids (body item) tx) :
    Idle ids (forEach items body) tx := by
  refine @wp_forEach _ _ _ _ _ _ _ _ (fun during => during = tx) _ _ _ rfl ?_ fun _ same => same
  intro item member _ same
  obtain rfl := same
  exact round item member

theorem run_idle {handler : Handler Uuid Unit} (idle : Idle ids handler tx) :
    run (engine Uuid .bypassRls) ids handler tx = (.ok (), tx) := by
  have ended := wp_run idle
  cases finished : run (engine Uuid .bypassRls) ids handler tx with
  | mk result after =>
    rw [finished] at ended
    cases result with
    | ok value =>
      have same : after = tx := ended
      rw [same]
    | error error => exact ended.elim

theorem idle_seedPermission {code : String}
    (known : ∃ permission ∈ tx.db.permissions, permission.code = code) :
    Idle ids (seedPermission code) tx := by
  unfold seedPermission
  simp only [Idle, wp_bind, wp_visible]
  split
  · rfl
  · next missing =>
    obtain ⟨permission, member, same⟩ := known
    have missed := findOne_none.mp missing permission member
    simp [same] at missed

theorem idle_seedMapping {roleId : Uuid} {permission : PermissionEntity}
    (mapped : Mapped tx.db roleId permission.id) :
    Idle ids (seedMapping roleId permission) tx := by
  unfold seedMapping
  simp only [Idle, wp_bind, wp_visible, seen_rolePermissions]
  split
  · rfl
  · next missing =>
    obtain ⟨rp, member, role, same⟩ := mapped
    have missed := findOne_none.mp missing rp member
    simp [role, same] at missed

theorem idle_seedRole {clock : Uuid → Time} {allPerms : List PermissionEntity}
    {roleDef : RoleDefinition} {role : RoleEntity} (found : seededRole tx.db roleDef = some role)
    (mapped : ∀ permission, Assigned allPerms roleDef permission → Mapped tx.db role.id permission) :
    Idle ids (seedRole clock allPerms roleDef) tx := by
  have again : tx.db.roles.findOne (fun role => role.name == roleDef.name && role.isSystem &&
    role.tenantId == none) = some role := found
  unfold seedRole findOrSeedRole
  simp only [Idle, wp_bind, wp_visible, seen_roles, again, wp_pure]
  exact idle_forEach fun permission member => idle_seedMapping (mapped _ ⟨permission, member, rfl⟩)

/-- Seeding again changes nothing, with whatever password. -/
theorem bootstrap_idle (seeded : Seeded seeds db) (hashPassword : String → String)
    (password : String) (keys : Keys) :
    bootstrap hashPassword password seeds keys db = (.ok (), db) := by
  have named : Idle keys.permissions (seedPermissions seeds.permissionsToSeed) { db } :=
    idle_forEach fun code member => idle_seedPermission (seeded.permissions code member)
  have granted : Idle keys.roles (seedRoles keys.clock seeds.rolesData) { db } := by
    unfold seedRoles
    simp only [Idle, wp_bind, wp_visible]
    refine idle_forEach fun roleDef member => ?_
    obtain ⟨role, found, mapped⟩ := seeded.roles roleDef member
    exact idle_seedRole found mapped
  obtain ⟨row, member, same⟩ := seeded.superAdmin
  unfold bootstrap
  simp only [run_idle named, run_idle granted, seedSuperAdmin]
  split
  · rfl
  · next missing =>
    have missed := findOne_none.mp missing row member
    simp [same] at missed

end Idle

/-! What requests leave of a seeding. -/

section Kept
variable {session : Session} {seeds : Seeds} {db db' : Db} {write : Write}

def Harmless (db : Db) : Write → Prop
  | .insertPermission _ => False
  | .insertRole row => row.isSystem = false ∧ row.tenantId.isSome = true
  | .updateRole row =>
    row.isSystem = false ∧ row.tenantId.isSome = true ∧ ∃ role ∈ db.roles, role.id = row.id ∧
    role.isSystem = false
  | .deleteRole row => row ∈ db.roles ∧ row.isSystem = false
  | .insertRolePermission row => ∃ role ∈ db.roles, role.id = row.roleId ∧ role.isSystem = false
  | .deleteRolePermission row =>
    row ∈ db.rolePermissions ∧ ∃ role ∈ db.roles, role.id = row.roleId ∧ role.isSystem = false
  | _ => True

theorem harmless_of_tenantWrite {tenantId : Uuid} {scope : Scope}
    (allowed : TenantWrite tenantId scope db write) : Harmless db write := by
  cases write with
  | insertPermission row => exact allowed
  | insertRole row => exact ⟨allowed.2, by rw [allowed.1]; rfl⟩
  | updateRole row =>
    obtain ⟨⟨role, member, same, custom, _⟩, owner, still⟩ := allowed
    exact ⟨still, by rw [owner]; rfl, role, member, same, custom⟩
  | deleteRole row => exact ⟨allowed.2.1, allowed.2.2.1⟩
  | insertRolePermission row =>
    obtain ⟨role, present, same, custom, _⟩ := allowed
    exact ⟨role, present, same, custom⟩
  | deleteRolePermission row =>
    obtain ⟨member, role, present, same, custom, _⟩ := allowed
    exact ⟨member, role, present, same, custom⟩
  | _ => trivial

section Rows
variable {Row Key : Type} [Keyed Row Key] {table : Table Row} {wanted : Row → Bool}

theorem findOne_insert_away [DecidableEq Key] {later : Table Row} {row : Row}
    (inserted : table.insert row = some later) (away : wanted row = false) :
    later.findOne wanted = table.findOne wanted := by
  rw [findOne, (insert_some inserted).2, List.find?_append]
  simp [findOne, away]

theorem findOne_modify_away {where_ : Row → Bool} {change : Row → Row}
    (keeps : ∀ row, key (change row) = key row)
    (away : ∀ row ∈ table, where_ row = true → wanted row = false ∧ wanted (change row) = false) :
    (table.modify where_ change keeps).findOne wanted = table.findOne wanted := by
  have rows : ∀ rows : List Row, (∀ row ∈ rows, row ∈ table.rows) →
      (rows.map fun row => if where_ row then change row else row).find? wanted =
          rows.find? wanted := by
    intro rows inside
    induction rows with
    | nil => rfl
    | cons row rest ih =>
      have later := ih fun other member => inside other (List.mem_cons_of_mem _ member)
      rw [List.map_cons, List.find?_cons, List.find?_cons, later]
      cases hit : where_ row with
      | false => rfl
      | true =>
        obtain ⟨before, after⟩ := away row (inside row List.mem_cons_self) hit
        simp [before, after]
  exact rows table.rows fun _ member => member

end Rows

theorem permissions_apply (harmless : Harmless db write) (applied : write.apply session db = some db') :
    db'.permissions = db.permissions := by
  cases write with
  | insertPermission row => exact harmless.elim
  | _ => exact (sameBut_apply applied).permissions (by simp [Write.changes])

theorem seededRole_apply (harmless : Harmless db write)
    (applied : write.apply session db = some db') (roleDef : RoleDefinition) :
    seededRole db' roleDef = seededRole db roleDef := by
  have frame := sameBut_apply applied
  unfold seededRole
  cases write with
  | insertRole row =>
    obtain ⟨_, inserted, rfl⟩ := insertRole_some applied
    refine findOne_insert_away inserted ?_
    simp [harmless.1]
  | updateRole row =>
    rw [updateRole_some applied]
    obtain ⟨still, _, role, member, same, custom⟩ := harmless
    have keeps : ∀ other : RoleEntity, key { row with id := other.id } = key other := fun _ => rfl
    refine findOne_modify_away keeps fun other present hit => ?_
    simp only [Bool.and_eq_true, beq_iff_eq] at hit
    have one : other = role := eq_of_key_eq present member (hit.1.trans same.symm)
    simp [one, custom, still]
  | deleteRole row =>
    cases applied
    rcases deleteRole_eq session db row.id with same | changed
    · rw [same]
    · rw [changed]
      refine findOne_select fun other present wanted => ?_
      simp only [Bool.and_eq_true] at wanted
      rw [bne_iff_ne]
      intro same
      have one : other = row := eq_of_key_eq present harmless.1 same
      rw [one, harmless.2] at wanted
      cases wanted.1.2
  | _ => rw [frame.roles (by simp [Write.changes])]

theorem mapped_apply (harmless : Harmless db write) (applied : write.apply session db = some db')
    {role : RoleEntity} (member : role ∈ db.roles) (system : role.isSystem = true)
    {permission : Uuid} (mapped : Mapped db role.id permission) :
    Mapped db' role.id permission := by
  have frame := sameBut_apply applied
  obtain ⟨rp, present, ofRole, named⟩ := mapped
  -- the role of a mapping that goes is another one
  have other : ∀ {custom : RoleEntity}, custom ∈ db.roles → custom.isSystem = false →
      custom.id ≠ role.id := by
    intro custom known ordinary same
    have one : custom = role := eq_of_key_eq known member same
    rw [one, system] at ordinary
    cases ordinary
  cases write with
  | insertRolePermission row =>
    obtain ⟨_, inserted, rfl⟩ := insertRolePermission_some applied
    exact ⟨rp, (mem_insert inserted).mpr (.inl present), ofRole, named⟩
  | deleteRolePermission row =>
    cases applied
    obtain ⟨removed, custom, known, same, ordinary⟩ := harmless
    refine ⟨rp, mem_select.mpr ⟨present, ?_⟩, ofRole, named⟩
    have differ : rp.id ≠ row.id := by
      intro one
      have whole : rp = row := eq_of_key_eq present removed one
      rw [whole] at ofRole
      exact other known ordinary (same.trans ofRole)
    simp [differ]
  | deleteRole row =>
    cases applied
    rcases deleteRole_eq session db row.id with same | changed
    · rw [same]
      exact ⟨rp, present, ofRole, named⟩
    · rw [changed]
      refine ⟨rp, mem_select.mpr ⟨present, ?_⟩, ofRole, named⟩
      rw [bne_iff_ne, ofRole]
      exact (other harmless.1 harmless.2).symm
  | _ =>
    exact ⟨rp, by rw [frame.rolePermissions (by simp [Write.changes])]; exact present, ofRole, named⟩

theorem seeded_apply (seeded : Seeded seeds db) (harmless : Harmless db write)
    (applied : write.apply session db = some db') :
    Seeded seeds db' := by
  have permissions := permissions_apply harmless applied
  constructor
  · rw [permissions]
    exact seeded.permissions
  · intro roleDef member
    obtain ⟨role, found, mapped⟩ := seeded.roles roleDef member
    obtain ⟨present, matched⟩ := findOne_some found
    simp only [Bool.and_eq_true] at matched
    refine ⟨role, (seededRole_apply harmless applied roleDef).trans found, ?_⟩
    rw [permissions]
    exact fun permission assigned =>
      mapped_apply harmless applied present matched.1.2 (mapped permission assigned)
  · rw [(sameBut_apply applied).superAdmins]
    exact seeded.superAdmin

def Founding (write : Write) : Prop := ∀ db, Harmless db write

theorem sends_superAdmin (env : Environment) (actorId : Uuid) (operation : SuperAdminOperation Uuid) :
    Sends (E := effects Uuid) Founding (fun _ => False) (operation.handler env actorId) := by
  cases operation with
  | createTenantWithAdmin dto =>
    refine sends_bind ?_ fun _ => trivial
    apply sends_visible
    intro db
    refine sends_bind (sends_refuseIf _ _) ?_
    intro _
    apply sends_newId
    intro tenantId
    refine sends_bind (sends_persist fun _ => trivial) ?_
    intro _
    apply sends_newId
    intro userId
    refine sends_bind (sends_persist fun _ => trivial) ?_
    intro _
    apply sends_visible
    intro later
    split
    · trivial
    · apply sends_newId
      intro assignmentId
      exact sends_bind (sends_persist fun _ => trivial) fun _ => trivial
  | updateTenant id dto =>
    exact sends_bind (sends_updateTenant _ _ _ (fun _ _ => trivial) fun _ _ _ => trivial) fun _ => trivial
  | deactivateTenant id =>
    refine sends_bind (sends_findTenant _) ?_
    intro tenant
    exact sends_bind (sends_saveTenant _ (fun _ => trivial) fun _ _ => trivial) fun _ => trivial

/-- What harmless statements keep holds after every request. -/
theorem invariant_next {invariant : Db → Prop}
    (keeps : ∀ {session write db db'}, invariant db → Harmless db write →
      Write.apply session db write = some db' → invariant db')
    (start : invariant db) {incoming : Incoming} (admissible : incoming.sender.Admissible) :
    invariant (incoming.next db) := by
  obtain ⟨sender, ids, now⟩ := incoming
  cases sender with
  | tenant env tenantId actorId operation =>
    refine serve_invariant (ensures_operation env actorId admissible rfl) start ?_ ?_
    · intro _ _ _ _ stmt _ before allowed applied
      exact keeps before (harmless_of_tenantWrite allowed.1) (send_ok applied)
    · intro _ during _ after allowed before applied
      obtain ⟨userId, rfl⟩ := allowed
      have dropped : Write.apply .bypassRls during (.deleteRefreshTokensOf userId) = some after :=
        send_ok applied
      exact keeps before (by trivial) dropped
  | superAdmin env actorId operation =>
    exact serve_sends (sends_superAdmin env actorId operation) start
      (fun founding before applied => keeps before (founding _) (send_ok applied)) fun impossible =>
        impossible.elim
  | purge =>
    have purges : Sends (E := effects Uuid) Founding (fun _ => False)
      (RbacServices.purgeExpiredRoles now) := sends_persist fun _ => trivial
    exact serve_sends purges start
      (fun founding before applied => keeps before (founding _) (send_ok applied)) fun impossible =>
        impossible.elim

theorem invariant_run {invariant : Db → Prop}
    (keeps : ∀ {session write db db'}, invariant db → Harmless db write →
      Write.apply session db write = some db' → invariant db')
    (start : invariant db) {run : List Incoming}
    (admissible : ∀ incoming ∈ run, incoming.sender.Admissible) :
    invariant (final Incoming.next db run) := by
  induction run generalizing db with
  | nil => exact start
  | cons incoming rest ih =>
    exact ih (invariant_next keeps start (admissible incoming List.mem_cons_self)) fun other member =>
      admissible other (List.mem_cons_of_mem _ member)

/-- Whatever a database held before, once it has been seeded and then served requests of any
kind, seeding it again completes and changes nothing. -/
theorem reseeding_idle {hashPassword : String → String} {password : String} {keys : Keys}
    (completed : (bootstrap hashPassword password seeds keys db).1 = .ok ()) {run : List Incoming}
    (admissible : ∀ incoming ∈ run, incoming.sender.Admissible) (hashPassword' : String → String)
    (password' : String) (keys' : Keys) :
    bootstrap hashPassword' password' seeds keys'
      (final Incoming.next (bootstrap hashPassword password seeds keys db).2 run) =
      (.ok (), final Incoming.next (bootstrap hashPassword password seeds keys db).2 run) :=
  bootstrap_idle (invariant_run seeded_apply (seeded_of_bootstrap completed) admissible)
    hashPassword' password' keys'

end Kept

/-! Acme gets a role of its own that is called like one of the system, and drops it again. -/

section Example

def deployment : Seeds := ⟨["user.*", "user.read", "role.*"], [roleAdmin], "root@iam.io"⟩

def keysFrom (start : Nat) : Keys :=
  ⟨countedFrom start, countedFrom (start + 10), BitVec.ofNat 128 (start + 20), fun _ => 0⟩

def namesake : List Incoming :=
  [⟨.superAdmin Coherence.plainEnvironment 9
      (.createTenantWithAdmin ⟨"Acme", "acme", none, "ada@acme.io", "secret", "Ada", "Ames"⟩),
        countedFrom 41, 1⟩,
    ⟨.tenant Coherence.plainEnvironment 41 42 (.createCustomRole 2 ⟨"Role Admin", none⟩),
      countedFrom 51, 2⟩,
    ⟨.tenant Coherence.plainEnvironment 41 42 (.deleteCustomRole 51), countedFrom 61, 3⟩]

theorem reseeding_idle_namesake : (bootstrap id "secret" deployment (keysFrom 1) {}).1 = .ok () ∧
    bootstrap id "other" deployment (keysFrom 71)
      (final Incoming.next (bootstrap id "secret" deployment (keysFrom 1) {}).2 namesake) =
      (.ok (), final Incoming.next (bootstrap id "secret" deployment (keysFrom 1) {}).2 namesake) := by
  have completed : (bootstrap id "secret" deployment (keysFrom 1) {}).1 = .ok () := by rfl
  refine ⟨completed, reseeding_idle completed ?_ id "other" (keysFrom 71)⟩
  intro incoming member
  simp only [namesake, List.mem_cons, List.not_mem_nil, or_false] at member
  rcases member with rfl | rfl | rfl
  · trivial
  · trivial
  · trivial

end Example

end GenericIam.Reseeding
