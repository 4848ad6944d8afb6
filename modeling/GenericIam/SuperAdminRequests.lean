import GenericIam.TenantRequests

/-! What super admins change goes the same way on two databases that go abreast for a
tenant, and so does the hourly purge. -/

namespace GenericIam.SuperAdminRequests
open Table Database Identifiers Events Transaction Handlers RbacServices
open AccountServices TenantWrites Operations Footprint ReachableStates
open TenantView TenantTwins TenantEvents GeneratedKeys TenantRequests

inductive SuperAdminOperation (Id : Type) where
  | createTenantWithAdmin (dto : CreateTenantDto)
  | updateTenant (id : Id) (dto : UpdateTenantDto)
  | deactivateTenant (id : Id)

/-! What a handler goes by. -/

section Reading
variable {Id Part α : Type} {look : Db → Part}

theorem reads_visible {next : Db → Handler Id α}
    (part : ∀ db db', look db = look db' → next db = next db')
    (rest : ∀ db, Reads (E := effects Id) look (next db)) : Reads (E :=
  effects Id) look (visible >>= next) := ⟨part, rest⟩

theorem reads_persist (write : Write) : Reads (E := effects Id) look (persist write) := by
  intro refused
  cases refused with
  | none => trivial
  | some why => trivial

theorem reads_refuseIf (condition : Bool) (error : HttpException) :
    Reads (E := effects Id) look (refuseIf condition error) := by
  cases condition with
  | false => trivial
  | true => trivial

theorem reads_orThrow (found : Option α) (error : HttpException) :
    Reads (E := effects Id) look (orThrow found error) := by
  cases found with
  | none => trivial
  | some row => trivial

/-- The row of a tenant is found and saved by the table of tenants alone. -/
theorem reads_findTenant [Identifier Id] (id : Id) :
    Reads (E := effects Id) Db.tenants (findTenant id) := by
  refine reads_visible ?_ fun db => reads_orThrow _ _
  intro db db' same
  rw [same]

theorem reads_saveTenant (tenant : TenantEntity) :
    Reads (E := effects Id) Db.tenants (saveTenant tenant) := by
  refine reads_visible ?_ ?_
  · intro db db' same
    rw [same]
  · intro db
    split
    · exact reads_persist _
    · exact reads_persist _

end Reading

/-! The record of a tenant. -/

section Records
variable {Id : Type} {ids : Nat → Uuid} {tenantId : Uuid} {strange : Uuid → Prop} {db db' : Db}

def records (Id : Type) : Monitor (effects Id) Db :=
  ⟨fun _ write => ∃ id change, write = .updateTenant id change, fun _ _ => False⟩

theorem wp_tenantRecord [Identifier Id] {α : Type} {id : Id} {next : TenantEntity → Handler Id α}
    {post : α → Tx (effects Id) Db → Prop} {tx : Tx (effects Id) Db}
    (rest : ∀ tenant ∈ tx.db.tenants,
      wp (engine Id .bypassRls) ids (records Id) (next tenant) post (fun _ _ => True) tx) :
    wp (engine Id .bypassRls) ids (records Id) (findTenant id >>= next) post (fun _ _ => True) tx := by
  unfold findTenant
  simp only [wp_bind, wp_visible]
  refine wp_orThrow ?_ fun _ => trivial
  intro tenant found
  exact rest tenant (findOne_some found).1

/-- Saving a changed copy of a stored tenant updates that row. -/
theorem records_saveTenant {stored tenant : TenantEntity} {tx : Tx (effects Id) Db}
    (member : stored ∈ tx.db.tenants) (same : tenant.id = stored.id)
    {post : Unit → Tx (effects Id) Db → Prop} (done : ∀ after, post () after) :
    wp (engine Id .bypassRls) ids (records Id) (saveTenant tenant) post (fun _ _ => True) tx := by
  unfold saveTenant
  simp only [wp_bind, wp_visible]
  have again : (shown .bypassRls tx.db).tenants.findOne (fun row =>
    row.id == tenant.id) = some stored :=
    findOne_key.mpr ⟨member, same.symm⟩
  rw [again]
  exact wp_persist ⟨_, _, rfl⟩ (fun _ _ => done _) trivial

def SameRecords (db db' during during' : Db) : Prop :=
  ∃ tenants, during = { db with tenants } ∧ during' = { db' with tenants }

theorem sameRecords_lockstep {during during' : Db} {write : Write}
    (same : SameRecords db db' during during') (allowed : (records Id).write during write) :
    Lockstep (SameRecords db db') ((engine Id .bypassRls).apply write during)
      ((engine Id .bypassRls).apply write during') := by
  obtain ⟨tenants, rfl, rfl⟩ := same
  obtain ⟨id, change, rfl⟩ := allowed
  cases conflict : ({ db with tenants } : Db).takenTenant id change &&
      ({ db with tenants } : Db).hasTenant id with
  | true =>
    have conflict' : (({ db' with tenants } : Db).takenTenant id change &&
      ({ db' with tenants } : Db).hasTenant id) = true := conflict
    simp only [engine, send, Write.apply, Db.updateTenant, conflict, conflict', if_true,
      Write.missingReference]
    rfl
  | false =>
    have free : (({ db' with tenants } : Db).takenTenant id change &&
      ({ db' with tenants } : Db).hasTenant id) = false := conflict
    simp only [engine, send, Write.apply, Db.updateTenant, conflict, free, if_false, Bool.false_eq_true]
    exact ⟨_, rfl, rfl⟩

/-- A change of a tenant's record goes by the records alone. -/
theorem abreast_tenantRecord {handler : Handler Id Unit}
    (reads : Reads (E := effects Id) Db.tenants handler)
    (holds : ∀ tx,
      wp (engine Id .bypassRls) ids (records Id) handler (fun _ _ => True) (fun _ _ => True) tx)
    (abreast : Abreast tenantId strange db db') :
    Abreast tenantId strange (serve (engine Id .bypassRls) ids handler db).db
      (serve (engine Id .bypassRls) ids handler db').db := by
  have shared : (view tenantId db).tenants = (view tenantId db').tenants := by rw [abreast.same]
  have start : SameRecords db db' db db' := by
    refine ⟨db.tenants, rfl, ?_⟩
    have tenants : db.tenants = db'.tenants := shared
    rw [tenants]
  have sameView : ∀ {during during'}, SameRecords db db' during during' →
      ((engine Id .bypassRls).view during).tenants = ((engine Id .bypassRls).view during').tenants := by
    intro during during' same
    obtain ⟨tenants, rfl, rfl⟩ := same
    rfl
  obtain ⟨_, ⟨tenants, first, second⟩, _⟩ :=
    serve_alike sameView (fun same allowed => sameRecords_lockstep same allowed) (fun _ impossible =>
      impossible.elim) reads start
      (holds { db })
  rw [first, second]
  refine ⟨?_, abreast.users, ⟨abreast.consistent.held, abreast.consistent.filled⟩,
    ⟨abreast.consistent'.held, abreast.consistent'.filled⟩⟩
  exact congrArg (fun shown : Db => { shown with tenants }) abreast.same

end Records

section Requests
variable {Id : Type} [Identifier Id] {ids : Nat → Uuid} {tenantId : Uuid}
  {strange : Uuid → Prop} {db db' : Db}

def SuperAdminOperation.handler (env : Environment) (actorId : Id) :
    SuperAdminOperation Id → Handler Id Unit
  | .createTenantWithAdmin dto =>
    do let _ ← AccountServices.createTenantWithAdmin env.hashPassword dto actorId
  | .updateTenant id dto => do let _ ← AccountServices.updateTenant id dto actorId
  | .deactivateTenant id => AccountServices.deactivateTenant id actorId

/-- No event of a super admin has the cache as its subject. -/
theorem silent_operation (env : Environment) (actorId : Id) (operation : SuperAdminOperation Id) :
    Emits (fun event => handle event = []) (operation.handler env actorId) := by
  have saved : ∀ tenant : TenantEntity,
      Emits (fun event => handle event = []) (saveTenant tenant : Handler Id Unit) := by
    intro tenant
    apply emits_visible
    intro db
    split
    · exact emits_persist _
    · exact emits_persist _
  have audited : ∀ event : AuditEvent Id,
    Emits (fun event => handle event = []) (emit (.audit event) : Handler Id Unit) :=
    fun _ => emits_emit rfl
  cases operation with
  | createTenantWithAdmin dto =>
    refine emits_bind ?_ fun _ => trivial
    apply emits_visible
    intro db
    refine emits_bind (emits_refuseIf _ _) ?_
    intro _
    apply emits_newId
    intro tenantId
    refine emits_bind (emits_persist _) ?_
    intro _
    apply emits_newId
    intro userId
    refine emits_bind (emits_persist _) ?_
    intro _
    apply emits_visible
    intro db
    dsimp only
    split
    · exact emits_bind (audited _) fun _ => trivial
    · apply emits_newId
      intro assignmentId
      refine emits_bind (emits_persist _) ?_
      intro _
      exact emits_bind (audited _) fun _ => trivial
  | updateTenant id dto =>
    refine emits_bind ?_ fun _ => trivial
    refine emits_bind (emits_visible fun _ => emits_orThrow _ _) ?_
    intro tenant
    refine emits_bind (emits_refuseIf _ _) ?_
    intro _
    refine emits_bind (saved _) ?_
    intro _
    exact emits_bind (audited _) fun _ => trivial
  | deactivateTenant id =>
    refine emits_bind (emits_visible fun _ => emits_orThrow _ _) ?_
    intro tenant
    exact emits_bind (saved _) fun _ => audited _

theorem reads_updateTenant (env : Environment) (id : Id) (dto : UpdateTenantDto) (actorId : Id) :
    Reads (E := effects Id) Db.tenants
      ((SuperAdminOperation.updateTenant id dto).handler env actorId) := by
  refine reads_bind ?_ fun _ => trivial
  refine reads_bind (reads_findTenant id) ?_
  intro tenant
  refine reads_bind (reads_refuseIf _ _) ?_
  intro _
  exact reads_bind (reads_saveTenant _) fun _ => trivial

theorem reads_deactivateTenant (env : Environment) (id actorId : Id) :
    Reads (E := effects Id) Db.tenants
      ((SuperAdminOperation.deactivateTenant id).handler env actorId) := by
  refine reads_bind (reads_findTenant id) ?_
  intro tenant
  exact reads_bind (reads_saveTenant _) fun _ => trivial

theorem records_updateTenant (env : Environment) (id : Id) (dto : UpdateTenantDto) (actorId : Id)
    (tx : Tx (effects Id) Db) :
    wp (engine Id .bypassRls) ids (records Id)
      ((SuperAdminOperation.updateTenant id dto).handler env actorId) (fun _ _ => True)
      (fun _ _ => True) tx := by
  unfold SuperAdminOperation.handler AccountServices.updateTenant
  rw [wp_bind]
  apply wp_tenantRecord
  intro tenant member
  rw [wp_bind]
  refine wp_refuseIf ?_ fun _ => trivial
  intro _
  rw [wp_bind]
  apply records_saveTenant member
  · rfl
  · intro after
    trivial

theorem records_deactivateTenant (env : Environment) (id actorId : Id) (tx : Tx (effects Id) Db) :
    wp (engine Id .bypassRls) ids (records Id)
      ((SuperAdminOperation.deactivateTenant id).handler env actorId) (fun _ _ => True)
      (fun _ _ => True) tx := by
  apply wp_tenantRecord
  intro tenant member
  rw [wp_bind]
  apply records_saveTenant member
  · rfl
  · intro after
    trivial

/-! A new tenant. -/

/-- The rows of a new tenant: its record, its admin, and the admin's role when there is
one to be had. -/
def Founded (ids : Nat → Uuid) (hashPassword : String → String) (dto : CreateTenantDto)
    (db after : Db) : Prop :=
  ∃ tenants users userRoles,
    db.tenants.insert
      { id := ids 0, name := dto.name, slug := dto.slug, settings := some (dto.settings.getD "{}") } =
      some tenants ∧
    db.users.insert {
      id := ids 1, tenantId := ids 0, email := dto.adminEmail, passwordHash :=
        hashPassword dto.adminPassword,
      firstName := dto.adminFirstName, lastName := dto.adminLastName } = some users ∧
    (match db.roles.findOne fun role => role.name == tenantAdminRole && role.isSystem with
      | none => userRoles = db.userRoles
      | some adminRole =>
          db.userRoles.insert ⟨ids 2, ids 0, ids 1, adminRole.id, none⟩ = some userRoles) ∧
    after = { db with tenants, users, userRoles }

def takenName (db : Db) (dto : CreateTenantDto) : Bool :=
  db.tenants.any fun tenant => tenant.name == dto.name || tenant.slug == dto.slug

def drawing (Id : Type) (ids : Nat → Uuid) : Monitor (effects Id) Db :=
  ⟨fun _ write => Generated ids write, fun _ _ => False⟩

theorem insertTenant_fresh (db : Db) (row : TenantEntity)
    (fresh : ∀ other ∈ db.tenants, other.id ≠ row.id)
    (free : (db.tenants.any fun other => other.name == row.name || other.slug == row.slug) = false) :
    ∃ tenants, db.tenants.insert row = some tenants ∧
      db.insertTenant row = some { db with tenants } := by
  obtain ⟨tenants, inserted⟩ := Option.isSome_iff_exists.mp (insert_isSome.mpr fresh)
  refine ⟨tenants, inserted, ?_⟩
  simp [Db.insertTenant, free, inserted]

theorem insertUser_fresh (db : Db) (row : UserEntity)
    (fresh : ∀ other ∈ db.users, other.id ≠ row.id ∧ other.tenantId ≠ row.tenantId)
    (home : db.hasTenant row.tenantId = true) (alone : row.managerId = none) :
    ∃ users, db.users.insert row = some users ∧ db.insertUser row = some { db with users } := by
  obtain ⟨users, inserted⟩ :=
    Option.isSome_iff_exists.mp (insert_isSome.mpr fun other member => (fresh other member).1)
  refine ⟨users, inserted, ?_⟩
  have free : (db.users.any fun other => other.tenantId == row.tenantId && other.email == row.email) =
      false := by
    rw [← Bool.not_eq_true, any_iff]
    intro found
    obtain ⟨other, member, matched⟩ := found
    simp only [Bool.and_eq_true, beq_iff_eq] at matched
    exact (fresh other member).2 matched.1
  simp [Db.insertUser, home, alone, free, inserted]

theorem insertUserRole_fresh (db : Db) (row : UserRoleEntity)
    (fresh : ∀ other ∈ db.userRoles, other.id ≠ row.id) (home : db.hasTenant row.tenantId = true)
    (user : db.hasUser row.userId = true) (role : db.hasRole row.roleId = true) :
    ∃ userRoles, db.userRoles.insert row = some userRoles ∧
      db.insertUserRole .bypassRls row = some { db with userRoles } := by
  obtain ⟨userRoles, inserted⟩ := Option.isSome_iff_exists.mp (insert_isSome.mpr fresh)
  refine ⟨userRoles, inserted, ?_⟩
  simp [Db.insertUserRole, home, user, role, inserted, Session.admits]

/-- With keys that no row has, nothing but the name and the slug can be in the way. -/
theorem wp_createTenantWithAdmin (hashPassword : String → String) (dto : CreateTenantDto) (actorId : Id)
    (unused : Unused (Drawn ids) db) :
    wp (engine Id .bypassRls) ids (drawing Id ids) (createTenantWithAdmin hashPassword dto actorId)
      (fun _ after => takenName db dto = false ∧ Founded ids hashPassword dto db after.db) (fun _ _ =>
        takenName db dto = true)
      { db } := by
  have drawn : ∀ index, Drawn ids (ids index) := fun index => ⟨index, rfl⟩
  unfold createTenantWithAdmin
  simp only [wp_bind, wp_visible]
  refine wp_refuseIf ?_ fun taken => taken
  intro free
  simp only [wp_bind, wp_newId]
  obtain ⟨tenants, named, first⟩ := insertTenant_fresh db
    { id := ids 0, name := dto.name, slug := dto.slug, settings := some (dto.settings.getD "{}") }
    (fun other member same => unused.tenants other member (same ▸ drawn 0)) free
  refine wp_persist_applied (by simp [drawing, Generated, Write.insertedId]) first ?_
  simp only [wp_bind, wp_newId]
  have home : ({ db with tenants } : Db).hasTenant (ids 0) = true :=
    any_iff.mpr ⟨_, (mem_insert named).mpr (.inr rfl), beq_iff_eq.mpr rfl⟩
  obtain ⟨users, hired, second⟩ := insertUser_fresh { db with tenants }
    { id := ids 1, tenantId := ids 0, email := dto.adminEmail, passwordHash :=
      hashPassword dto.adminPassword,
      firstName := dto.adminFirstName, lastName := dto.adminLastName }
    (fun other member => ⟨fun same => (unused.users other member).1 (same ▸ drawn 1),
      fun same => (unused.users other member).2 (same ▸ drawn 0)⟩) home rfl
  refine wp_persist_applied (by simp [drawing, Generated, Write.insertedId]) second ?_
  simp only [wp_bind, wp_visible]
  have seen : (shown .bypassRls { db with tenants, users }).roles.findOne (fun role =>
    role.name == tenantAdminRole && role.isSystem) =
      db.roles.findOne fun role => role.name == tenantAdminRole && role.isSystem :=
        findOne_select fun _ _ _ => rfl
  rw [seen]
  cases found : db.roles.findOne fun role => role.name == tenantAdminRole && role.isSystem with
  | none =>
    rw [wp_bind, wp_emit, wp_pure]
    refine ⟨free, tenants, users, db.userRoles, named, hired, ?_, rfl⟩
    rw [found]
  | some adminRole =>
    have user : ({ db with tenants, users } : Db).hasUser (ids 1) = true :=
      any_iff.mpr ⟨_, (mem_insert hired).mpr (.inr rfl), beq_iff_eq.mpr rfl⟩
    have role : ({ db with tenants, users } : Db).hasRole adminRole.id = true :=
      any_iff.mpr ⟨adminRole, (findOne_some found).1, beq_iff_eq.mpr rfl⟩
    obtain ⟨userRoles, assigned, third⟩ :=
      insertUserRole_fresh { db with tenants, users } ⟨ids 2, ids 0, ids 1, adminRole.id, none⟩
      (fun other member same => unused.userRoles other member (same ▸ drawn 2)) home user role
    simp only [wp_bind, wp_newId]
    refine wp_persist_applied (by simp [drawing, Generated, Write.insertedId]) third ?_
    rw [wp_bind, wp_emit, wp_pure]
    refine ⟨free, tenants, users, userRoles, named, hired, ?_, rfl⟩
    rw [found]
    exact assigned

theorem Founded.hasUser {hashPassword : String → String} {dto : CreateTenantDto} {after : Db}
    (founded : Founded ids hashPassword dto db after) (id : Uuid) :
    after.hasUser id = true ↔ db.hasUser id = true ∨ ids 1 = id := by
  obtain ⟨_, users, _, _, hired, _, rfl⟩ := founded
  rw [hasUser_iff, hasUser_iff]
  constructor
  · intro found
    obtain ⟨user, member, same⟩ := found
    rcases (mem_insert hired).mp member with before | rfl
    · exact .inl ⟨user, before, same⟩
    · exact .inr same
  · intro found
    rcases found with ⟨user, before, same⟩ | same
    · exact ⟨user, (mem_insert hired).mpr (.inl before), same⟩
    · exact ⟨_, (mem_insert hired).mpr (.inr rfl), same⟩

/-- Two databases that show a tenant the same still do when one new tenant is in both. -/
theorem Founded.view {hashPassword : String → String} {dto : CreateTenantDto} {after after' : Db}
    (founded : Founded ids hashPassword dto db after)
    (founded' : Founded ids hashPassword dto db' after')
    (same : TenantView.view tenantId db = TenantView.view tenantId db') :
    TenantView.view tenantId after = TenantView.view tenantId after' := by
  obtain ⟨tenants, users, userRoles, named, hired, assigned, rfl⟩ := founded
  obtain ⟨tenants', users', userRoles', named', hired', assigned', rfl⟩ := founded'
  have records : db.tenants = db'.tenants := by
    have shared : (TenantView.view tenantId db).tenants = (TenantView.view tenantId db').tenants := by
      rw [same]
    exact shared
  have sameTenants : tenants = tenants' := by
    rw [records] at named
    exact Option.some.inj (named.symm.trans named')
  have sameUsers := insert_congr (congrArg Db.users same) hired hired'
  have adminRole : ∀ base : Db,
    (base.roles.findOne fun role => role.name == tenantAdminRole && role.isSystem) =
      (TenantView.view tenantId base).roles.findOne fun role =>
          role.name == tenantAdminRole && role.isSystem := by
    intro base
    symm
    apply findOne_select
    intro role _ matched
    simp only [Bool.and_eq_true] at matched
    exact admitsRole_iff.mpr (.inl matched.2)
  have sameUserRoles : userRoles.select (fun row =>
    Session.admits (.tenantUser tenantId) row.tenantId) =
      userRoles'.select fun row => Session.admits (.tenantUser tenantId) row.tenantId := by
    rw [adminRole, same, ← adminRole] at assigned
    cases found : db'.roles.findOne fun role => role.name == tenantAdminRole && role.isSystem with
    | none =>
      rw [found] at assigned assigned'
      rw [assigned, assigned']
      exact congrArg Db.userRoles same
    | some role =>
      rw [found] at assigned assigned'
      exact insert_congr (congrArg Db.userRoles same) assigned assigned'
  have replaced : { TenantView.view tenantId db with
        tenants
        users := users.select fun row => Session.admits (.tenantUser tenantId) row.tenantId
        userRoles := userRoles.select fun row => Session.admits (.tenantUser tenantId) row.tenantId } =
      { TenantView.view tenantId db' with
        tenants := tenants'
        users := users'.select fun row => Session.admits (.tenantUser tenantId) row.tenantId
        userRoles := userRoles'.select fun row =>
            Session.admits (.tenantUser tenantId) row.tenantId } := by
    rw [same, sameTenants, sameUsers, sameUserRoles]
  exact replaced

theorem keeps_founding (env : Environment) (dto : CreateTenantDto) (actorId : Id)
    {tx : Tx (effects Id) Db} :
    KeepsAll .bypassRls ids
      ((SuperAdminOperation.createTenantWithAdmin dto).handler env actorId) tx := by
  unfold SuperAdminOperation.handler
  rw [KeepsAll, wp_bind]
  exact keeps_createTenantWithAdmin env.hashPassword dto actorId

theorem serve_createTenantWithAdmin (env : Environment) (dto : CreateTenantDto) (actorId : Id)
    (unused : Unused (Drawn ids) db) :
    let served :=
      serve (engine Id .bypassRls) ids
      ((SuperAdminOperation.createTenantWithAdmin dto).handler env actorId) db
    (takenName db dto = true ∧ served.db = db) ∨
        (takenName db dto = false ∧ Founded ids env.hashPassword dto db served.db) := by
  intro served
  have holds : wp (engine Id .bypassRls) ids (drawing Id ids)
    ((SuperAdminOperation.createTenantWithAdmin dto).handler env actorId)
      (fun _ after => takenName db dto = false ∧ Founded ids env.hashPassword dto db after.db)
        (fun _ _ => takenName db dto = true)
      { db } := by
    unfold SuperAdminOperation.handler
    rw [wp_bind]
    exact wp_createTenantWithAdmin env.hashPassword dto actorId unused
  have ended := serve_post holds
  cases result : served.result with
  | ok _ =>
    rw [result] at ended
    refine .inr ⟨ended.1.1, ?_⟩
    rw [ended.2]
    exact ended.1.2
  | error error =>
    rw [result] at ended
    exact .inl ⟨ended.1, serve_undone holds (fun impossible => impossible) result⟩

theorem draws_superAdmin (env : Environment) (actorId : Id) (operation : SuperAdminOperation Id)
    (unused : Unused (Drawn ids) db) :
    Draws ids db (serve (engine Id .bypassRls) ids (operation.handler env actorId) db).db := by
  have recorded : ∀ {there : Db} {write : Write}, (records Id).write there write →
      Generated ids write := by
    intro there write allowed
    obtain ⟨_, _, rfl⟩ := allowed
    intro id inserted
    cases inserted
  cases operation with
  | createTenantWithAdmin dto =>
    have holds : wp (engine Id .bypassRls) ids (drawing Id ids)
      ((SuperAdminOperation.createTenantWithAdmin dto).handler env actorId)
        (fun _ after => takenName db dto = false ∧ Founded ids env.hashPassword dto db after.db)
          (fun _ _ => takenName db dto = true)
        { db } := by
      unfold SuperAdminOperation.handler
      rw [wp_bind]
      exact wp_createTenantWithAdmin env.hashPassword dto actorId unused
    exact draws_serve holds (fun allowed => allowed) fun impossible => impossible.elim
  | updateTenant id dto =>
    exact draws_serve (records_updateTenant env id dto actorId _) recorded fun impossible =>
      impossible.elim
  | deactivateTenant id =>
    exact draws_serve (records_deactivateTenant env id actorId _) recorded fun impossible =>
      impossible.elim

/-- Requests of super admins, served on both databases. -/
theorem abreast_superAdmin (env : Environment) (actorId : Id) (operation : SuperAdminOperation Id)
    (abreast : Abreast tenantId strange db db') (unused : Unused (Drawn ids) db)
    (unused' : Unused (Drawn ids) db') :
    Abreast tenantId strange (serve (engine Id .bypassRls) ids (operation.handler env actorId) db).db
      (serve (engine Id .bypassRls) ids (operation.handler env actorId) db').db := by
  cases operation with
  | createTenantWithAdmin dto =>
    have names : takenName db dto = takenName db' dto := by
      have shared : takenName (view tenantId db) dto = takenName (view tenantId db') dto := by
        rw [abreast.same]
      exact shared
    rcases serve_createTenantWithAdmin env dto actorId unused with ⟨taken, kept⟩ | ⟨free, founded⟩
    · rcases serve_createTenantWithAdmin env dto actorId unused' with ⟨_, kept'⟩ | ⟨free', _⟩
      · rw [kept, kept']
        exact abreast
      · rw [names, free'] at taken
        cases taken
    · rcases serve_createTenantWithAdmin env dto actorId unused' with ⟨taken', _⟩ | ⟨_, founded'⟩
      · rw [names, taken'] at free
        cases free
      · refine ⟨founded.view founded' abreast.same, ?_, ?_, ?_⟩
        · intro id settled
          have before : db.hasUser id = db'.hasUser id := by
            apply abreast.users
            intro stranger
            exact settled ⟨stranger.1, (founded.hasUser id).mpr (.inl stranger.2)⟩
          rw [Bool.eq_iff_iff, founded.hasUser, founded'.hasUser, before]
        · exact consistent_serve (keeps_founding env dto actorId) abreast.consistent
        · exact consistent_serve (keeps_founding env dto actorId) abreast.consistent'
  | updateTenant id dto =>
    exact abreast_tenantRecord (reads_updateTenant env id dto actorId)
      (records_updateTenant env id dto actorId) abreast
  | deactivateTenant id =>
    exact abreast_tenantRecord (reads_deactivateTenant env id actorId)
      (records_deactivateTenant env id actorId) abreast

end Requests

/-! The hourly purge. -/

section Purge
variable {tenantId : Uuid} {strange drawn : Uuid → Prop} {db db' : Db} {now : Time}

theorem apply_purge (db : Db) (now : Time) :
    (Write.deleteExpiredUserRoles now).apply .bypassRls db =
      some (db.deleteExpiredUserRoles .bypassRls now) := rfl

theorem consistent_purge (consistent : Consistent db) :
    Consistent (db.deleteExpiredUserRoles .bypassRls now) := by
  have keeps : Keeps db (.deleteExpiredUserRoles now) := trivial
  exact consistent_apply consistent keeps (apply_purge db now)

theorem unused_purge (unused : Unused drawn db) :
    Unused drawn (db.deleteExpiredUserRoles .bypassRls now) := by
  apply unused_apply unused (apply_purge db now)
  intro id inserted
  cases inserted

theorem abreast_purge (abreast : Abreast tenantId strange db db') :
    Abreast tenantId strange (db.deleteExpiredUserRoles .bypassRls now)
      (db'.deleteExpiredUserRoles .bypassRls now) where
  same := by
    have shows : ∀ base : Db, view tenantId (base.deleteExpiredUserRoles .bypassRls now) =
        (view tenantId base).deleteExpiredUserRoles .bypassRls now := by
      intro base
      exact Db.ext rfl rfl rfl rfl rfl rfl (select_comm _ _ _) rfl rfl rfl rfl
    rw [shows, shows, abreast.same]
  users := abreast.users
  consistent := consistent_purge abreast.consistent
  consistent' := consistent_purge abreast.consistent'

end Purge
end GenericIam.SuperAdminRequests
