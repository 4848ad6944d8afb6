import GenericIam.ConcurrentCalls
import GenericIam.ReachableStates
import GenericIam.Reactivation

/-! A custom role that is deleted while others assign it: when no assignment goes with it. -/

namespace GenericIam.AssignedRoles
open Table Database Identifiers Transaction Handlers RbacServices AccountServices
open TenantWrites Footprint Operations ReadCommitted ConcurrentCalls

variable {Id α β : Type}

def Linked (db : Db) : Prop := ∀ ur ∈ db.userRoles, UsableRole db ur.tenantId ur.roleId

def Cited (db : Db) (roleId tenantId : Uuid) : Prop :=
  ∀ role ∈ db.roles, role.id = roleId → role.isSystem = true ∨ role.tenantId = some tenantId

def Allowed (vouched : Uuid → Uuid → Prop) : Write → Prop
  | .insertUserRole row => vouched row.roleId row.tenantId
  | .insertUser _ | .updateUserRole _ | .deleteUserRole _ => True
  | _ => False

def Vouched (vouched : Uuid → Uuid → Prop) : Handler Id α → Prop
  | .pure _ | .throw _ => True
  | .read next =>
    ∀ view, Vouched (fun roleId tenantId => vouched roleId tenantId ∨
    UsableRole view tenantId roleId) (next view)
  | .write stmt next => Allowed vouched stmt ∧ ∀ answer, Vouched vouched (next answer)
  | .detached _ _ => False
  | .emit _ next => Vouched vouched next
  | .generate next => ∀ key, Vouched vouched (next key)

section Programs
variable {vouched more : Uuid → Uuid → Prop}

theorem allowed_mono {stmt : Write}
    (implies : ∀ {roleId tenantId}, vouched roleId tenantId → more roleId tenantId)
    (allowed : Allowed vouched stmt) : Allowed more stmt := by
  cases stmt with
  | insertUserRole row => exact implies allowed
  | insertUser row | updateUserRole row | deleteUserRole row => trivial
  | _ => exact allowed.elim

theorem vouched_mono {program : Handler Id α}
    (implies : ∀ {roleId tenantId}, vouched roleId tenantId → more roleId tenantId)
    (before : Vouched vouched program) : Vouched more program := by
  induction program generalizing vouched more with
  | pure value => trivial
  | throw error => trivial
  | read next ih => exact fun view => ih view (Or.imp_left implies) (before view)
  | write stmt next ih =>
    exact ⟨allowed_mono implies before.1, fun answer => ih answer implies (before.2 answer)⟩
  | detached _ _ => exact before.elim
  | emit event next ih => exact ih implies before
  | generate next ih => exact fun key => ih key implies (before key)

theorem vouched_bind {program : Handler Id α} {next : α → Handler Id β}
    (first : Vouched vouched program)
    (second : ∀ value {more}, (∀ {roleId tenantId}, vouched roleId tenantId → more roleId tenantId) →
      Vouched more (next value)) :
    Vouched vouched (program.bind next) := by
  induction program generalizing vouched with
  | pure value => exact second value id
  | throw error => trivial
  | read rest ih =>
    exact fun view => ih view (first view) fun value _ implies => second value fun known =>
      implies (.inl known)
  | write stmt rest ih => exact ⟨first.1, fun answer => ih answer (first.2 answer) second⟩
  | detached _ _ => exact first.elim
  | emit event rest ih => exact ih first second
  | generate rest ih => exact fun key => ih key (first key) second

theorem vouched_forEach {ι : Type} {items : List ι} {body : ι → Handler Id Unit}
    (each : ∀ item {more}, Vouched more (body item)) : Vouched vouched (forEach items body) := by
  induction items generalizing vouched with
  | nil => trivial
  | cons item rest ih => exact vouched_bind (each item) fun _ _ _ => ih

theorem vouched_persist {write : Write} (allowed : Allowed vouched write) :
    Vouched vouched (persist write : Handler Id Unit) := by
  refine ⟨allowed, fun answer => ?_⟩
  cases answer <;> trivial

theorem vouched_orThrow (found : Option α) (error : HttpException) :
    Vouched vouched (orThrow found error : Handler Id α) := by
  cases found <;> trivial

theorem vouched_refuseIf (condition : Bool) (error : HttpException) :
    Vouched vouched (refuseIf condition error : Handler Id Unit) := by
  cases condition <;> trivial

/-- A query, and what its answer allows. -/
theorem vouched_query {found : Db → α} {next : α → Handler Id β}
    (each : ∀ {view answer}, found view = answer →
      Vouched (fun roleId tenantId => vouched roleId tenantId ∨
        UsableRole view tenantId roleId) (next answer)) :
    Vouched vouched ((visible >>= fun db => pure (found db)) >>= next) := fun _ => each rfl

theorem vouched_renewAssignment {assignment : UserRoleEntity}
    (known : vouched assignment.roleId assignment.tenantId) :
    Vouched vouched (renewAssignment assignment : Handler Id UserRoleEntity) := by
  refine vouched_bind (fun _ => trivial) fun db more implies => ?_
  split
  · exact vouched_bind (vouched_persist trivial) fun _ _ _ => trivial
  · exact vouched_bind (vouched_persist (implies known)) fun _ _ _ => trivial

variable [Identifier Id]

theorem vouched_requireUser (userId tenantId : Id) :
    Vouched vouched (requireUser userId tenantId) := fun _ => vouched_orThrow _ _

/-- Whatever follows may assign the role that has been found. -/
theorem vouched_findOneForTenant {id tenantId : Id} {next : RoleEntity → Handler Id α}
    (rest : ∀ role {more}, more (value id) (value tenantId) → Vouched more (next role)) :
    Vouched vouched (findOneForTenant id tenantId >>= next) := by
  intro view
  dsimp only [Transaction.Program.bind]
  generalize looked : view.roles.findOne _ = found
  cases found with
  | none => trivial
  | some role =>
    obtain ⟨member, matched⟩ := findOne_some looked
    simp only [Bool.and_eq_true, Bool.or_eq_true, beq_iff_eq] at matched
    exact rest role (.inr ⟨role, member, matched.1, matched.2.symm⟩)

theorem vouched_saveAssignment {userId tenantId : Id} {dto : AssignRoleDto Id}
    (known : vouched (value dto.roleId) (value tenantId)) :
    Vouched vouched (saveAssignment userId tenantId dto) := by
  unfold saveAssignment findAssignment
  apply vouched_query
  intro view answer looked
  cases answer with
  | some existing =>
    have matched := (findOne_some looked).2
    simp only [Bool.and_eq_true, beq_iff_eq] at matched
    refine vouched_renewAssignment (.inl ?_)
    rw [← matched.1.2, ← matched.2] at known
    exact known
  | none =>
    refine vouched_bind (fun _ => trivial) fun id more implies => ?_
    exact vouched_bind (vouched_persist (implies (.inl known))) fun _ _ _ => trivial

theorem vouched_assignToUser (userId tenantId : Id) (dto : AssignRoleDto Id) (actorId : Id) :
    Vouched vouched (RbacServices.assignToUser userId tenantId dto actorId) := by
  refine vouched_bind (vouched_requireUser userId tenantId) fun user more _ => ?_
  apply vouched_findOneForTenant
  intro role more known
  exact vouched_bind (vouched_saveAssignment known) fun _ _ _ => trivial

theorem vouched_updateUserRoles (userId tenantId : Id) (dto : UpdateUserRolesDto Id) (actorId : Id) :
    Vouched vouched (RbacServices.updateUserRoles userId tenantId dto actorId) := by
  refine vouched_bind (vouched_requireUser userId tenantId) fun user more _ => ?_
  refine vouched_bind (vouched_forEach fun item more => ?_) fun _ more _ => ?_
  · apply vouched_findOneForTenant
    intro role more known
    exact vouched_bind (vouched_saveAssignment known) fun _ _ _ => trivial
  · refine vouched_bind (vouched_forEach fun roleId more => ?_) fun _ _ _ => trivial
    unfold removeRole findAssignment
    apply vouched_query
    intro view answer _
    cases answer with
    | none => trivial
    | some assignment => exact vouched_bind (vouched_persist trivial) fun _ _ _ => trivial

theorem vouched_createUser (hashPassword : String → String) (tenantId : Id) (dto : CreateUserDto Id)
    (actorId : Id) :
    Vouched vouched (AccountServices.createUser hashPassword tenantId dto actorId) := by
  refine vouched_bind (fun _ => trivial) fun db more _ => ?_
  refine vouched_bind (vouched_refuseIf _ _) fun _ more _ => ?_
  refine vouched_bind (fun _ => trivial) fun id more _ => ?_
  refine vouched_bind (vouched_persist trivial) fun _ more _ => ?_
  refine vouched_bind (fun _ => trivial) fun defaultRole more _ => ?_
  split
  · trivial
  · exact vouched_bind (vouched_assignToUser _ _ _ _) fun _ _ _ => trivial

end Programs

def AssignsOrDeletes : Operation Id → Prop
  | .deleteCustomRole _ | .assignToUser _ _ | .updateUserRoles _ _ | .createUser _ => True
  | _ => False

theorem vouched_operation [Identifier Id] [DecidableEq Id] {env : Environment}
    {tenantId actorId : Id} {operation : Operation Id} {vouched : Uuid → Uuid → Prop}
    (either : AssignsOrDeletes operation) (assigns : ∀ id, operation ≠ .deleteCustomRole id) :
    Vouched vouched (operation.handler env tenantId actorId) := by
  cases operation with
  | deleteCustomRole id => exact absurd rfl (assigns id)
  | assignToUser userId dto =>
    exact vouched_bind (vouched_assignToUser userId tenantId dto actorId) fun _ _ _ => trivial
  | updateUserRoles userId dto => exact vouched_updateUserRoles userId tenantId dto actorId
  | createUser dto =>
    exact vouched_bind (vouched_createUser env.hashPassword tenantId dto actorId) fun _ _ _ => trivial
  | _ => exact either.elim

/-! The deletion, cut at its reads. -/

section Deletion
variable [Identifier Id]

def deletion (id tenantId actorId : Id) (role : RoleEntity) : Handler Id Unit := do
  persist (.deleteRole role)
  emit (roleAudit .ROLE_DELETED tenantId actorId id)

def assignedUsers (db : Db) (role : RoleEntity) : Nat :=
  db.userRoles.count fun ur => ur.roleId == role.id

def counting (id tenantId actorId : Id) (role : RoleEntity) : Handler Id Unit := do
  let db ← visible
  refuseIf (decide (assignedUsers db role > 0))
    (.conflict "Cannot delete role as it is assigned to users")
  deletion id tenantId actorId role

theorem deleteCustomRole_eq (id tenantId actorId : Id) :
    deleteCustomRole id tenantId actorId = .read fun db =>
    match db.roles.findOne fun role =>
      role.id == value id && (role.tenantId == some (value tenantId) || role.isSystem) with
    | none => .throw (.notFound "Role not found")
    | some role =>
        if role.isSystem = true then .throw (.badRequest "Cannot delete system roles")
          else counting id tenantId actorId role := by
  refine congrArg Program.read (funext fun db => ?_)
  dsimp only [Transaction.Program.bind]
  generalize db.roles.findOne _ = found
  cases found with
  | none => rfl
  | some role => exact bind_refuseIf role.isSystem _ _

omit [Identifier Id] in
theorem counting_eq (id tenantId actorId : Id) (role : RoleEntity) :
    counting id tenantId actorId role = .read fun db =>
    if decide (assignedUsers db role > 0) = true then
      .throw (.conflict "Cannot delete role as it is assigned to users")
    else deletion id tenantId actorId role :=
  congrArg Program.read (funext fun db => bind_refuseIf (decide (assignedUsers db role > 0)) _ _)

end Deletion

/-! What a running request may rely on. -/

abbrev Request (Id : Type) := ReadCommitted.Request (effects Id) Db (Call Id)

/-- Nobody has the role. -/
def Unused (db : Db) (roleId : Uuid) : Prop := ∀ ur ∈ db.userRoles, ur.roleId ≠ roleId

structure Found (db : Db) (session : Session) (tenantId : Uuid) (role : RoleEntity) : Prop where
  custom : role.isSystem = false
  own : role.tenantId = some tenantId
  shown : session.admits tenantId = true
  only : ∀ other ∈ db.roles, other.id = role.id → other = role

section
variable [Identifier Id]

inductive Deleting (db : Db) (request : Request Id) (id : Id) : Prop where
  | begins (nothing : request.log = [])
      (program : request.program = deleteCustomRole id request.kind.tenantId request.kind.actorId)
  | found (role : RoleEntity) (nothing : request.log = [])
      (program : request.program = counting id request.kind.tenantId request.kind.actorId role)
      (same : role.id = value id)
        (found : Found db request.kind.session (value request.kind.tenantId) role)
  | counted (role : RoleEntity) (nothing : request.log = [])
      (program : request.program = deletion id request.kind.tenantId request.kind.actorId role)
      (same : role.id = value id) (unused : Unused db role.id)
  | deleted (role : RoleEntity) (sent : request.log = [.deleteRole role])
      (program : request.program = .pure () ∨ ∃ event, request.program = .emit event (.pure ()))
      (same : role.id = value id) (unused : Unused db role.id)
  | failed (error : HttpException) (program : request.program = .throw error)

structure Sound (db : Db) (request : Request Id) : Prop where
  engine : request.engine = engine Id request.kind.session
  deleting : ∀ {id}, request.kind.operation = .deleteCustomRole id → Deleting db request id
  assigning : (∀ id, request.kind.operation ≠ .deleteCustomRole id) →
    Vouched (Cited db) request.program ∧ ∀ stmt ∈ request.log, Allowed (Cited db) stmt

def Stands (db : Db) (request : Request Id) : Prop := request.phase = .running → Sound db request

def Counted (request : Request Id) (roleId : Uuid) : Prop :=
  ∃ stmt, (stmt ∈ request.log ∨ Upcoming stmt request.program) ∧ removedRole stmt = some roleId

/-- No request commits an assignment of a role that another one has found unused and is
about to delete. -/
def clear : Condition (effects Id) Db (Call Id) := fun _ request request' others =>
  request'.phase = .committed → ∀ other ∈ others, other.phase = .running →
    ∀ row, Write.insertUserRole row ∈ request.log → ¬Counted other row.roleId

omit [Identifier Id] in
theorem onCommits_clear :
    OnCommits (clear : Condition (effects Id) Db (Call Id)) :=
  fun _ _ _ _ open_ done => absurd done open_

end

/-! What a statement of these requests does to roles and assignments. -/

section Statements
variable {session : Session} {db db' : Db} {stmt : Write} {vouched : Uuid → Uuid → Prop}

theorem roles_allowed (allowed : Allowed vouched stmt)
    (applied : stmt.apply session db = some db') : db'.roles = db.roles := by
  have frame := sameBut_apply applied
  cases stmt with
  | insertUserRole row | insertUser row | updateUserRole row
  | deleteUserRole row => exact frame.roles (by simp [Write.changes])
  | _ => exact allowed.elim

theorem linked_allowed {start : Db} (linked : Linked db) (same : db.roles = start.roles)
    (allowed : Allowed (Cited start) stmt) (applied : stmt.apply session db = some db') :
    Linked db' := by
  intro ur present
  unfold UsableRole
  rw [roles_allowed allowed applied]
  rcases mem_userRoles_apply applied present with ⟨old, before, kept⟩ | inserted
  · rw [kept]
    exact linked old before
  · subst inserted
    simp only [Write.apply, Db.insertUserRole] at applied
    split at applied
    · next accepted =>
      simp only [Bool.and_eq_true, Db.hasRole, any_iff, beq_iff_eq] at accepted
      obtain ⟨⟨_, role, member, named⟩, _⟩ := accepted
      exact ⟨role, member, named, allowed role (same ▸ member) named⟩
    · cases applied

theorem linked_deleteRole (linked : Linked db) (id : Uuid) : Linked (db.deleteRole session id) := by
  rcases deleteRole_eq session db id with same | changed
  · rw [same]
    exact linked
  · rw [changed]
    intro ur present
    obtain ⟨before, other⟩ := mem_select.mp present
    obtain ⟨role, member, named, usable⟩ := linked ur before
    refine ⟨role, mem_select.mpr ⟨member, ?_⟩, named, usable⟩
    rw [named]
    exact other

/-- A role that nobody has is only taken up by an assignment of it. -/
theorem unused_apply {roleId : Uuid} (unused : Unused db roleId)
    (never : ∀ row, stmt = .insertUserRole row → row.roleId ≠ roleId)
    (applied : stmt.apply session db = some db') : Unused db' roleId := by
  intro ur present
  rcases mem_userRoles_apply applied present with ⟨old, before, kept⟩ | inserted
  · rw [kept]
    exact unused old before
  · exact never ur inserted

end Statements

section Steps
variable [Identifier Id] {waits : Write → Write → Prop} {others : List (Request Id)} {db db' own : Db}
  {request request' : Request Id}
  {id : Id}

/-- The role that the deletion has found. -/
theorem found_of_read {session : Session} {tenantId : Id} {role : RoleEntity}
    (looked : (shown session db).roles.findOne (fun role =>
      role.id == value id && (role.tenantId == some (value tenantId) || role.isSystem)) = some role)
    (custom : role.isSystem = false) : role.id = value id ∧ Found db session (value tenantId) role := by
  obtain ⟨visible, matched⟩ := findOne_some looked
  simp only [custom, Bool.or_false, Bool.and_eq_true, beq_iff_eq] at matched
  obtain ⟨member, admitted⟩ := mem_select.mp visible
  refine ⟨matched.1, custom, matched.2, ?_, fun other present same => eq_of_key_eq present member same⟩
  cases session with
  | bypassRls => rfl
  | tenantUser current =>
    simp only [Session.admitsRole, custom, Bool.false_or, matched.2, beq_iff_eq,
      Option.some.injEq] at admitted
    simp [Session.admits, admitted]

/-- What the session counts is all there is. -/
theorem unused_of_count {session : Session} {tenantId : Uuid} {role : RoleEntity}
    (linked : Linked db) (found : Found db session tenantId role)
    (zero : assignedUsers (shown session db) role = 0) : Unused db role.id := by
  intro ur present named
  obtain ⟨other, member, same, usable⟩ := linked ur present
  have whole : other = role := found.only other member (same.trans named)
  subst whole
  have tenant : ur.tenantId = tenantId := by
    rcases usable with system | own
    · rw [found.custom] at system
      cases system
    · rw [found.own] at own
      cases own
      rfl
  have visible : ur ∈ (shown session db).userRoles := by
    refine mem_select.mpr ⟨present, ?_⟩
    rw [tenant]
    exact found.shown
  have missed := count_eq_zero.mp zero ur visible
  simp [named] at missed

/-- The next step of a deletion that has not ended. -/
theorem deleting_moves (linked : Linked db)
    (engine : request.engine = engine Id request.kind.session) (stage : Deleting db request id)
    (moved : Moves waits others db request db' request') (running : request'.phase = .running) :
    db' = db ∧ request'.kind = request.kind ∧ request'.engine = request.engine ∧
      Deleting db request' id := by
  cases stage with
  | begins nothing program =>
    obtain ⟨rfl, ended | ⟨own, seen, rfl⟩⟩ := moved.of_read (program.trans (deleteCustomRole_eq _ _ _))
    · rw [ended] at running
      cases running
    · have here := ReadCommitted.Request.sees_nothing nothing seen
      subst here
      have viewed : request.engine.view own = shown request.kind.session own := by
        rw [engine]
        rfl
      refine ⟨rfl, rfl, rfl, ?_⟩
      rw [viewed]
      split
      · exact .failed _ rfl
      · next role looked =>
        by_cases system : role.isSystem = true
        · exact .failed _ (if_pos system)
        · obtain ⟨same, found⟩ := found_of_read looked (by simpa using system)
          exact .found role nothing (if_neg system) same found
  | found role nothing program same found =>
    obtain ⟨rfl, ended | ⟨own, seen, rfl⟩⟩ := moved.of_read (program.trans (counting_eq _ _ _ role))
    · rw [ended] at running
      cases running
    · have here := ReadCommitted.Request.sees_nothing nothing seen
      subst here
      have viewed : request.engine.view own = shown request.kind.session own := by
        rw [engine]
        rfl
      refine ⟨rfl, rfl, rfl, ?_⟩
      rw [viewed]
      by_cases assigned : decide (assignedUsers (shown request.kind.session own) role > 0) = true
      · exact .failed _ (if_pos assigned)
      · have zero : assignedUsers (shown request.kind.session own) role = 0 := by
          simp only [decide_eq_true_eq] at assigned
          omega
        exact .counted role nothing (if_neg assigned) same (unused_of_count linked found zero)
  | counted role nothing program same unused =>
    obtain ⟨rfl, ended | ⟨own, own', seen, accepted, rfl⟩ | ⟨why, rfl⟩⟩ := moved.of_write program
    · rw [ended] at running
      cases running
    · refine ⟨rfl, rfl, rfl, .deleted role ?_ (.inr ⟨_, rfl⟩) same unused⟩
      simp [nothing]
    · exact ⟨rfl, rfl, rfl, .failed .queryFailed rfl⟩
  | deleted role sent program same unused =>
    rcases program with returned | ⟨event, emits⟩
    · rcases moved.of_pure returned with ⟨_, ended⟩ | ⟨_, ended⟩
      · rw [ended] at running
        cases running
      · rw [ended] at running
        cases running
    · obtain ⟨rfl, ended | rfl⟩ := moved.of_emit emits
      · rw [ended] at running
        cases running
      · exact ⟨rfl, rfl, rfl, .deleted role sent (.inl rfl) same unused⟩
  | failed error program =>
    obtain ⟨_, ended⟩ := moved.of_throw program
    rw [ended] at running
    cases running

/-- A deletion that commits has deleted a role that nobody had. -/
theorem deleting_done (stage : Deleting db request id) (done : request.program = .pure ()) :
    ∃ role, request.log = [.deleteRole role] ∧ role.id = value id ∧ Unused db role.id := by
  cases stage with
  | deleted role sent _ same unused => exact ⟨role, sent, same, unused⟩
  | begins _ program =>
    rw [done, deleteCustomRole_eq] at program
    cases program
  | found role _ program | counted role _ program | failed _ program =>
    rw [done] at program
    cases program

theorem deleting_attached (stage : Deleting db request id) (stmt : Write)
    (next : Option Violation → Handler Id Unit) :
    request.program ≠ .detached stmt next := by
  intro detached
  cases stage with
  | begins _ program =>
    rw [detached, deleteCustomRole_eq] at program
    cases program
  | found role _ program | counted role _ program | failed _ program =>
    rw [detached] at program
    cases program
  | deleted role _ program =>
    rcases program with returned | ⟨event, emits⟩
    · rw [detached] at returned
      cases returned
    · rw [detached] at emits
      cases emits

theorem Sound.attached (sound : Sound db request) (stmt : Write)
    (next : Option Violation → Handler Id Unit) :
    request.program ≠ .detached stmt next := by
  by_cases deletes : ∃ id, request.kind.operation = .deleteCustomRole id
  · obtain ⟨id, operation⟩ := deletes
    exact deleting_attached (sound.deleting operation) stmt next
  · intro detached
    have vouched := (sound.assigning fun id operation => deletes ⟨id, operation⟩).1
    rw [detached] at vouched
    exact vouched.elim

omit [Identifier Id] in
/-- What an assigning request has sent so far has left the roles alone. -/
theorem seen_allowed (linked : Linked db) (engine : request.engine = engine Id request.kind.session)
    (log : ∀ stmt ∈ request.log, Allowed (Cited db) stmt) (seen : request.sees db = some own) :
    own.roles = db.roles ∧ Linked own := by
  unfold ReadCommitted.Request.sees at seen
  rw [engine] at seen
  refine @replay_keeps _ _ _ (fun between => between.roles = db.roles ∧
    Linked between) _ _ _ seen ⟨rfl, linked⟩ ?_
  intro stmt member before after kept accepted
  have applied := send_ok accepted
  exact ⟨(roles_allowed (log stmt member) applied).trans kept.1,
    linked_allowed kept.2 kept.1 (log stmt member) applied⟩

/-- What a commit does to roles and assignments. -/
theorem Sound.commits (sound : Sound db request) (linked : Linked db)
    (done : request.program = .pure ()) (seen : request.sees db = some db') :
    Linked db' ∧ (∀ role ∈ db'.roles, role ∈ db.roles) ∧
      ∀ {roleId}, Unused db roleId →
        (∀ row, Write.insertUserRole row ∈ request.log → row.roleId ≠ roleId) → Unused db' roleId := by
  have keeps : ∀ {roleId}, Unused db roleId →
      (∀ row, Write.insertUserRole row ∈ request.log → row.roleId ≠ roleId) → Unused db' roleId := by
    intro roleId unused never
    unfold ReadCommitted.Request.sees at seen
    rw [sound.engine] at seen
    apply replay_keeps seen unused
    intro stmt member before after kept accepted
    refine unused_apply kept (fun row same => ?_) (send_ok accepted)
    subst same
    exact never row member
  by_cases deletes : ∃ id, request.kind.operation = .deleteCustomRole id
  · obtain ⟨id, operation⟩ := deletes
    obtain ⟨role, log, _, _⟩ := deleting_done (sound.deleting operation) done
    have after : db' = db.deleteRole request.kind.session role.id := by
      unfold ReadCommitted.Request.sees at seen
      rw [sound.engine, log] at seen
      cases seen
      rfl
    subst after
    refine ⟨linked_deleteRole linked role.id, ?_, keeps⟩
    intro other present
    rcases deleteRole_eq request.kind.session db role.id with same | changed
    · rw [same] at present
      exact present
    · rw [changed] at present
      exact (mem_select.mp present).1
  · obtain ⟨_, log⟩ := sound.assigning fun id operation => deletes ⟨id, operation⟩
    obtain ⟨sameRoles, linked'⟩ := seen_allowed linked sound.engine log seen
    refine ⟨linked', fun role present => ?_, keeps⟩
    rw [← sameRoles]
    exact present

omit [Identifier Id] in
theorem assigning_moves (linked : Linked db) (engine : request.engine = engine Id request.kind.session)
    (assigning : Vouched (Cited db) request.program ∧ ∀ stmt ∈ request.log, Allowed (Cited db) stmt)
    (moved : Moves waits others db request db' request') (running : request'.phase = .running) :
    db' = db ∧ request'.kind = request.kind ∧ request'.engine = request.engine ∧
      Vouched (Cited db) request'.program ∧ ∀ stmt ∈ request'.log, Allowed (Cited db) stmt := by
  obtain ⟨vouched, log⟩ := assigning
  cases moved with
  | read started program seen =>
    rw [program] at vouched
    refine ⟨rfl, rfl, rfl, vouched_mono ?_ (vouched _), log⟩
    intro roleId tenantId known
    rcases known with before | usable
    · exact before
    · obtain ⟨role, present, named, admitted⟩ := usable
      rw [engine] at present
      have member : role ∈ db.roles := by
        rw [← (seen_allowed linked engine log seen).1]
        exact (mem_select.mp present).1
      intro other there same
      have whole : other = role := eq_of_key_eq there member (same.trans named.symm)
      subst whole
      exact admitted
  | written started program seen _ accepted =>
    rw [program] at vouched
    refine ⟨rfl, rfl, rfl, vouched.2 none, fun other member => ?_⟩
    rcases List.mem_append.mp member with earlier | last
    · exact log other earlier
    · rw [List.mem_singleton.mp last]
      exact vouched.1
  | refused started program _ _ _ =>
    rw [program] at vouched
    exact ⟨rfl, rfl, rfl, vouched.2 _, log⟩
  | detached started program _ _ =>
    rw [program] at vouched
    exact vouched.elim
  | emit started program =>
    rw [program] at vouched
    exact ⟨rfl, rfl, rfl, vouched, log⟩
  | generate started program =>
    rw [program] at vouched
    exact ⟨rfl, rfl, rfl, vouched _, log⟩
  | commit | abort => cases running

theorem advances : Advances waits clear Linked (@Stands Id _) := by
  intro others db request db' request' linked mine _ moved _
  have sound := mine moved.running
  constructor
  · by_cases done : request'.phase = .committed
    · obtain ⟨_, returned, seen⟩ := moved.committed done
      exact (sound.commits linked returned seen).1
    · rw [moved.stays sound.attached done]
      exact linked
  · intro running
    by_cases deletes : ∃ id, request.kind.operation = .deleteCustomRole id
    · obtain ⟨id, operation⟩ := deletes
      obtain ⟨rfl, kind, engine, stage⟩ :=
        deleting_moves linked sound.engine (sound.deleting operation) moved running
      refine ⟨?_, ?_, ?_⟩
      · rw [engine, kind]
        exact sound.engine
      · intro other named
        rw [kind, operation] at named
        cases named
        exact stage
      · intro assigns
        rw [kind] at assigns
        exact absurd operation (assigns id)
    · have assigning := sound.assigning fun id operation => deletes ⟨id, operation⟩
      obtain ⟨rfl, kind, engine, vouched⟩ := assigning_moves linked sound.engine assigning moved running
      refine ⟨?_, ?_, fun _ => vouched⟩
      · rw [engine, kind]
        exact sound.engine
      · intro id named
        rw [kind] at named
        exact absurd ⟨id, named⟩ deletes

/-- What a request relies on when another one commits. -/
theorem sound_beside {other : Request Id} (sound : Sound db request) (linked : Linked db)
    (beside : Sound db other) (done : request.program = .pure ())
    (seen : request.sees db = some db')
    (uncounted : ∀ row, Write.insertUserRole row ∈ request.log → ¬Counted other row.roleId) :
    Sound db' other := by
  obtain ⟨_, fewer, keeps⟩ := sound.commits linked done seen
  refine ⟨beside.engine, ?_, ?_⟩
  · intro id operation
    cases beside.deleting operation with
    | begins nothing program => exact .begins nothing program
    | found role nothing program same found =>
      exact .found role nothing program same ⟨found.custom, found.own, found.shown, fun other there =>
        found.only other (fewer other there)⟩
    | counted role nothing program same unused =>
      refine .counted role nothing program same (keeps unused fun row member named =>
        uncounted row member ?_)
      rw [named]
      refine ⟨.deleteRole role, .inr ?_, rfl⟩
      rw [program]
      rfl
    | deleted role sent program same unused =>
      refine .deleted role sent program same (keeps unused fun row member named =>
        uncounted row member ?_)
      rw [named]
      exact ⟨.deleteRole role, .inl (by simp [sent]), rfl⟩
    | failed error program => exact .failed error program
  · intro assigns
    obtain ⟨vouched, log⟩ := beside.assigning assigns
    have weaker : ∀ {roleId tenantId}, Cited db roleId tenantId → Cited db' roleId tenantId :=
        fun cited role there =>
      cited role (fewer role there)
    exact ⟨vouched_mono weaker vouched, fun stmt member => allowed_mono weaker (log stmt member)⟩

theorem stable : Stable waits clear Linked (@Stands Id _) := by
  intro others db request db' request' other linked mine theirs member moved cleared running
  have sound := mine moved.running
  by_cases done : request'.phase = .committed
  · obtain ⟨_, returned, seen⟩ := moved.committed done
    exact sound_beside sound linked (theirs running) returned seen (cleared done other member running)
  · rw [moved.stays sound.attached done]
    exact theirs running

end Steps

theorem stands_asked [Identifier Id] [DecidableEq Id] {env : Environment} {db : Db}
    {request : Request Id} (asked : Asked env request)
    (either : AssignsOrDeletes request.kind.operation) : Stands db request := by
  intro _
  have program : request.program =
    request.kind.operation.handler env request.kind.tenantId request.kind.actorId := asked.program
  refine ⟨asked.engine, ?_, ?_⟩
  · intro id operation
    refine .begins asked.fresh.log ?_
    rw [program, operation]
    rfl
  · intro assigns
    constructor
    · rw [program]
      exact vouched_operation either assigns
    · intro stmt member
      rw [asked.fresh.log] at member
      cases member

/-- As long as no request commits an assignment of a role between the count of a deletion
and its commit, a role that is deleted has no assignments and none goes with it. -/
theorem deleted_unassigned [Identifier Id] [DecidableEq Id] (env : Environment)
    (waits : Write → Write → Prop) {first : State (effects Id) Db (Call Id)}
    (consistent : Consistent first.db)
    (asked : ∀ request ∈ first.requests, Asked env request ∧ AssignsOrDeletes request.kind.operation)
    {db db' : Db} {before after : List (Request Id)} {request request' : Request Id} {id : Id}
    (run : Reaches waits clear first ⟨db, before ++ request :: after⟩)
    (moved : Moves waits (before ++ after) db request db' request')
    (deletes : request.kind.operation = .deleteCustomRole id)
    (succeeded : request'.phase = .committed) :
    (∀ ur ∈ db.userRoles, ur.roleId ≠ value id) ∧ db'.userRoles = db.userRoles := by
  have start : Holds Linked Stands first :=
    ⟨consistent.held, fun request member =>
      stands_asked (asked request member).1 (asked request member).2⟩
  have held := run.holds advances stable start
  obtain ⟨running, returned, seen⟩ := moved.committed succeeded
  have sound : Sound db request :=
    held.requests request (List.mem_append_right _ List.mem_cons_self) running
  obtain ⟨role, log, same, unused⟩ := deleting_done (sound.deleting deletes) returned
  rw [← same]
  refine ⟨unused, ?_⟩
  have after : db' = db.deleteRole request.kind.session role.id := by
    unfold ReadCommitted.Request.sees at seen
    rw [sound.engine, log] at seen
    cases seen
    rfl
  subst after
  rcases deleteRole_eq request.kind.session db role.id with kept | changed
  · rw [kept]
  · rw [changed]
    apply Table.ext
    refine List.filter_eq_self.mpr fun ur member => ?_
    simpa using unused ur member

/-! Ada deletes the role of a clerk, and Bob becomes one meanwhile. -/

section Example
open Reactivation ReachableStates
open Coherence (plainEnvironment)

def staffed : Db :=
  (serve (engine Uuid (.tenantUser 21)) (countedFrom 41)
    ((Operation.createCustomRole 0 ⟨"Clerk", none⟩ : Operation Uuid).handler plainEnvironment 21 22)
      office).db

theorem consistent_staffed : Consistent staffed := by
  have reached : Reachable staffed := .requested plainEnvironment _ 21 22 trivial office_reachable
  exact reached.consistent

def closing : Call Uuid := ⟨.tenantUser 21, 21, 22, .deleteCustomRole 41⟩

def hiring : Call Uuid := ⟨.tenantUser 21, 21, 22, .updateUserRoles 31 { add := [⟨41, none⟩] }⟩

def monday : State (effects Uuid) Db (Call Uuid) :=
  ⟨staffed, [ask plainEnvironment (countedFrom 51) closing,
    ask plainEnvironment (countedFrom 61) hiring]⟩

def tuesday : State (effects Uuid) Db (Call Uuid) :=
  schedule waitsFor monday [0, 0, 1, 1, 1, 1, 1, 1, 1, 1, 0, 0]

def wednesday : State (effects Uuid) Db (Call Uuid) := tuesday.turn waitsFor 0

theorem asked_monday :
    ∀ request ∈ monday.requests, Asked plainEnvironment request ∧
      AssignsOrDeletes request.kind.operation := by
  intro request member
  simp only [monday, List.mem_cons, List.not_mem_nil, or_false] at member
  rcases member with rfl | rfl
  · exact ⟨asked_ask _ _ _, trivial⟩
  · exact ⟨asked_ask _ _ _, trivial⟩

/-- The deletion succeeds, and the assignment that has been committed is gone. -/
theorem hired_and_lost :
    (¬∀ {first : State (effects Uuid) Db (Call Uuid)} {db db' : Db} {before after : List (Request Uuid)}
      {request request' : Request Uuid}
        {id : Uuid}, Consistent first.db →
      (∀ request ∈ first.requests, Asked plainEnvironment request ∧
        AssignsOrDeletes request.kind.operation) →
        Reaches (fun stmt held => waitsFor stmt held = true) always first ⟨db,
          before ++ request :: after⟩ →
          Moves (fun stmt held => waitsFor stmt held = true) (before ++ after) db request db' request' →
            request.kind.operation = .deleteCustomRole id → request'.phase = .committed →
              ∀ ur ∈ db.userRoles, ur.roleId ≠ value id) ∧
      (⟨61, 21, 31, 41, none⟩ : UserRoleEntity) ∈ tuesday.db.userRoles.rows ∧
        (⟨61, 21, 31, 41, none⟩ : UserRoleEntity) ∉ wednesday.db.userRoles.rows := by
  have hired : (⟨61, 21, 31, 41, none⟩ : UserRoleEntity) ∈ tuesday.db.userRoles.rows := by decide
  refine ⟨?_, hired, by decide⟩
  intro unassigned
  have reached : Reaches (fun stmt held => waitsFor stmt held = true) always monday
      ⟨tuesday.db, [] ++ tuesday.requests[0] :: [tuesday.requests[1]]⟩ :=
        reaches_schedule waitsFor monday _
  have moved : Moves (fun stmt held => waitsFor stmt held = true)
    ([] ++ [tuesday.requests[1]]) tuesday.db tuesday.requests[0] wednesday.db
      { tuesday.requests[0] with phase := .committed } := .commit rfl rfl rfl
  exact unassigned consistent_staffed asked_monday reached moved rfl rfl _ hired rfl

def promoting : Call Uuid := ⟨.tenantUser 21, 21, 22, .updateUserRoles 31 { add := [⟨11, none⟩] }⟩

def quiet : State (effects Uuid) Db (Call Uuid) :=
  ⟨staffed, [ask plainEnvironment (countedFrom 51) closing,
    ask plainEnvironment (countedFrom 61) promoting]⟩

def promoted : State (effects Uuid) Db (Call Uuid) :=
  schedule waitsFor quiet [0, 0, 1, 1, 1, 1, 1, 1, 1]

def evening : State (effects Uuid) Db (Call Uuid) := schedule waitsFor (promoted.turn waitsFor 1) [0, 0]

theorem asked_quiet :
    ∀ request ∈ quiet.requests, Asked plainEnvironment request ∧
      AssignsOrDeletes request.kind.operation := by
  intro request member
  simp only [quiet, List.mem_cons, List.not_mem_nil, or_false] at member
  rcases member with rfl | rfl
  · exact ⟨asked_ask _ _ _, trivial⟩
  · exact ⟨asked_ask _ _ _, trivial⟩

/-- The promotion commits an assignment of role 11 while the deletion has counted role 41. -/
theorem meets_promotion : promoted.Meets waitsFor clear 1 := by
  have whole : promoted.requests = [promoted.requests[0]] ++ promoted.requests[1] :: [] := rfl
  refine meets_turn waitsFor whole rfl ?_
  intro request' _ other among _ row inserted counted
  rw [List.append_nil, List.mem_singleton] at among
  subst among
  have log : promoted.requests[1].log = [.insertUserRole ⟨61, 21, 31, 11, none⟩] := by decide
  rw [log, List.mem_singleton] at inserted
  cases inserted
  obtain ⟨stmt, sent | upcoming, role⟩ := counted
  · have nothing : promoted.requests[0].log = [] := by decide
    rw [nothing] at sent
    cases sent
  · have deletes : removedRole stmt = some 41 := by
      rw [← (upcoming : Write.deleteRole _ = stmt)]
      rfl
    rw [deletes] at role
    exact absurd role (by decide)

theorem deleted_unassigned_quiet :
    (⟨61, 21, 31, 11, none⟩ : UserRoleEntity) ∈ evening.db.userRoles.rows ∧
    (∀ ur ∈ evening.db.userRoles, ur.roleId ≠ 41) ∧
      (evening.turn waitsFor 0).db.userRoles = evening.db.userRoles := by
  have early : History (fun stmt held => waitsFor stmt held = true) clear quiet
      (promoted.completes waitsFor 1) (promoted.turn waitsFor 1) :=
    history_until waitsFor onCommits_clear meets_promotion rfl rfl
  have late : History (fun stmt held => waitsFor stmt held = true) clear
      (promoted.turn waitsFor 1) [] evening :=
    history_silent waitsFor onCommits_clear (promoted.turn waitsFor 1) _ rfl
  have reached : Reaches (fun stmt held => waitsFor stmt held = true) clear quiet
      ⟨evening.db, [] ++ evening.requests[0] :: [evening.requests[1]]⟩ :=
    (early.trans late).reaches
  have moved : Moves (fun stmt held => waitsFor stmt held = true)
    ([] ++ [evening.requests[1]]) evening.db evening.requests[0]
      (evening.turn waitsFor 0).db { evening.requests[0] with phase := .committed } :=
        .commit rfl rfl rfl
  exact ⟨by decide,
    deleted_unassigned plainEnvironment (fun stmt held => waitsFor stmt held = true) consistent_staffed
    asked_quiet reached moved rfl rfl⟩

end Example
end GenericIam.AssignedRoles
