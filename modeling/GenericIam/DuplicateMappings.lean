import GenericIam.Mappings
import GenericIam.ConcurrentCalls
import GenericIam.Reactivation

/-! Mappings that several requests add and remove side by side: when every mapping keeps
one row at most, and when one that has been removed stays away. -/

namespace GenericIam.DuplicateMappings
open Table Database Identifiers Transaction Handlers RbacServices
open AccountServices Operations ReadCommitted Mappings ConcurrentCalls

variable {Id α β : Type}

def Renews (id : Uuid) (mapping : Mapping) : Handler Id α → Prop
  | .read next => ∃ view stmt rest, next view = .write stmt rest ∧ adds stmt = some (id, mapping)
  | .emit _ next => Renews id mapping next
  | .generate next => ∃ key, Renews id mapping (next key)
  | _ => False

structure Calm (program : Handler Id α) : Prop where
  sends : ∀ {stmt}, Upcoming stmt program → adds stmt = none ∧ removes stmt = none
  renews : ∀ {id mapping}, ¬Renews id mapping program

structure Backed (view : Db) (program : Handler Id α) : Prop where
  adding : ∀ {stmt id mapping}, Upcoming stmt program → adds stmt = some (id, mapping) →
    (∀ other, ¬Says view other mapping) ∨ (∃ rest, program = .write stmt rest) ∧ ¬Says view id mapping
  removing : ∀ {stmt id mapping}, Upcoming stmt program → removes stmt = some (id, mapping) →
    Says view id mapping
  renewing : ∀ {id mapping}, Renews id mapping program → Says view id mapping

/-- Every statement that adds or removes a mapping follows a read that justifies it. -/
def Careful : Handler Id α → Prop
  | .pure _ | .throw _ => True
  | .read next => ∀ view, Backed view (next view) ∧ Careful (next view)
  | .write stmt next => Mapped stmt ∧ ∀ answer, Calm (next answer) ∧ Careful (next answer)
  | .detached _ _ => False
  | .emit _ next => Careful next
  | .generate next => ∀ key, Careful (next key)

section Programs
variable {program : Handler Id α} {next : α → Handler Id β}

theorem renews_bind {id : Uuid} {mapping : Mapping} (calm : ∀ value, Calm (next value))
    (renews : Renews id mapping (program.bind next)) :
    Renews id mapping program := by
  induction program with
  | pure value => exact ((calm value).renews renews).elim
  | read rest _ =>
    obtain ⟨view, stmt, after, begins, added⟩ := renews
    rcases bind_write begins with direct | returned
    · obtain ⟨rest', direct⟩ := direct
      exact ⟨view, stmt, rest', direct, added⟩
    · obtain ⟨value, _, begins⟩ := returned
      have upcoming : Upcoming stmt (next value) := by
        rw [begins]
        rfl
      rw [((calm value).sends upcoming).1] at added
      cases added
  | emit event rest ih => exact ih renews
  | generate rest ih =>
    obtain ⟨key, renews⟩ := renews
    exact ⟨key, ih key renews⟩
  | throw _ | write _ _ | detached _ _ => exact renews.elim

theorem calm_bind (first : Calm program) (second : ∀ value, Calm (next value)) :
    Calm (program.bind next) := by
  constructor
  · intro stmt upcoming
    rcases upcoming_bind upcoming with early | late
    · exact first.sends early
    · obtain ⟨value, late⟩ := late
      exact (second value).sends late
  · intro id mapping renews
    exact first.renews (renews_bind second renews)

theorem backed_of_calm {view : Db} (calm : Calm program) : Backed view program := by
  constructor
  · intro stmt id mapping upcoming added
    rw [(calm.sends upcoming).1] at added
    cases added
  · intro stmt id mapping upcoming removed
    rw [(calm.sends upcoming).2] at removed
    cases removed
  · intro id mapping renews
    exact absurd renews calm.renews

theorem backed_bind {view : Db} (backed : Backed view program) (calm : ∀ value, Calm (next value)) :
    Backed view (program.bind next) := by
  constructor
  · intro stmt id mapping upcoming added
    rcases upcoming_bind upcoming with early | late
    · rcases backed.adding early added with absent | direct
      · exact .inl absent
      · obtain ⟨⟨rest, begins⟩, absent⟩ := direct
        rw [begins]
        exact .inr ⟨⟨_, rfl⟩, absent⟩
    · obtain ⟨value, late⟩ := late
      rw [((calm value).sends late).1] at added
      cases added
  · intro stmt id mapping upcoming removed
    rcases upcoming_bind upcoming with early | late
    · exact backed.removing early removed
    · obtain ⟨value, late⟩ := late
      rw [((calm value).sends late).2] at removed
      cases removed
  · intro id mapping renews
    exact backed.renewing (renews_bind calm renews)

theorem careful_bind (first : Careful program) (calm : ∀ value, Calm (next value))
    (second : ∀ value, Careful (next value)) :
    Careful (program.bind next) := by
  induction program with
  | pure value => exact second value
  | throw error => trivial
  | read rest ih => exact fun view => ⟨backed_bind (first view).1 calm, ih view (first view).2⟩
  | write stmt rest ih =>
    exact ⟨first.1, fun answer => ⟨calm_bind (first.2 answer).1 calm, ih answer (first.2 answer).2⟩⟩
  | detached _ _ => exact first.elim
  | emit event rest ih => exact ih first
  | generate rest ih => exact fun key => ih key (first key)

theorem calm_pure (value : α) :
    Calm (Program.pure value : Handler Id α) := ⟨fun upcoming => upcoming.elim, fun renews => renews⟩

theorem calm_throw (error : HttpException) : Calm (Program.throw error : Handler Id α) :=
  ⟨fun upcoming => upcoming.elim, fun renews => renews⟩

/-- A read after which nothing is added at once. -/
theorem calm_read {rest : Db → Handler Id α}
    (never : ∀ {view stmt after}, rest view = .write stmt after → adds stmt = none) :
    Calm (Program.read rest : Handler Id α) := by
  constructor
  · intro stmt upcoming
    exact upcoming.elim
  · intro id mapping renews
    obtain ⟨view, stmt, after, begins, added⟩ := renews
    rw [never begins] at added
    cases added

structure Steady (program : Handler Id α) : Prop where
  calm : Calm program
  careful : Careful program

theorem steady_pure (value : α) :
    Steady (Program.pure value : Handler Id α) := ⟨calm_pure value, trivial⟩

theorem steady_throw (error : HttpException) :
    Steady (Program.throw error : Handler Id α) := ⟨calm_throw error, trivial⟩

theorem steady_emit {event : Events.Event Id} {rest : Handler Id α} (steady : Steady rest) :
    Steady (Program.emit event rest : Handler Id α) :=
  ⟨⟨steady.calm.sends, steady.calm.renews⟩, steady.careful⟩

theorem steady_bind (first : Steady program) (second : ∀ value, Steady (next value)) :
    Steady (program.bind next) :=
  ⟨calm_bind first.calm fun value => (second value).calm,
    careful_bind first.careful (fun value => (second value).calm) fun value => (second value).careful⟩

theorem steady_forEach {ι : Type} {items : List ι} {body : ι → Handler Id Unit}
    (steady : ∀ item, Steady (body item)) :
    Steady (forEach items body) := by
  induction items with
  | nil => exact steady_pure ()
  | cons item rest ih => exact steady_bind (steady item) fun _ => ih

end Programs

/-! The four services. -/

section Services
variable {view : Db}

theorem removes_of_adds {stmt : Write} {added : Uuid × Mapping} (adding : adds stmt = some added) :
    removes stmt = none := by
  cases stmt <;> first | rfl | cases adding

/-- A row with a new id is inserted for a mapping that has none. -/
theorem backed_created {stmt : Uuid → Write} {rest : Uuid → Option Violation → Handler Id α}
    {mapping : Mapping} (added : ∀ id, adds (stmt id) = some (id, mapping))
    (absent : ∀ other, ¬Says view other mapping) :
    Backed view (Program.generate fun id => Program.write (stmt id) (rest id) : Handler Id α) := by
  constructor
  · intro sent id mapping' upcoming adding
    obtain ⟨key, rfl⟩ := upcoming
    rw [added key] at adding
    cases adding
    exact .inl absent
  · intro sent id mapping' upcoming removing
    obtain ⟨key, rfl⟩ := upcoming
    rw [removes_of_adds (added key)] at removing
    cases removing
  · intro id mapping' renews
    exact renews.choose_spec.elim

theorem backed_write {stmt : Write} {rest : Option Violation → Handler Id α}
    (adding : ∀ {id mapping}, adds stmt = some (id, mapping) → ¬Says view id mapping)
    (removing : ∀ {id mapping}, removes stmt = some (id, mapping) → Says view id mapping) :
    Backed view (Program.write stmt rest : Handler Id α) := by
  constructor
  · intro sent id mapping upcoming added
    cases upcoming
    exact .inr ⟨⟨rest, rfl⟩, adding added⟩
  · intro sent id mapping upcoming removed
    cases upcoming
    exact removing removed
  · intro id mapping renews
    exact renews.elim

/-- A statement, and then whatever is steady. -/
theorem careful_persist {write : Write} {rest : Handler Id α} (mapped : Mapped write)
    (steady : Steady rest) :
    Careful (persist write >>= fun _ => rest) := by
  refine ⟨mapped, fun answer => ?_⟩
  cases answer with
  | none => exact ⟨steady.calm, steady.careful⟩
  | some why => exact ⟨calm_throw _, trivial⟩

theorem steady_orThrow (found : Option α) (error : HttpException) :
    Steady (orThrow found error : Handler Id α) := by
  cases found with
  | none => exact steady_throw error
  | some row => exact steady_pure row

theorem steady_refuseIf (condition : Bool) (error : HttpException) :
    Steady (refuseIf condition error : Handler Id Unit) := by
  cases condition with
  | true => exact steady_throw error
  | false => exact steady_pure ()

/-- A query whose answer justifies what follows. -/
theorem steady_query {found : Db → α} {next : α → Handler Id β}
    (never : ∀ {answer stmt after}, next answer = .write stmt after → adds stmt = none)
    (each : ∀ {view answer}, found view = answer → Backed view (next answer) ∧ Careful (next answer)) :
    Steady ((visible >>= fun db => pure (found db)) >>= next) := ⟨calm_read never, fun _ => each rfl⟩

/-- The lookup of a row that has to be there. -/
theorem steady_lookup (found : Db → Option α) (error : HttpException) :
    Steady (visible >>= fun db => orThrow (found db) error : Handler Id α) := by
  constructor
  · apply calm_read
    intro view stmt after begins
    have answered : orThrow (found view) error = (.write stmt after : Handler Id α) := begins
    cases looked : found view with
    | none =>
      rw [looked] at answered
      cases answered
    | some row =>
      rw [looked] at answered
      cases answered
  · have last : ∀ view, Steady (orThrow (found view) error : Handler Id α) := fun view =>
      steady_orThrow (found view) error
    exact fun view => ⟨backed_of_calm (last view).calm, (last view).careful⟩

/-- What a renewal sends once it has read the row again. -/
theorem renewal_eq (assignment : UserRoleEntity) :
    (renewAssignment assignment : Handler Id UserRoleEntity) = .read fun db =>
      if (db.userRoles.any fun ur => ur.id == assignment.id) = true
      then persist (.updateUserRole assignment) >>= fun _ => pure assignment
      else persist (.insertUserRole assignment) >>= fun _ => pure assignment := rfl

/-- A renewal adds nothing but what the assignment says, under its id. -/
theorem adds_of_renews {assignment : UserRoleEntity} {id : Uuid} {mapping : Mapping}
    (renews : Renews id mapping (renewAssignment assignment : Handler Id UserRoleEntity)) :
    id = assignment.id ∧
      mapping = .userRole assignment.tenantId assignment.userId assignment.roleId := by
  rw [renewal_eq] at renews
  obtain ⟨view, stmt, after, begins, added⟩ := renews
  dsimp only at begins
  split at begins
  · cases begins
    cases added
  · cases begins
    cases added
    exact ⟨rfl, rfl⟩

theorem careful_renewAssignment (assignment : UserRoleEntity) :
    Careful (renewAssignment assignment : Handler Id UserRoleEntity) := by
  rw [renewal_eq]
  intro view
  dsimp only
  by_cases there : (view.userRoles.any fun ur => ur.id == assignment.id) = true
  · rw [if_pos there]
    constructor
    · apply backed_write
      · intro id mapping added
        cases added
      · intro id mapping removed
        cases removed
    · exact careful_persist trivial (steady_pure assignment)
  · rw [if_neg there]
    constructor
    · apply backed_write
      · intro id mapping added present
        cases added
        obtain ⟨expiresAt, present⟩ := present
        exact there (any_iff.mpr ⟨_, present, by simp⟩)
      · intro id mapping removed
        cases removed
    · exact careful_persist trivial (steady_pure assignment)

variable [Identifier Id]

theorem steady_findOneForTenant (id tenantId : Id) : Steady (findOneForTenant id tenantId) :=
  steady_lookup _ _

theorem steady_requireUser (userId tenantId : Id) : Steady (requireUser userId tenantId) :=
  steady_lookup _ _

theorem steady_findPermissions (refs : List (PermissionRef Id)) : Steady (findPermissions refs) := by
  constructor
  · apply calm_read
    intro view stmt after begins
    cases begins
  · exact fun view => ⟨backed_of_calm (calm_pure _), trivial⟩

theorem steady_addMapping (roleId tenantId actorId : Id) (permission : PermissionEntity) :
    Steady (addMapping roleId tenantId actorId permission) := by
  unfold addMapping findMapping
  apply steady_query
  · intro answer stmt after begins
    cases answer with
    | none => cases begins
    | some mapping => cases begins
  · intro view answer looked
    cases answer with
    | some mapping => exact ⟨backed_of_calm (calm_pure ()), trivial⟩
    | none =>
      have absent : ∀ other, ¬Says view other (.rolePermission (value roleId) permission.id) := by
        intro other present
        have missed := findOne_none.mp looked _ present
        simp at missed
      exact ⟨backed_created (fun _ => rfl) absent, fun id =>
        careful_persist trivial (steady_emit (steady_pure ()))⟩

theorem steady_removeMapping (roleId tenantId actorId : Id) (permission : PermissionEntity) :
    Steady (removeMapping roleId tenantId actorId permission) := by
  unfold removeMapping findMapping
  apply steady_query
  · intro answer stmt after begins
    cases answer with
    | none => cases begins
    | some mapping =>
      cases begins
      rfl
  · intro view answer looked
    cases answer with
    | none => exact ⟨backed_of_calm (calm_pure ()), trivial⟩
    | some mapping =>
      constructor
      · apply backed_write
        · intro id mapping' added
          cases added
        · intro id mapping' removed
          cases removed
          exact (findOne_some looked).1
      · exact careful_persist trivial (steady_emit (steady_pure ()))

theorem steady_updateRolePermissions (roleId tenantId : Id) (dto : UpdateRolePermissionsDto Id)
    (actorId : Id) :
    Steady (RbacServices.updateRolePermissions roleId tenantId dto actorId) := by
  refine steady_bind (steady_findOneForTenant roleId tenantId) fun role => ?_
  refine steady_bind (steady_refuseIf _ _) fun _ => ?_
  refine steady_bind (steady_findPermissions dto.add) fun added => ?_
  refine steady_bind (steady_forEach fun permission =>
    steady_addMapping roleId tenantId actorId permission) fun _ => ?_
  refine steady_bind (steady_findPermissions dto.remove) fun removed => ?_
  refine steady_bind (steady_forEach fun permission =>
    steady_removeMapping roleId tenantId actorId permission) fun _ => ?_
  exact steady_emit (steady_pure ())

theorem steady_saveAssignment (userId tenantId : Id) (dto : AssignRoleDto Id) :
    Steady (saveAssignment userId tenantId dto) := by
  unfold saveAssignment findAssignment
  apply steady_query
  · intro answer stmt after begins
    cases answer with
    | none => cases begins
    | some existing => cases begins
  · intro view answer looked
    cases answer with
    | some existing =>
      refine ⟨⟨fun upcoming => upcoming.elim, fun upcoming => upcoming.elim, ?_⟩,
        careful_renewAssignment _⟩
      intro id mapping renews
      obtain ⟨rfl, rfl⟩ := adds_of_renews renews
      exact ⟨existing.expiresAt, (findOne_some looked).1⟩
    | none =>
      have absent : ∀ other,
          ¬Says view other (.userRole (value tenantId) (value userId) (value dto.roleId)) := by
        intro other present
        obtain ⟨expiresAt, present⟩ := present
        have missed := findOne_none.mp looked _ present
        simp at missed
      exact ⟨backed_created (fun _ => rfl) absent, fun id => careful_persist trivial (steady_pure _)⟩

theorem steady_assignToUser (userId tenantId : Id) (dto : AssignRoleDto Id) (actorId : Id) :
    Steady (RbacServices.assignToUser userId tenantId dto actorId) := by
  refine steady_bind (steady_requireUser userId tenantId) fun user => ?_
  refine steady_bind (steady_findOneForTenant dto.roleId tenantId) fun role => ?_
  refine steady_bind (steady_saveAssignment userId tenantId dto) fun assignment => ?_
  exact steady_emit (steady_emit (steady_pure assignment))

theorem steady_addRole (userId tenantId actorId : Id) (item : AssignRoleDto Id) :
    Steady (addRole userId tenantId actorId item) := by
  refine steady_bind (steady_findOneForTenant item.roleId tenantId) fun role => ?_
  refine steady_bind (steady_saveAssignment userId tenantId item) fun assignment => ?_
  exact steady_emit (steady_pure ())

theorem steady_removeRole (userId tenantId actorId roleId : Id) :
    Steady (removeRole userId tenantId actorId roleId) := by
  unfold removeRole findAssignment
  apply steady_query
  · intro answer stmt after begins
    cases answer with
    | none => cases begins
    | some assignment =>
      cases begins
      rfl
  · intro view answer looked
    cases answer with
    | none => exact ⟨backed_of_calm (calm_pure ()), trivial⟩
    | some assignment =>
      constructor
      · apply backed_write
        · intro id mapping added
          cases added
        · intro id mapping removed
          cases removed
          exact ⟨assignment.expiresAt, (findOne_some looked).1⟩
      · exact careful_persist trivial (steady_emit (steady_pure ()))

theorem steady_updateUserRoles (userId tenantId : Id) (dto : UpdateUserRolesDto Id) (actorId : Id) :
    Steady (RbacServices.updateUserRoles userId tenantId dto actorId) := by
  refine steady_bind (steady_requireUser userId tenantId) fun user => ?_
  refine steady_bind (steady_forEach fun item => steady_addRole userId tenantId actorId item) fun _ => ?_
  refine steady_bind (steady_forEach fun roleId =>
    steady_removeRole userId tenantId actorId roleId) fun _ => ?_
  exact steady_emit (steady_pure ())

theorem steady_createAcl (tenantId : Id) (dto : CreateAclDto Id) (actorId : Id) :
    Steady (AccountServices.createAcl tenantId dto actorId) := by
  constructor
  · apply calm_read
    intro view stmt after begins
    revert begins
    dsimp only [Transaction.Program.bind]
    generalize view.resourceAcls.findOne _ = answer
    intro begins
    cases answer with
    | none => cases begins
    | some existing => cases begins
  · intro view
    dsimp only [Transaction.Program.bind]
    generalize looked : view.resourceAcls.findOne _ = answer
    cases answer with
    | some existing => exact ⟨backed_of_calm (calm_pure existing), trivial⟩
    | none =>
      have absent : ∀ other, ¬Says view other
          (.acl (value tenantId)
              (value dto.userId) dto.resourceType dto.resourceId dto.permission) := by
        intro other present
        have missed := findOne_none.mp looked _ present
        simp at missed
      refine ⟨backed_created (fun _ => rfl) absent, fun id => ⟨trivial, fun answer => ?_⟩⟩
      dsimp only [Transaction.Program.bind]
      split
      · exact ⟨calm_throw _, trivial⟩
      · exact ⟨calm_throw _, trivial⟩
      · exact ⟨calm_throw _, trivial⟩
      · have rest : ∀ saved first second,
          Steady (Program.emit first (.emit second (.pure saved)) : Handler Id ResourceAclEntity) :=
          fun saved _ _ => steady_emit (steady_emit (steady_pure saved))
        exact ⟨(rest _ _ _).calm, (rest _ _ _).careful⟩

end Services

def Maps : Operation Id → Prop
  | .updateRolePermissions _ _ | .updateUserRoles _ _ | .assignToUser _ _ | .createAcl _ => True
  | _ => False

theorem steady_operation [Identifier Id] [DecidableEq Id] (env : Environment)
    (tenantId actorId : Id) {operation : Operation Id} (maps : Maps operation) :
    Steady (operation.handler env tenantId actorId) := by
  cases operation with
  | updateRolePermissions roleId dto => exact steady_updateRolePermissions roleId tenantId dto actorId
  | updateUserRoles userId dto => exact steady_updateUserRoles userId tenantId dto actorId
  | assignToUser userId dto =>
    exact steady_bind (steady_assignToUser userId tenantId dto actorId) fun _ => steady_pure ()
  | createAcl dto => exact steady_bind (steady_createAcl tenantId dto actorId) fun _ => steady_pure ()
  | _ => exact maps.elim

/-! What a running request may rely on. -/

def Drops (log : List Write) (mapping : Mapping) : Prop :=
  ∃ before stmt after id, log = before ++ stmt :: after ∧ removes stmt = some (id, mapping) ∧
    ∀ later ∈ after, ∀ id, adds later ≠ some (id, mapping)

theorem drops_append {log : List Write} {stmt : Write} {mapping : Mapping}
    (drops : Drops (log ++ [stmt]) mapping) :
    (∃ id, removes stmt = some (id, mapping)) ∨ Drops log mapping ∧
      ∀ id, adds stmt ≠ some (id, mapping) := by
  obtain ⟨before, removal, after, id, split, removed, never⟩ := drops
  rcases List.eq_nil_or_concat after with none_left | more
  · rw [none_left] at split
    have last := List.append_inj_right' split rfl
    cases last
    exact .inl ⟨id, removed⟩
  · obtain ⟨init, last, rfl⟩ := more
    rw [List.concat_eq_append, ← List.cons_append, ← List.append_assoc] at split
    have front := List.append_inj_left' split rfl
    have back := List.append_inj_right' split rfl
    cases back
    refine .inr ⟨⟨before, removal, init, id, front, removed, fun later member => ?_⟩, ?_⟩
    · exact never later (by simp [member])
    · exact never stmt (by simp)

abbrev Request (Id : Type) := ReadCommitted.Request (effects Id) Db (Call Id)

def rows (db : Db) (request : Request Id) : Uuid → Mapping → Prop :=
  Sight request.kind.session db.roles request.log (Says db)

/-- The request adds or removes the mapping, is about to, or is about to save a row of it
that it has found. -/
def Touches (request : Request Id) (mapping : Mapping) : Prop :=
  (∃ stmt, (stmt ∈ request.log ∨ Upcoming stmt request.program) ∧ ∃ id, adds stmt = some (id, mapping) ∨
    removes stmt = some (id, mapping)) ∨
    ∃ id, Renews id mapping request.program

/-- No request commits a mapping that another one touches. -/
def clear : Condition (effects Id) Db (Call Id) := fun _ request request' others =>
  request'.phase = .committed → ∀ other ∈ others, other.phase = .running → ∀ {mapping},
    (∃ stmt ∈ request.log, ∃ id, adds stmt = some (id, mapping)) → ¬Touches other mapping

structure Sound (db : Db) (request : Request Id) : Prop where
  engine : request.engine = engine Id request.kind.session
  mapped : ∀ stmt ∈ request.log, Mapped stmt
  careful : Careful request.program
  single : ∀ {mapping first second}, rows db request first mapping →
    rows db request second mapping → first = second
  dropped : ∀ {mapping}, Drops request.log mapping → ∀ id, ¬rows db request id mapping
  adding : ∀ {stmt id mapping}, Upcoming stmt request.program → adds stmt = some (id, mapping) →
    ∀ other, rows db request other mapping → shows request.kind.session db.roles mapping = false
  removing : ∀ {stmt id mapping}, Upcoming stmt request.program → removes stmt = some (id, mapping) →
    shows request.kind.session db.roles mapping = true ∧
      ∀ other, rows db request other mapping → other = id
  renewing : ∀ {id mapping}, Renews id mapping request.program →
    ∀ other, rows db request other mapping →
      shows request.kind.session db.roles mapping = true → other = id

def Stands (db : Db) (request : Request Id) : Prop := request.phase = .running → Sound db request

section Steps
variable {waits : Write → Write → Prop} {others : List (Request Id)} {db db' own : Db}
  {request request' : Request Id}

theorem Sound.rows_iff (sound : Sound db request) (seen : request.sees db = some own) :
    own.roles = db.roles ∧ ∀ {id mapping}, Says own id mapping ↔ rows db request id mapping := by
  unfold ReadCommitted.Request.sees at seen
  rw [sound.engine] at seen
  exact says_replay sound.mapped seen

/-- What the request has read justifies what it is about to do. -/
theorem sound_read {next : Db → Handler Id Unit} (sound : Sound db request)
    (program : request.program = .read next) (seen : request.sees db = some own) :
    Sound db { request with
      program := next (request.engine.view own), reads :=
        request.reads ++ [request.engine.view own] } := by
  obtain ⟨sameRoles, held⟩ := sound.rows_iff seen
  have careful : Careful (.read next : Handler Id Unit) := program ▸ sound.careful
  have viewed : ∀ {id mapping}, Says (request.engine.view own) id mapping ↔
      rows db request id mapping ∧ shows request.kind.session db.roles mapping = true := by
    intro id mapping
    rw [sound.engine, ← sameRoles, ← held]
    exact says_shown
  obtain ⟨backed, after⟩ := careful (request.engine.view own)
  refine ⟨sound.engine, sound.mapped, after, sound.single, sound.dropped, ?_, ?_, ?_⟩
  · intro stmt id mapping upcoming added other there
    by_contra hidden
    have visible : shows request.kind.session db.roles mapping = true := by simpa using hidden
    rcases backed.adding upcoming added with absent | direct
    · exact absent other (viewed.mpr ⟨there, visible⟩)
    · obtain ⟨⟨rest, begins⟩, absent⟩ := direct
      have renews : Renews id mapping request.program := by
        rw [program]
        exact ⟨_, stmt, rest, begins, added⟩
      have same := sound.renewing renews other there visible
      subst same
      exact absent (viewed.mpr ⟨there, visible⟩)
  · intro stmt id mapping upcoming removed
    obtain ⟨there, visible⟩ := viewed.mp (backed.removing upcoming removed)
    exact ⟨visible, fun other present => sound.single present there⟩
  · intro id mapping renews other present _
    exact sound.single present (viewed.mp (backed.renewing renews)).1

theorem takes_of_removes {stmt : Write} {id : Uuid} {mapping : Mapping}
    (removed : removes stmt = some (id, mapping)) :
    Takes stmt id mapping := by
  cases stmt with
  | deleteRolePermission row | deleteUserRole row =>
    cases removed
    exact rfl
  | _ => cases removed

/-- A statement that is justified when it is sent leaves one row of what it adds and none of
what it removes. -/
theorem sound_written {own' : Db} {stmt : Write} {next : Option Violation → Handler Id Unit}
    (sound : Sound db request) (program : request.program = .write stmt next)
    (seen : request.sees db = some own) (accepted : request.engine.apply stmt own = .ok own') :
    Sound db { request with program := next none, log := request.log ++ [stmt] } := by
  have careful : Careful (.write stmt next : Handler Id Unit) := program ▸ sound.careful
  have upcoming : Upcoming stmt request.program := by
    rw [program]
    rfl
  have applied : stmt.apply request.kind.session own = some own' := by
    rw [sound.engine] at accepted
    exact send_ok accepted
  have visible : ∀ {id mapping}, adds stmt = some (id, mapping) →
      shows request.kind.session db.roles mapping = true := by
    intro id mapping added
    rw [← (sound.rows_iff seen).1]
    exact shows_of_adds applied added
  have before : ∀ {id mapping}, adds stmt = some (id, mapping) →
      ∀ other, ¬rows db request other mapping := by
    intro id mapping added other present
    have hidden := sound.adding upcoming added other present
    rw [visible added] at hidden
    cases hidden
  have after : ∀ {id mapping},
    rows db { request with program := next none, log := request.log ++ [stmt] } id mapping ↔
      After request.kind.session db.roles stmt (rows db request) id mapping := by
    intro id mapping
    unfold rows
    rw [sight_append]
  obtain ⟨calm, rest⟩ := careful.2 none
  refine ⟨sound.engine, ?_, rest, ?_, ?_, ?_, ?_, ?_⟩
  · intro other member
    rcases List.mem_append.mp member with earlier | last
    · exact sound.mapped other earlier
    · rw [List.mem_singleton.mp last]
      exact careful.1
  · intro mapping first second there also
    rcases after.mp there with ⟨old, _⟩ | new
    · rcases after.mp also with ⟨old', _⟩ | new'
      · exact sound.single old old'
      · exact absurd old (before new' first)
    · rcases after.mp also with ⟨old', _⟩ | new'
      · exact absurd old' (before new second)
      · rw [new] at new'
        cases new'
        rfl
  · intro mapping drops id there
    rcases drops_append drops with last | earlier
    · obtain ⟨removedId, removed⟩ := last
      obtain ⟨shown, only⟩ := sound.removing upcoming removed
      rcases after.mp there with ⟨old, kept⟩ | new
      · rw [only id old] at kept
        exact kept ⟨takes_of_removes removed, shown⟩
      · rw [removes_of_adds new] at removed
        cases removed
    · obtain ⟨earlier, never⟩ := earlier
      rcases after.mp there with ⟨old, _⟩ | new
      · exact sound.dropped earlier id old
      · exact never id new
  · intro other id mapping upcoming' added
    rw [(calm.sends upcoming').1] at added
    cases added
  · intro other id mapping upcoming' removed
    rw [(calm.sends upcoming').2] at removed
    cases removed
  · intro id mapping renews
    exact absurd renews calm.renews

theorem sound_refused {stmt : Write} {next : Option Violation → Handler Id Unit} (why : Violation)
    (sound : Sound db request) (program : request.program = .write stmt next) :
    Sound db { request with program := next (some why) } := by
  have careful : Careful (.write stmt next : Handler Id Unit) := program ▸ sound.careful
  obtain ⟨calm, rest⟩ := careful.2 (some why)
  refine ⟨sound.engine, sound.mapped, rest, sound.single, sound.dropped, ?_, ?_, ?_⟩
  · intro other id mapping upcoming added
    rw [(calm.sends upcoming).1] at added
    cases added
  · intro other id mapping upcoming removed
    rw [(calm.sends upcoming).2] at removed
    cases removed
  · intro id mapping renews
    exact absurd renews calm.renews

/-- A step that neither reads nor writes keeps what may be sent next. -/
theorem sound_onward {program : Handler Id Unit} (generated : Nat) (sound : Sound db request)
    (careful : Careful program)
    (upcoming : ∀ {stmt}, Upcoming stmt program → Upcoming stmt request.program)
    (renews : ∀ {id mapping}, Renews id mapping program → Renews id mapping request.program) :
    Sound db { request with program, generated } :=
  ⟨sound.engine, sound.mapped, careful, sound.single, sound.dropped, fun sent =>
    sound.adding (upcoming sent),
    fun sent => sound.removing (upcoming sent), fun renewing => sound.renewing (renews renewing)⟩

theorem advances : Advances waits clear Single (@Stands Id) := by
  intro others db request db' request' single mine _ moved _
  cases moved with
  | read running program seen => exact ⟨single, fun _ => sound_read (mine running) program seen⟩
  | written running program seen _ accepted =>
    exact ⟨single, fun _ => sound_written (mine running) program seen accepted⟩
  | refused running program _ _ _ => exact ⟨single, fun _ => sound_refused _ (mine running) program⟩
  | detached running program _ _ =>
    have careful := (mine running).careful
    rw [program] at careful
    exact careful.elim
  | @emit _ event next running program =>
    have careful : Careful (.emit event next : Handler Id Unit) := program ▸ (mine running).careful
    refine ⟨single, fun _ => sound_onward _ (mine running) careful ?_ ?_⟩
    · intro stmt upcoming
      rw [program]
      exact upcoming
    · intro id mapping renews
      rw [program]
      exact renews
  | @generate _ next running program =>
    have careful : Careful (.generate next : Handler Id Unit) := program ▸ (mine running).careful
    refine ⟨single, fun _ => sound_onward _ (mine running) (careful _) ?_ ?_⟩
    · intro stmt upcoming
      rw [program]
      exact ⟨_, upcoming⟩
    · intro id mapping renews
      rw [program]
      exact ⟨_, renews⟩
  | commit running _ seen =>
    refine ⟨?_, fun again => by cases again⟩
    intro mapping first second there also
    obtain ⟨_, held⟩ := (mine running).rows_iff seen
    exact (mine running).single (held.mp there) (held.mp also)
  | abort running => exact ⟨single, fun again => by cases again⟩

/-- A request keeps what it relies on when another one commits nothing that it touches. -/
theorem sound_beside {other : Request Id} (sound : Sound db request) (beside : Sound db other)
    (seen : request.sees db = some db')
    (untouched : ∀ {mapping}, (∃ stmt ∈ request.log, ∃ id, adds stmt = some (id, mapping)) →
      ¬Touches other mapping) :
    Sound db' other := by
  obtain ⟨sameRoles, held⟩ := sound.rows_iff seen
  have fewer : ∀ {id mapping}, (¬∃ stmt ∈ request.log, ∃ id, adds stmt = some (id, mapping)) →
      rows db' other id mapping → rows db other id mapping := by
    intro id mapping never there
    unfold rows at there ⊢
    rw [sameRoles] at there
    refine sight_mono (fun id present => ?_) there
    exact sight_old (fun stmt member id added => never ⟨stmt, member, id, added⟩) (held.mp present)
  have touched : ∀ {mapping}, Touches other mapping → ¬∃ stmt ∈ request.log, ∃ id,
    adds stmt = some (id, mapping) :=
    fun touches added => untouched added touches
  refine ⟨beside.engine, beside.mapped, beside.careful, ?_, ?_, ?_, ?_, ?_⟩
  · intro mapping first second there also
    by_cases added : ∃ stmt ∈ request.log, ∃ id, adds stmt = some (id, mapping)
    · have never : ∀ stmt ∈ other.log, ∀ id, adds stmt ≠ some (id, mapping) :=
        fun stmt member id adding =>
        untouched added (.inl ⟨stmt, .inl member, id, .inl adding⟩)
      exact sound.single (held.mp (sight_old never there)) (held.mp (sight_old never also))
    · exact beside.single (fewer added there) (fewer added also)
  · intro mapping drops id there
    have touches : Touches other mapping := by
      obtain ⟨before, stmt, after, id, split, removed, _⟩ := drops
      exact .inl ⟨stmt, .inl (by simp [split]), id, .inr removed⟩
    exact beside.dropped drops id (fewer (touched touches) there)
  · intro stmt id mapping upcoming added row there
    rw [sameRoles]
    exact beside.adding upcoming added row
      (fewer (touched (.inl ⟨stmt, .inr upcoming, id, .inl added⟩)) there)
  · intro stmt id mapping upcoming removed
    rw [sameRoles]
    obtain ⟨shown, only⟩ := beside.removing upcoming removed
    exact ⟨shown, fun row there =>
      only row (fewer (touched (.inl ⟨stmt, .inr upcoming, id, .inr removed⟩)) there)⟩
  · intro id mapping renews row there
    rw [sameRoles]
    exact beside.renewing renews row (fewer (touched (.inr ⟨id, renews⟩)) there)

theorem stable : Stable waits clear Single (@Stands Id) := by
  intro others db request db' request' other _ mine theirs member moved cleared running
  cases moved with
  | commit started _ seen =>
    exact sound_beside (mine started) (theirs running) seen fun added =>
      cleared rfl other member running added
  | detached started program _ _ =>
    have careful := (mine started).careful
    rw [program] at careful
    exact careful.elim
  | _ => exact theirs running

/-! After the removal of a mapping. -/

def silent (mapping : Mapping) : Condition (effects Id) Db (Call Id) := fun _ request request' _ =>
  request'.phase = .committed → ∀ stmt ∈ request.log, ∀ id, adds stmt ≠ some (id, mapping)

def clearAndSilent (mapping : Mapping) : Condition (effects Id) Db (Call Id) :=
  fun db request request' others =>
  clear db request request' others ∧ silent mapping db request request' others

theorem onCommits_clear :
    OnCommits (clear : Condition (effects Id) Db (Call Id)) :=
  fun _ _ _ _ open_ done => absurd done open_

theorem onCommits_clearAndSilent (mapping : Mapping) :
    OnCommits (clearAndSilent mapping : Condition (effects Id) Db (Call Id)) :=
  fun _ _ _ _ open_ => ⟨fun done => absurd done open_, fun done => absurd done open_⟩

theorem absent_moves {mapping : Mapping} (absent : ∀ id, ¬Says db id mapping)
    (mine : Stands db request) (moved : Moves waits others db request db' request')
    (unsaid : silent mapping db request request' others) (id : Uuid) :
    ¬Says db' id mapping := by
  cases moved with
  | commit running _ seen =>
    obtain ⟨_, held⟩ := (mine running).rows_iff seen
    intro present
    exact absent id (sight_old (unsaid rfl) (held.mp present))
  | detached running program _ _ =>
    have careful := (mine running).careful
    rw [program] at careful
    exact careful.elim
  | _ => exact absent id

/-- A mapping that no row has stays away while no request commits it. -/
theorem stays_absent {mapping : Mapping} {state last : State (effects Id) Db (Call Id)}
    (holds : Holds Single Stands state) (absent : ∀ id, ¬Says state.db id mapping)
    (run : Reaches waits (clearAndSilent mapping) state last) (id : Uuid) :
    ¬Says last.db id mapping := by
  have forward : Advances waits (clearAndSilent mapping) (fun db => Single db ∧
      ∀ id, ¬Says db id mapping) (@Stands Id) := by
    intro others db request db' request' before mine rest moved cleared
    obtain ⟨single, arrived⟩ := advances before.1 mine rest moved cleared.1
    exact ⟨⟨single, absent_moves before.2 mine moved cleared.2⟩, arrived⟩
  have aside : Stable waits (clearAndSilent mapping) (fun db => Single db ∧
    ∀ id, ¬Says db id mapping) (@Stands Id) :=
    fun before mine theirs member moved cleared => stable before.1 mine theirs member moved cleared.1
  exact (run.holds forward aside ⟨⟨holds.database, absent⟩, holds.requests⟩).database.2 id

end Steps

theorem stands_asked [Identifier Id] [DecidableEq Id] {env : Environment} {db : Db}
    {request : Request Id} (single : Single db) (asked : Asked env request)
    (maps : Maps request.kind.operation) : Stands db request := by
  intro _
  have steady := steady_operation env request.kind.tenantId request.kind.actorId maps
  have program : request.program =
    request.kind.operation.handler env request.kind.tenantId request.kind.actorId := asked.program
  have bare : rows db request = Says db := by
    unfold rows
    rw [asked.fresh.log]
    rfl
  refine ⟨asked.engine, ?_, ?_, ?_, ?_, ?_, ?_, ?_⟩
  · intro stmt member
    rw [asked.fresh.log] at member
    cases member
  · rw [program]
    exact steady.careful
  · rw [bare]
    exact single
  · intro mapping drops
    obtain ⟨before, stmt, after, id, split, _⟩ := drops
    rw [asked.fresh.log] at split
    simp at split
  · intro stmt id mapping upcoming added
    rw [program] at upcoming
    rw [(steady.calm.sends upcoming).1] at added
    cases added
  · intro stmt id mapping upcoming removed
    rw [program] at upcoming
    rw [(steady.calm.sends upcoming).2] at removed
    cases removed
  · intro id mapping renews
    rw [program] at renews
    exact absurd renews steady.calm.renews

/-- A request that has not begun touches nothing. -/
theorem untouched_asked [Identifier Id] [DecidableEq Id] {env : Environment} {request : Request Id}
    (asked : Asked env request) (maps : Maps request.kind.operation) {mapping : Mapping} :
    ¬Touches request mapping := by
  have steady := steady_operation env request.kind.tenantId request.kind.actorId maps
  have program : request.program =
    request.kind.operation.handler env request.kind.tenantId request.kind.actorId := asked.program
  intro holds
  rcases holds with ⟨stmt, sent | upcoming, id, touched⟩ | ⟨id, renews⟩
  · rw [asked.fresh.log] at sent
    cases sent
  · rw [program] at upcoming
    rw [(steady.calm.sends upcoming).1, (steady.calm.sends upcoming).2] at touched
    rcases touched with added | removed
    · cases added
    · cases removed
  · rw [program] at renews
    exact steady.calm.renews renews

/-- As long as no request commits a mapping that another one has looked up or changed,
every mapping keeps one row at most, and one that a request has removed stays away from
every decision until it is added again. -/
theorem revocation_effective [Identifier Id] [DecidableEq Id] (env : Environment)
    (waits : Write → Write → Prop) {first : State (effects Id) Db (Call Id)}
    (single : Single first.db)
    (asked : ∀ request ∈ first.requests, Asked env request ∧ Maps request.kind.operation) :
    (∀ {last}, Reaches waits clear first last → Single last.db) ∧
      ∀ {db db' : Db} {before after : List (Request Id)} {request request' : Request Id}
        {mapping : Mapping} {last},
        Reaches waits clear first ⟨db, before ++ request :: after⟩ →
          Moves waits (before ++ after) db request db' request' →
          clear db request request' (before ++ after) → request'.phase = .committed →
            Drops request.log mapping →
            Reaches waits (clearAndSilent mapping) ⟨db', before ++ request' :: after⟩ last →
              without last.db mapping = last.db := by
  have start : Holds Single Stands first :=
    ⟨single, fun request member =>
      stands_asked single (asked request member).1 (asked request member).2⟩
  constructor
  · intro last run
    exact (run.holds advances stable start).database
  · intro db db' before after request request' mapping last run moved cleared committed drops later
    have held := run.holds advances stable start
    have next := (Step.move before after moved cleared).holds advances stable held
    have mine : Stands db request := held.requests request (List.mem_append_right _ List.mem_cons_self)
    have gone : ∀ id, ¬Says db' id mapping := by
      obtain ⟨running, _, seen⟩ := moved.committed committed
      obtain ⟨_, held⟩ := (mine running).rows_iff seen
      intro id present
      exact (mine running).dropped drops id (held.mp present)
    exact without_eq (stays_absent next gone later)

/-! Two requests of Ada's that give Bob the same role, and one that takes it away. -/

section Example
open Reactivation
open Coherence (plainEnvironment)

def addition : Call Uuid := ⟨.tenantUser 21, 21, 22, .updateUserRoles 31 { add := [⟨11, none⟩] }⟩

def removal : Call Uuid := ⟨.tenantUser 21, 21, 22, .updateUserRoles 31 { remove := [11] }⟩

def bobHasRole : Mapping := .userRole 21 31 11

def morning : State (effects Uuid) Db (Call Uuid) :=
  ⟨office, [ask plainEnvironment (countedFrom 41) addition,
    ask plainEnvironment (countedFrom 51) addition,
    ask plainEnvironment (countedFrom 61) removal]⟩

/-- Both additions find no assignment before either of them has committed one. -/
def noon : State (effects Uuid) Db (Call Uuid) :=
  schedule waitsFor morning [0, 0, 0, 1, 1, 1, 0, 0, 0, 0, 0, 1, 1, 1, 1, 1]

def evening : State (effects Uuid) Db (Call Uuid) := schedule waitsFor noon [2, 2, 2, 2, 2, 2]

theorem single_office : Single office := by
  rw [single_iff]
  refine ⟨?_, ?_, ?_⟩
  · decide
  · decide
  · decide

theorem asked_morning :
    ∀ request ∈ morning.requests, Asked plainEnvironment request ∧ Maps request.kind.operation := by
  intro request member
  simp only [morning, List.mem_cons, List.not_mem_nil, or_false] at member
  rcases member with rfl | rfl | rfl
  · exact ⟨asked_ask _ _ _, trivial⟩
  · exact ⟨asked_ask _ _ _, trivial⟩
  · exact ⟨asked_ask _ _ _, trivial⟩

/-- Bob has the role twice at noon, and still once when its removal has committed. -/
theorem twin_survives :
    (¬∀ {first last : State (effects Uuid) Db (Call Uuid)}, Single first.db →
      (∀ request ∈ first.requests, Asked plainEnvironment request ∧ Maps request.kind.operation) →
        Reaches (fun stmt held => waitsFor stmt held = true) always first last → Single last.db) ∧
      (∃ request ∈ evening.requests, request.phase = .committed ∧ Drops request.log bobHasRole) ∧
        without evening.db bobHasRole ≠ evening.db := by
  have atNoon : (⟨41, 21, 31, 11, none⟩ : UserRoleEntity) ∈ noon.db.userRoles.rows ∧
      (⟨51, 21, 31, 11, none⟩ : UserRoleEntity) ∈ noon.db.userRoles.rows := by decide
  have left : (⟨51, 21, 31, 11, none⟩ : UserRoleEntity) ∈ evening.db.userRoles.rows := by decide
  refine ⟨?_, ?_, ?_⟩
  · intro single
    have reached : Reaches (fun stmt held => waitsFor stmt held = true) always morning noon :=
      reaches_schedule waitsFor morning _
    have unique : Single noon.db := fun first second =>
      single single_office asked_morning reached first second
    have same : (41 : Uuid) = 51 := @unique bobHasRole 41 51 ⟨none, atNoon.1⟩ ⟨none, atNoon.2⟩
    exact absurd same (by decide)
  · refine ⟨evening.requests[2], List.getElem_mem _, rfl, ?_⟩
    have log : evening.requests[2].log = [.deleteUserRole ⟨41, 21, 31, 11, none⟩] := by decide
    rw [log]
    exact ⟨[], _, [], 41, rfl, rfl, fun _ member => by cases member⟩
  · intro same
    have gone : (⟨51, 21, 31, 11, none⟩ : UserRoleEntity) ∉
        (without evening.db bobHasRole).userRoles := by
      simp [without, bobHasRole]
    rw [same] at gone
    exact gone left

def sharing (document : String) : Call Uuid :=
  ⟨.tenantUser 21, 21, 22, .createAcl ⟨31, "document", document, "read"⟩⟩

def friday : State (effects Uuid) Db (Call Uuid) :=
  ⟨office, [ask plainEnvironment (countedFrom 41) addition,
    ask plainEnvironment (countedFrom 51) removal,
    ask plainEnvironment (countedFrom 61) (sharing "7"),
      ask plainEnvironment (countedFrom 71) (sharing "8")]⟩

def adding : State (effects Uuid) Db (Call Uuid) := schedule waitsFor friday (List.replicate 7 0)

/-- The removal has deleted the row and the second entry has been looked up,
when the first one is committed. -/
def between : State (effects Uuid) Db (Call Uuid) :=
  schedule waitsFor (adding.turn waitsFor 0) [1, 1, 1, 3, 2, 2, 2, 2, 2]

def leaving : State (effects Uuid) Db (Call Uuid) := schedule waitsFor (between.turn waitsFor 2) [1, 1]

def gone : State (effects Uuid) Db (Call Uuid) :=
  schedule waitsFor (leaving.turn waitsFor 1) [3, 3, 3, 3]

def dismissed : State (effects Uuid) Db (Call Uuid) := gone.turn waitsFor 3

/-- The addition is committed before the others have begun. -/
theorem meets_addition : adding.Meets waitsFor clear 0 := by
  have whole : adding.requests = [] ++
    adding.requests[0] :: [ask plainEnvironment (countedFrom 51) removal,
    ask plainEnvironment (countedFrom 61) (sharing "7"),
      ask plainEnvironment (countedFrom 71) (sharing "8")] := rfl
  refine meets_turn waitsFor whole rfl ?_
  intro request' _ other among _ mapping _
  simp only [List.nil_append, List.mem_cons, List.not_mem_nil, or_false] at among
  rcases among with rfl | rfl | rfl
  · exact untouched_asked (asked_ask plainEnvironment (countedFrom 51) removal) trivial
  · exact untouched_asked (asked_ask plainEnvironment (countedFrom 61) (sharing "7")) trivial
  · exact untouched_asked (asked_ask plainEnvironment (countedFrom 71) (sharing "8")) trivial

/-- The first entry is committed beside a row that has been deleted and an entry for
another document. -/
theorem meets_sharing : between.Meets waitsFor clear 2 := by
  have whole : between.requests = [between.requests[0], between.requests[1]] ++
    between.requests[2] :: [between.requests[3]] := rfl
  refine meets_turn waitsFor whole rfl ?_
  intro request' _ other among running mapping added
  have log : between.requests[2].log = [.insertAcl ⟨61, 21, 31, "document", "7", "read"⟩] := by decide
  obtain ⟨stmt, sent, id, added⟩ := added
  rw [log, List.mem_singleton] at sent
  subst sent
  cases added
  simp only [List.cons_append, List.nil_append, List.mem_cons, List.not_mem_nil, or_false] at among
  rcases among with rfl | rfl | rfl
  · exact absurd running (by decide)
  · intro holds
    rcases holds with ⟨stmt, sent | upcoming, id, touched⟩ | ⟨id, renews⟩
    · have log : between.requests[1].log = [.deleteUserRole ⟨41, 21, 31, 11, none⟩] := by decide
      rw [log, List.mem_singleton] at sent
      subst sent
      rcases touched with added | removed
      · cases added
      · cases removed
    · exact upcoming
    · exact renews
  · intro holds
    rcases holds with ⟨stmt, sent | upcoming, id, touched⟩ | ⟨id, renews⟩
    · have log : between.requests[3].log = [] := by decide
      rw [log] at sent
      cases sent
    · obtain ⟨key, upcoming⟩ := upcoming
      have inserts : Write.insertAcl ⟨key, 21, 31, "document", "8", "read"⟩ = stmt := upcoming
      subst inserts
      simp [adds, removes] at touched
    · exact renews.choose_spec

theorem meets_later : gone.Meets waitsFor (clearAndSilent bobHasRole) 3 := by
  have whole : gone.requests = [gone.requests[0], gone.requests[1], gone.requests[2]] ++
    gone.requests[3] :: [] := rfl
  refine meets_turn waitsFor whole rfl ?_
  intro request'
  refine ⟨?_, ?_⟩
  · intro _ other among running
    simp only [List.append_nil, List.mem_cons, List.not_mem_nil, or_false] at among
    rcases among with rfl | rfl | rfl
    · exact absurd running (by decide)
    · exact absurd running (by decide)
    · exact absurd running (by decide)
  · intro _ stmt sent id added
    have log : gone.requests[3].log = [.insertAcl ⟨71, 21, 31, "document", "8", "read"⟩] := by decide
    rw [log, List.mem_singleton] at sent
    subst sent
    cases added

theorem asked_friday :
    ∀ request ∈ friday.requests, Asked plainEnvironment request ∧ Maps request.kind.operation := by
  intro request member
  simp only [friday, List.mem_cons, List.not_mem_nil, or_false] at member
  rcases member with rfl | rfl | rfl | rfl
  · exact ⟨asked_ask _ _ _, trivial⟩
  · exact ⟨asked_ask _ _ _, trivial⟩
  · exact ⟨asked_ask _ _ _, trivial⟩
  · exact ⟨asked_ask _ _ _, trivial⟩

theorem until_leaving : Reaches (fun stmt held => waitsFor stmt held = true) clear friday leaving := by
  have added : History (fun stmt held => waitsFor stmt held = true) clear friday
      (adding.completes waitsFor 0) (adding.turn waitsFor 0) :=
    history_until waitsFor onCommits_clear meets_addition rfl rfl
  have shared : History (fun stmt held => waitsFor stmt held = true) clear (adding.turn waitsFor 0)
      (between.completes waitsFor 2) (between.turn waitsFor 2) :=
    history_until waitsFor onCommits_clear meets_sharing rfl rfl
  have late : History (fun stmt held => waitsFor stmt held = true) clear
      (between.turn waitsFor 2) [] leaving :=
    history_silent waitsFor onCommits_clear (between.turn waitsFor 2) _ rfl
  exact ((added.trans shared).trans late).reaches

theorem since_leaving :
    Reaches (fun stmt held => waitsFor stmt held = true) (clearAndSilent bobHasRole)
      (leaving.turn waitsFor 1) dismissed := by
  have after : History (fun stmt held => waitsFor stmt held = true) (clearAndSilent bobHasRole)
      (leaving.turn waitsFor 1) (gone.completes waitsFor 3) dismissed :=
    history_until waitsFor (onCommits_clearAndSilent bobHasRole) meets_later rfl rfl
  exact after.reaches

/-- The role that Bob was given during the run is gone, and the entries are there. -/
theorem revocation_dismissal : (⟨41, 21, 31, 11, none⟩ : UserRoleEntity) ∈ leaving.db.userRoles.rows ∧
    (⟨61, 21, 31, "document", "7", "read"⟩ : ResourceAclEntity) ∈ leaving.db.resourceAcls.rows ∧
      Single leaving.db ∧
      (⟨71, 21, 31, "document", "8", "read"⟩ : ResourceAclEntity) ∈ dismissed.db.resourceAcls.rows ∧
        without dismissed.db bobHasRole = dismissed.db := by
  have log : leaving.requests[1].log = [.deleteUserRole ⟨41, 21, 31, 11, none⟩] := by decide
  have drops : Drops leaving.requests[1].log bobHasRole := by
    rw [log]
    exact ⟨[], _, [], 41, rfl, rfl, fun _ member => by cases member⟩
  have cleared : clear leaving.db leaving.requests[1] { leaving.requests[1] with phase := .committed }
      ([leaving.requests[0]] ++ [leaving.requests[2], leaving.requests[3]]) := by
    intro _ _ _ _ mapping added
    obtain ⟨stmt, sent, id, added⟩ := added
    rw [log, List.mem_singleton] at sent
    subst sent
    cases added
  have moved : Moves (fun stmt held => waitsFor stmt held = true)
    ([leaving.requests[0]] ++ [leaving.requests[2], leaving.requests[3]])
      leaving.db leaving.requests[1] (leaving.turn waitsFor 1).db
        { leaving.requests[1] with phase := .committed } := .commit rfl rfl rfl
  have guarded :=
    revocation_effective plainEnvironment (fun stmt held =>
    waitsFor stmt held = true) single_office asked_friday
  exact ⟨by decide, by decide, fun first second => guarded.1 until_leaving first second, by decide,
    @guarded.2 leaving.db (leaving.turn waitsFor 1).db [leaving.requests[0]] [leaving.requests[2],
      leaving.requests[3]] _ _ bobHasRole
      dismissed until_leaving moved cleared rfl drops since_leaving⟩

end Example
end GenericIam.DuplicateMappings
