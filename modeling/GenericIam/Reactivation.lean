import GenericIam.Coherence
import GenericIam.Controllers
import GenericIam.Runs

/-! Who can set the flag of a deactivated account again. The status route asks for a
permission, the update of a user asks for none when the account is the caller's own. -/

namespace GenericIam.Reactivation
open Table Database Identifiers AuthorizationCheck Transaction Handlers RbacServices
open AccountServices Operations ReachableStates Guards Controllers Runs
open Coherence (plainEnvironment)

variable {Id : Type} [Identifier Id]

def Reactivated (db db' : Db) (userId : Uuid) : Prop :=
  (∃ user ∈ db.users, user.id = userId ∧ user.isActive = false) ∧ ∃ user ∈ db'.users, user.id = userId ∧
    user.isActive = true

theorem not_reactivated {db db' : Db} {userId : Uuid} (same : db'.users = db.users) :
    ¬Reactivated db db' userId := by
  intro reactivated
  obtain ⟨⟨old, before, key, inactive⟩, new, after, key', active⟩ := reactivated
  rw [same] at after
  rw [eq_of_key_eq before after (key.trans key'.symm), active] at inactive
  cases inactive

/-! The update of a user. -/

section Update
variable {db db' : Db} {id tenantId : Id} {dto : UpdateUserDto Id}

/-- The update finds its user in the tenant, leaves no column without a value, and the
constraints of the table let it pass. -/
def Updates (db : Db) (id tenantId : Id) (dto : UpdateUserDto Id) (db' : Db) : Prop :=
  ∃ user ∈ db.users, user.id = value id ∧ canonical user.tenantId = tenantId ∧ dto.nullsColumn = false ∧
    (Write.updateUser user.id (changedColumns user (assignUser user dto))).apply (.tenantUser
      (value tenantId)) db = some db'

/-- The columns that differ are all it takes to make one row of the other. -/
theorem changedColumns_apply (stored user : UserEntity) : (changedColumns stored user).apply stored =
    { stored with
      email := user.email, firstName := user.firstName, lastName :=
        user.lastName, managerId := user.managerId,
      isActive := user.isActive } := by
  have column : ∀ {α : Type} [DecidableEq α] (old new : α),
      (if old = new then none else some new).getD old = new := by
    intro α _ old new
    split
    · next same => exact same
    · rfl
  simp only [changedColumns, UserChange.apply, column]

theorem Updates.row (updates : Updates db id tenantId dto db') {user : UserEntity}
    (member : user ∈ db.users) (same : user.id = value id) : assignUser user dto ∈ db'.users := by
  obtain ⟨other, present, key, tenant, _, applied⟩ := updates
  have whole : other = user := eq_of_key_eq present member (key.trans same.symm)
  subst whole
  cases updateUser_some applied
  rw [mem_modify]
  refine .inr ⟨other, member, ?_, changedColumns_apply other (assignUser other dto)⟩
  simp [Session.admits, ← tenant]

theorem Updates.others (updates : Updates db id tenantId dto db') {user : UserEntity}
    (member : user ∈ db'.users) (other : user.id ≠ value id) : user ∈ db.users := by
  obtain ⟨_, _, key, _, _, applied⟩ := updates
  cases updateUser_some applied
  rw [mem_modify] at member
  rcases member with ⟨before, _⟩ | ⟨old, _, hit, changed⟩
  · exact before
  · simp only [Bool.and_eq_true, beq_iff_eq] at hit
    have kept : user.id = old.id := by rw [← changed]; rfl
    exact absurd (kept.trans (hit.1.trans key)) other

/-- Only `is_active` in the body sets the flag again, and only that of the updated user. -/
theorem Updates.reactivates {userId : Uuid} (updates : Updates db id tenantId dto db')
    (reactivated : Reactivated db db' userId) :
    dto.isActive = .value true ∧ ∃ user ∈ db.users, user.id = value id ∧ user.isActive = false := by
  obtain ⟨⟨old, before, key, inactive⟩, new, after, key', active⟩ := reactivated
  by_cases here : new.id = value id
  · have same : old.id = value id := key.trans (key'.symm.trans here)
    have row := updates.row before same
    have whole : new = assignUser old dto := eq_of_key_eq after row (here.trans same.symm)
    rw [whole] at active
    refine ⟨?_, old, before, same, inactive⟩
    cases field : dto.isActive with
    | value given =>
      simp only [assignUser, field, Given.over] at active
      rw [active]
    | absent | null =>
      simp only [assignUser, field, Given.over] at active
      rw [inactive] at active
      cases active
  · have present := updates.others after here
    rw [eq_of_key_eq before present (key.trans key'.symm), active] at inactive
    cases inactive

variable [DecidableEq Id]

theorem wp_updateUser {ids : Nat → Uuid} {tx : Tx (effects Id) Db} (actorId : Id) :
    wp (engine Id (.tenantUser (value tenantId))) ids ⟨fun _ _ => True, fun _ _ => True⟩
      (updateUser id dto tenantId actorId)
      (fun _ after => Updates tx.db id tenantId dto after.db) (fun _ _ => ∀ db',
        ¬Updates tx.db id tenantId dto db') tx := by
  unfold updateUser findUser
  simp only [wp_bind, wp_visible]
  refine wp_orThrow ?_ ?_
  · intro user found
    obtain ⟨visible, matched⟩ := findOne_some found
    simp only [beq_iff_eq] at matched
    obtain ⟨member, own⟩ := mem_seen_users.mp visible
    have single : ∀ {db'}, Updates tx.db id tenantId dto db' → canonical user.tenantId = tenantId ∧
      dto.nullsColumn = false ∧
        (Write.updateUser user.id (changedColumns user (assignUser user dto))).apply (.tenantUser
            (value tenantId)) tx.db = some db' := by
      intro db' updates
      obtain ⟨other, present, key, tenant, columns, applied⟩ := updates
      have whole : other = user := eq_of_key_eq present member (key.trans matched.symm)
      subst whole
      exact ⟨tenant, columns, applied⟩
    rw [wp_bind]
    refine wp_refuseIf ?_ ?_
    · intro here
      rw [wp_bind]
      refine wp_refuseIf ?_ ?_
      · intro columns
        unfold saveUser
        simp only [wp_bind, wp_visible]
        have again : (shown (.tenantUser (value tenantId)) tx.db).users.findOne (fun row =>
            row.id == (assignUser user dto).id) = some user := by
          refine findOne_of_mem visible ?_ ?_
          · simp [assignUser]
          · intro other same
            have equal : other.id = user.id := by simpa [assignUser] using same
            exact equal
        rw [again]
        refine wp_persist_cases trivial ?_ ?_
        · intro db' applied
          exact ⟨user, member, matched, by simpa using here, columns, applied⟩
        · intro refused db' updates
          have accepted := (single updates).2.2
          have same : (assignUser user dto).id = user.id := rfl
          rw [same, accepted] at refused
          cases refused
      · intro nulls db' updates
        rw [(single updates).2.1] at nulls
        cases nulls
    · intro foreign db' updates
      rw [(single updates).1] at foreign
      simp at foreign
  · intro missing db' updates
    obtain ⟨user, member, key, tenant, _⟩ := updates
    have visible : user ∈ (shown (.tenantUser (value tenantId)) tx.db).users :=
      mem_seen_users.mpr ⟨member, by rw [← tenant, value_canonical]⟩
    have absent := findOne_none.mp missing user visible
    simp [key] at absent

/-- The update is made, or nothing happens. -/
theorem serve_updateUser (env : Environment) (user : TenantPrincipal Id) (ids : Nat → Uuid)
    (id : Id) (dto : UpdateUserDto Id) (db : Db) :
    Updates db id user.tenantId dto
        (serve (engine Id (.tenantUser (value user.tenantId))) ids
          ((Route.updateUser id dto).handler env user) db).db ∨
      (∀ db', ¬Updates db id user.tenantId dto db') ∧
        (serve (engine Id (.tenantUser (value user.tenantId))) ids
          ((Route.updateUser id dto).handler env user) db).db = db := by
  have silent : Sends (fun _ : Write => True) (fun _ => False)
    ((Route.updateUser id dto).handler env user) :=
    sends_bind (sends_updateUser id dto _ _ (fun _ => trivial) fun _ _ => trivial) fun _ => trivial
  have holds : wp (engine Id (.tenantUser (value user.tenantId))) ids ⟨fun _ _ => True, fun _ _ => True⟩
      ((Route.updateUser id dto).handler env user) (fun _ after =>
        Updates db id user.tenantId dto after.db)
      (fun _ _ => ∀ db', ¬Updates db id user.tenantId dto db') { db } := by
    simp only [Route.handler, Operation.handler, wp_bind]
    exact wp_updateUser user.sub
  have ended := serve_post holds
  cases result :
      (serve (engine Id (.tenantUser (value user.tenantId))) ids
      ((Route.updateUser id dto).handler env user) db).result with
  | ok _ =>
    rw [result] at ended
    refine .inl ?_
    rw [ended.2]
    exact ended.1
  | error error =>
    rw [result] at ended
    exact .inr ⟨ended.1, serve_undone (sends_wp silent { db }) (fun impossible => impossible) result⟩

end Update

/-! Runs. -/

/-- Tokens stay usable until they expire, so nothing is asked of the caller's account.
What a super admin does is left open. -/
inductive Step (Id : Type) where
  | tenantRequest (request : Request Id)
  | superAdminRequest (change : Db → Db)

section Runs
variable [DecidableEq Id] {env : Environment}

def Step.next (env : Environment) : Step Id → Db → Db
  | .tenantRequest request, db => (request.serve env db).2
  | .superAdminRequest change, db => change db

def Step.ByUserManager : Step Id → Prop
  | .tenantRequest request => request.granted "user.write" = true
  | .superAdminRequest _ => True

/-- No flag is set again but by a user manager. -/
def Step.Authorised (env : Environment) (step : Step Id) (db : Db) : Prop :=
  ∀ userId, Reactivated db (step.next env db) userId → step.ByUserManager

/-- A user without `user.write` whose account is not active sends an update of it with
`is_active` set, and nothing is wrong with the rest of the body. -/
def Step.ReactivatesSelf : Step Id → Db → Prop
  | .tenantRequest request, db =>
    request.user.identityType = .USER ∧ request.granted "user.write" = false ∧
      ∃ dto, request.route = .updateUser request.user.sub dto ∧ dto.isActive = .value true ∧
        (∃ user ∈ db.users, user.id = value request.user.sub ∧ user.isActive = false) ∧
          ∃ db', Updates db request.user.sub request.user.tenantId dto db'
  | .superAdminRequest _, _ => False

omit [Identifier Id] in
theorem guards_ownUpdate {request : Request Id} (user : request.user.identityType = .USER)
    {dto : UpdateUserDto Id} (own : request.route = .updateUser request.user.sub dto) :
    request.guards = .ok () := by
  simp [Request.guards, own, Route.identityTypes, Route.requiredPermissions, Route.selfCheck,
    identityTypeGuard, iamPermissionGuard,
    TenantPrincipal.payload, user, bind, Except.bind]

omit [Identifier Id] in
theorem user_of_guards {request : Request Id} (admitted : request.guards = .ok ()) {id : Id}
    {dto : UpdateUserDto Id} (update : request.route = .updateUser id dto) :
    request.user.identityType = .USER := by
  unfold Request.guards at admitted
  rw [update] at admitted
  have ordinary := request.user.ordinary
  cases type : request.user.identityType with
  | USER => rfl
  | SUPER_ADMIN => exact absurd type ordinary
  | IMPERSONATION =>
    simp [Route.identityTypes, identityTypeGuard, TenantPrincipal.payload, type, bind,
      Except.bind] at admitted

/-- A request that reaches the users and sets a flag again is an update of a user, or
has been granted `user.write`. -/
theorem update_of_reactivated {request : Request Id} {db : Db} {userId : Uuid}
    (admitted : request.guards = .ok ())
    (reactivated : Reactivated db (request.serve env db).2 userId) :
    request.granted "user.write" = true ∨ ∃ id dto, request.route = .updateUser id dto := by
  have frame := sameBut_serve env request db
  by_cases reached : Relation.users ∈ request.route.changes
  · have granted : "user.write" ∈ request.route.requiredPermissions →
      request.granted "user.write" = true :=
      request.granted_of_guards admitted
    cases route : request.route with
    | updateUser id dto => exact .inr ⟨id, dto, rfl⟩
    | createUser dto | updateStatus id isActive =>
      rw [route] at granted
      exact .inl (granted (by simp [Route.requiredPermissions]))
    | _ =>
      rw [route] at reached
      simp [Route.changes] at reached
  · exact absurd reactivated (not_reactivated (frame.users reached))

/-- One step. -/
theorem authorised_iff (step : Step Id) (db : Db) :
    step.Authorised env db ↔ ¬step.ReactivatesSelf db := by
  cases step with
  | superAdminRequest change => exact ⟨fun _ impossible => impossible, fun _ _ _ => trivial⟩
  | tenantRequest request =>
    constructor
    · intro authorised itself
      obtain ⟨type, denied, dto, own, set, ⟨user, member, same, inactive⟩, _, updates⟩ := itself
      have admitted := guards_ownUpdate type own
      have reactivated : Reactivated db (request.serve env db).2 (value request.user.sub) := by
        refine ⟨⟨user, member, same, inactive⟩, assignUser user dto, ?_, same, ?_⟩
        · rw [Request.serve_admitted admitted, own]
          rcases serve_updateUser env request.user request.ids request.user.sub dto
            db with went | ⟨never, _⟩
          · exact went.row member same
          · exact absurd updates (never _)
        · simp [assignUser, set, Given.over]
      have granted : request.granted "user.write" = true := authorised _ reactivated
      rw [denied] at granted
      cases granted
    · intro harmless userId reactivated
      cases answer : request.granted "user.write" with
      | true => exact answer
      | false =>
        cases admitted : request.guards with
        | error refused =>
          simp only [Step.next] at reactivated
          rw [Request.serve_refused admitted] at reactivated
          exact absurd reactivated (not_reactivated rfl)
        | ok _ =>
          rcases update_of_reactivated admitted reactivated with granted | ⟨id, dto, route⟩
          · rw [answer] at granted
            cases granted
          · rcases request.own_of_guards admitted route with own | granted
            · subst own
              simp only [Step.next] at reactivated
              rw [Request.serve_admitted admitted, route] at reactivated
              rcases serve_updateUser env request.user request.ids request.user.sub dto
                db with went | ⟨_, kept⟩
              · obtain ⟨set, inactive⟩ := went.reactivates reactivated
                exact absurd ⟨user_of_guards admitted route, answer, dto, route, set,
                  inactive, _, went⟩ harmless
              · exact absurd reactivated (not_reactivated (by rw [kept]))
            · rw [answer] at granted
              cases granted

/-- In a run every flag is set again by a user manager exactly when no step of it is a
user who reactivates the own account. -/
theorem reactivations_authorised_iff (db : Db) (steps : List (Step Id)) :
    EveryStep (Step.next env) (Step.Authorised env) db steps ↔
      EveryStep (Step.next env) (fun step db => ¬step.ReactivatesSelf db) db steps :=
  everyStep_congr authorised_iff

end Runs

/-! An office in which Ada, the admin, may manage users, and Bob may do nothing. -/

section Example

def countedFrom (start : Nat) (index : Nat) : Uuid := BitVec.ofNat 128 (start + index)

def seeded : Db :=
  (run (engine Uuid .bypassRls) (countedFrom 11)
    (seedRoles (fun _ => 0) [⟨"Tenant Admin", "Manages the users", ["user.write"]⟩])
    { db := (run (engine Uuid .bypassRls) (countedFrom 1) (seedPermissions ["user.write"]) { db :=
      {} }).2.db }).2.db

def founded : Db :=
  (serve (engine Uuid .bypassRls) (countedFrom 21)
    (createTenantWithAdmin plainEnvironment.hashPassword ⟨"Acme", "acme", none, "ada@acme.io", "secret",
      "Ada", "Ames"⟩ 9) seeded).db

def office : Db :=
  (serve (engine Uuid (.tenantUser 21)) (countedFrom 31)
    ((Operation.createUser ⟨"bob@acme.io", "hidden", "Bob", "Bell", none,
      none⟩ : Operation Uuid).handler plainEnvironment 21 22) founded).db

theorem office_reachable : Reachable office :=
  .requested plainEnvironment _ 21 22 trivial
    (.tenantCreated plainEnvironment _ _ 9
      (.rolesSeeded _ _ _ (.permissionsSeeded _ _ (.empty .empty))))

def request (sub : Uuid) (db : Db) (route : Route Uuid) : Request Uuid where
  user := ⟨sub, 21, .USER, by decide⟩
  granted permission := decision db 0 ⟨sub, 21, permission, none, none⟩
  route := route
  ids := countedFrom 41

def deactivation : Step Uuid := .tenantRequest (request 22 office (.updateStatus 31 false))

def bobGone : Db := deactivation.next plainEnvironment office

def reactivation : Step Uuid :=
  .tenantRequest (request 31 bobGone (.updateUser 31 { isActive := .value true }))

/-- Bob is deactivated and reactivates himself. -/
theorem self_reactivated : Reachable office ∧ deactivation.Authorised plainEnvironment office ∧
    Reactivated bobGone (reactivation.next plainEnvironment bobGone) 31 ∧
      ¬EveryStep (Step.next plainEnvironment) (Step.Authorised plainEnvironment) office [deactivation,
        reactivation] := by
  have granted : (request 22 office (.updateStatus 31 false)).granted "user.write" = true := by decide
  have denied :
    ¬(request 31 bobGone (.updateUser 31 { isActive := .value true })).granted "user.write" = true := by
    decide
  have inactive : ∃ user ∈ bobGone.users.rows, user.id = 31 ∧ user.isActive = false := by decide
  have active : ∃ user ∈ (reactivation.next plainEnvironment bobGone).users.rows, user.id = 31 ∧
    user.isActive = true := by decide
  refine ⟨office_reachable, fun _ _ => granted, ⟨inactive, active⟩, ?_⟩
  intro every
  exact denied (every.2.1 31 ⟨inactive, active⟩)

end Example
end GenericIam.Reactivation
