import GenericIam.Coherence
import GenericIam.Runs

/-! Whether the rows of a tenant refer to users and roles of that tenant only. -/

namespace GenericIam.References
open Table Database Identifiers Transaction Handlers RbacServices
open AccountServices TenantWrites Operations Footprint Runs

/-- Every reference to a user stays within the tenant of the row, and every assigned role is
a system role or one of that tenant. -/
structure Enclosed (db : Db) : Prop where
  assignees : ∀ ur ∈ db.userRoles, UserOf db ur.tenantId ur.userId
  roles : ∀ ur ∈ db.userRoles, UsableRole db ur.tenantId ur.roleId
  overridden : ∀ o ∈ db.userPermissionOverrides, UserOf db o.tenantId o.userId
  listed : ∀ acl ∈ db.resourceAcls, UserOf db acl.tenantId acl.userId
  managers : ∀ user ∈ db.users, ∀ managerId, user.managerId = some managerId →
    UserOf db user.tenantId managerId

instance (db : Db) (tenantId userId : Uuid) : Decidable (UserOf db tenantId userId) := by
  unfold UserOf
  infer_instance

/-! One statement. -/

/-- What the statement stores refers to users of the tenant. A user who does not exist at all
is left to the foreign keys, which see the users of all tenants. -/
def RefersInside (db : Db) : Write → Prop
  | .insertUser row =>
    ∀ managerId, row.managerId = some managerId → db.hasUser managerId = true →
    UserOf db row.tenantId managerId
  | .updateUser id change =>
    ∀ managerId, change.managerId = some (some managerId) → db.hasUser managerId = true →
      ∀ user ∈ db.users, user.id = id → UserOf db user.tenantId managerId
  | .insertUserRole row => UserOf db row.tenantId row.userId
  | .insertOverride row => db.hasUser row.userId = true → UserOf db row.tenantId row.userId
  | .insertAcl row => db.hasUser row.userId = true → UserOf db row.tenantId row.userId
  | _ => True

section Statement
variable {session : Session} {db db' : Db} {write : Write}

theorem userOf_apply (applied : write.apply session db = some db') {tenantId userId : Uuid}
    (known : UserOf db tenantId userId) :
    UserOf db' tenantId userId := by
  obtain ⟨user, member, same, own⟩ := known
  obtain ⟨later, present, kept, keptTenant⟩ := users_kept applied member
  exact ⟨later, present, kept.trans same, keptTenant.trans own⟩

/-- The foreign key on the holder of an override has been checked. -/
theorem hasUser_of_insertOverride {row : UserPermissionOverrideEntity}
    (applied : (Write.insertOverride row).apply session db = some db') :
    db.hasUser row.userId = true := by
  simp only [Write.apply, Db.insertOverride] at applied
  split at applied
  · next accepted =>
    simp only [Bool.and_eq_true] at accepted
    exact accepted.1.1.1.2
  · cases applied

theorem hasUser_of_insertAcl {row : ResourceAclEntity}
    (applied : (Write.insertAcl row).apply session db = some db') :
    db.hasUser row.userId = true := by
  simp only [Write.apply, Db.insertAcl] at applied
  split at applied
  · next accepted =>
    simp only [Bool.and_eq_true] at accepted
    exact accepted.1.2
  · cases applied

theorem hasUser_of_insertUser {row : UserEntity} {managerId : Uuid}
    (given : row.managerId = some managerId)
    (applied : (Write.insertUser row).apply session db = some db') : db.hasUser managerId = true := by
  simp only [Write.apply, Db.insertUser, given, Option.all_some] at applied
  split at applied
  · split at applied
    · cases applied
    · next accepted =>
      simp only [Bool.or_eq_true, Bool.not_eq_true', Bool.and_eq_false_iff, not_or,
        Bool.not_eq_false] at accepted
      exact accepted.1.2
  · cases applied

theorem hasUser_of_updateUser {id : Uuid} {change : UserChange} {managerId : Uuid}
    (given : change.managerId = some (some managerId))
    (applied : (Write.updateUser id change).apply session db = some db') :
    db.hasUser managerId = true := by
  simp only [Write.apply, Db.updateUser, given, Option.getD_some, Option.all_some] at applied
  split at applied
  · cases applied
  · next accepted =>
    simp only [Bool.or_eq_true, Bool.not_eq_true', not_or, Bool.not_eq_false] at accepted
    exact accepted.1

/-- A statement adds no manager but the one that it names. -/
theorem managers_apply (enclosed : Enclosed db) (inside : RefersInside db write)
    (applied : write.apply session db = some db') :
    ∀ user ∈ db'.users, ∀ managerId, user.managerId = some managerId →
      UserOf db user.tenantId managerId := by
  have frame := sameBut_apply applied
  intro user present managerId manages
  cases write with
  | insertUser row =>
    have known := applied
    simp only [Write.apply] at applied
    split at applied
    · obtain ⟨_, inserted, rfl⟩ := insertUser_some applied
      rcases (mem_insert inserted).mp present with before | rfl
      · exact enclosed.managers user before managerId manages
      · exact inside managerId manages (hasUser_of_insertUser manages known)
    · cases applied
  | updateUser id change =>
    have known := applied
    cases updateUser_some applied
    rw [mem_modify] at present
    rcases present with ⟨before, _⟩ | ⟨old, before, hit, rfl⟩
    · exact enclosed.managers user before managerId manages
    · simp only [Bool.and_eq_true, beq_iff_eq] at hit
      simp only [UserChange.apply] at manages
      cases named : change.managerId with
      | none =>
        rw [named] at manages
        exact enclosed.managers old before managerId manages
      | some given =>
        rw [named] at manages
        have same : given = some managerId := manages
        subst same
        exact inside managerId named (hasUser_of_updateUser named known) old before hit.1
  | _ =>
    rw [frame.users (by simp [Write.changes])] at present
    exact enclosed.managers user present managerId manages

theorem enclosed_apply (enclosed : Enclosed db) (inside : RefersInside db write)
    (keeps : Keeps db write) (applied : write.apply session db = some db') : Enclosed db' where
  assignees := by
    intro ur assigned
    apply userOf_apply applied
    rcases mem_userRoles_apply applied assigned with ⟨old, before, same⟩ | rfl
    · rw [same]
      exact enclosed.assignees old before
    · exact inside
  roles := held_apply enclosed.roles keeps applied
  overridden := by
    intro o present
    apply userOf_apply applied
    rcases mem_overrides_apply applied present with ⟨old, before, same⟩ | rfl
    · rw [same]
      exact enclosed.overridden old before
    · exact inside (hasUser_of_insertOverride applied)
  listed := by
    intro acl present
    apply userOf_apply applied
    rcases mem_resourceAcls_apply applied present with before | rfl
    · exact enclosed.listed acl before
    · exact inside (hasUser_of_insertAcl applied)
  managers user present managerId manages :=
    userOf_apply applied (managers_apply enclosed inside applied user present managerId manages)

end Statement

/-! Requests. -/

/-- Whoever the scope names among the users there are belongs to the tenant. -/
def Acquainted (tenantId : Uuid) (scope : Scope) (db : Db) : Prop :=
  ∀ id, scope.names id → db.hasUser id = true → UserOf db tenantId id

section Request
variable {tenantId : Uuid} {scope : Scope} {session : Session} {db db' : Db} {write : Write}

/-- The users that a request of the tenant creates belong to it. -/
theorem acquainted_apply (acquainted : Acquainted tenantId scope db)
    (allowed : TenantWrite tenantId scope db write) (applied : write.apply session db = some db') :
    Acquainted tenantId scope db' := by
  intro id named known
  obtain ⟨user, present, same⟩ := any_iff.mp known
  rw [beq_iff_eq] at same
  rcases mem_users_apply applied present with ⟨old, before, kept, _⟩ | rfl
  · exact userOf_apply applied
      (acquainted id named (any_iff.mpr ⟨old, before, beq_iff_eq.mpr (kept.trans same)⟩))
  · exact ⟨user, present, same, allowed.1⟩

theorem refersInside_of_tenantWrite (acquainted : Acquainted tenantId scope db)
    (allowed : TenantWrite tenantId scope db write) :
    RefersInside db write := by
  cases write with
  | insertUser row =>
    intro managerId manages known
    rw [allowed.1]
    exact acquainted managerId (allowed.2 managerId manages) known
  | updateUser id change =>
    obtain ⟨⟨own, member, key, home⟩, named⟩ := allowed
    intro managerId manages known user present same
    have whole : user = own := eq_of_key_eq present member (same.trans key.symm)
    rw [whole, home]
    exact acquainted managerId (named managerId manages) known
  | insertUserRole row =>
    obtain ⟨own, known, _⟩ := allowed
    rw [← own] at known
    exact known
  | insertOverride row =>
    intro known
    rw [allowed.1]
    exact acquainted row.userId allowed.2 known
  | insertAcl row =>
    intro known
    rw [allowed.1]
    exact acquainted row.userId allowed.2.1 known
  | _ => trivial

variable {Id : Type} [Identifier Id] {ids : Nat → Uuid}

theorem enclosed_operation [DecidableEq Id] (env : Environment) (tenantId actorId : Id)
    {operation : Operation Id} (admissible : operation.Admissible) (enclosed : Enclosed db)
    (acquainted : Acquainted (value tenantId) operation.mentions db) :
    Enclosed (serve (engine Id (.tenantUser (value tenantId))) ids
      (operation.handler env tenantId actorId) db).db := by
  have both :
    Enclosed (serve (engine Id (.tenantUser (value tenantId))) ids
    (operation.handler env tenantId actorId) db).db ∧
      Acquainted (value tenantId) operation.mentions
        (serve (engine Id (.tenantUser (value tenantId))) ids
            (operation.handler env tenantId actorId) db).db := by
    refine @serve_invariant _ _ _ _ _ _ (fun during => Enclosed during ∧
      Acquainted (value tenantId) operation.mentions during) _ _ _ _
      (ensures_operation env actorId admissible rfl) ⟨enclosed, acquainted⟩ ?_ ?_
    · intro _ _ _ _ stmt _ before allowed applied
      have went := send_ok applied
      have inside := refersInside_of_tenantWrite before.2 allowed.1
      exact ⟨enclosed_apply before.1 inside (keeps_of_tenantWrite allowed.1) went,
        acquainted_apply before.2 allowed.1 went⟩
    · intro _ _ _ _ allowed before applied
      obtain ⟨_, rfl⟩ := detached_applied allowed applied
      exact ⟨⟨before.1.assignees, before.1.roles, before.1.overridden, before.1.listed,
        before.1.managers⟩, before.2⟩
  exact both.1

def enclosing (Id : Type) : Monitor (effects Id) Db :=
  ⟨fun db write => RefersInside db write ∧ Keeps db write, fun _ _ => False⟩

/-- A new tenant has an admin of its own, with a system role. -/
theorem encloses_createTenantWithAdmin (hashPassword : String → String) (dto : CreateTenantDto)
    (actorId : Id) {tx : Tx (effects Id) Db} :
    wp (engine Id .bypassRls) ids (enclosing Id) (createTenantWithAdmin hashPassword dto actorId)
      (fun _ _ => True) (fun _ _ => True) tx := by
  unfold createTenantWithAdmin
  simp only [wp_bind, wp_visible]
  refine wp_refuseIf ?_ fun _ => trivial
  intro _
  simp only [wp_bind, wp_newId]
  refine wp_persist ⟨trivial, trivial⟩ ?_ trivial
  intro _ _
  simp only [wp_bind, wp_newId]
  refine wp_persist ⟨fun _ none => (Option.some_ne_none _ none.symm).elim, trivial⟩ ?_ trivial
  intro after hired
  have admin : UserOf after (ids tx.generated) (ids (tx.generated + 1)) := by
    simp only [Write.apply] at hired
    split at hired
    · obtain ⟨_, inserted, rfl⟩ := insertUser_some hired
      exact ⟨_, (mem_insert inserted).mpr (.inr rfl), rfl, rfl⟩
    · cases hired
  simp only [wp_bind, wp_visible]
  split
  · trivial
  · next adminRole found =>
    obtain ⟨member, matched⟩ := findOne_some found
    simp only [Bool.and_eq_true, beq_iff_eq] at matched
    simp only [wp_bind, wp_newId]
    refine wp_persist ⟨admin, adminRole, (mem_select.mp member).1, rfl, .inl matched.2⟩ ?_ trivial
    intro _ _
    trivial

theorem enclosed_createTenantWithAdmin (hashPassword : String → String) (dto : CreateTenantDto)
    (actorId : Id) (enclosed : Enclosed db) :
    Enclosed (serve (engine Id .bypassRls) ids
      (createTenantWithAdmin hashPassword dto actorId) db).db := by
  apply serve_invariant (encloses_createTenantWithAdmin hashPassword dto actorId) enclosed
  · intro _ _ _ _ stmt _ before allowed applied
    exact enclosed_apply before allowed.1 allowed.2 (send_ok applied)
  · intro _ _ _ _ impossible
    exact impossible.elim

end Request

/-! Runs. -/

section Runs
variable {Id : Type}

inductive Step (Id : Type) where
  | createTenant (ids : Nat → Uuid) (dto : CreateTenantDto) (actorId : Id)
  | request (ids : Nat → Uuid) (tenantId actorId : Id) (operation : Operation Id)

variable [Identifier Id]

def Step.Admissible : Step Id → Prop
  | .createTenant _ _ _ => True
  | .request _ _ _ operation => operation.Admissible

/-- The request names a user of another tenant as the holder of an override or of an ACL
entry, or as a manager. -/
def Step.NamesOutsider : Step Id → Db → Prop
  | .createTenant _ _ _, _ => False
  | .request _ tenantId _ operation, db =>
      ∃ id, operation.mentions.names id ∧ db.hasUser id = true ∧ ¬UserOf db (value tenantId) id

variable [DecidableEq Id]

def Step.next (env : Environment) : Step Id → Db → Db
  | .createTenant ids dto actorId, db =>
    (serve (engine Id .bypassRls) ids (createTenantWithAdmin env.hashPassword dto actorId) db).db
  | .request ids tenantId actorId operation, db =>
      (serve (engine Id (.tenantUser (value tenantId))) ids
        (operation.handler env tenantId actorId) db).db

theorem enclosed_next (env : Environment) {step : Step Id} {db : Db} (admissible : step.Admissible)
    (inside : ¬step.NamesOutsider db) (enclosed : Enclosed db) : Enclosed (step.next env db) := by
  cases step with
  | createTenant ids dto actorId =>
    exact enclosed_createTenantWithAdmin env.hashPassword dto actorId enclosed
  | request ids tenantId actorId operation =>
    apply enclosed_operation env tenantId actorId admissible enclosed
    intro id named known
    by_contra outside
    exact inside ⟨id, named, known, outside⟩

/-- As long as no request names an outsider, no reference leaves its tenant, wherever the run
is broken off. -/
theorem enclosed_run (env : Environment) {db : Db} (start : Enclosed db) {steps : List (Step Id)}
    (admissible : ∀ step ∈ steps, step.Admissible)
    (calm : EveryStep (Step.next env) (fun step db => ¬step.NamesOutsider db) db steps) :
    ∀ taken, taken <+: steps → Enclosed (final (Step.next env) db taken) := by
  induction steps generalizing db with
  | nil =>
    intro taken early
    rw [List.prefix_nil.mp early]
    exact start
  | cons step rest ih =>
    intro taken early
    cases taken with
    | nil => exact start
    | cons first others =>
      obtain ⟨rfl, later⟩ := List.cons_prefix_cons.mp early
      have first := enclosed_next env (admissible _ List.mem_cons_self) calm.1 start
      exact ih first (fun other member =>
        admissible other (List.mem_cons_of_mem _ member)) calm.2 others later

end Runs

/-! Two tenants, Acme with Ada and Beta with Bob. -/

section Example
open Coherence (plainEnvironment)

def numbered (start index : Nat) : Uuid := BitVec.ofNat 128 (start + index)

def foundings : List (Step Uuid) :=
  [.createTenant (numbered 10) ⟨"Acme", "acme", none, "ada@acme.io", "secret", "Ada", "Ames"⟩ 9,
    .createTenant (numbered 20) ⟨"Beta", "beta", none, "bob@beta.io", "hidden", "Bob", "Bell"⟩ 9]

/-- Ada of Acme gives the user a document, and hires somebody who reports to the user. -/
def sharing (userId : Uuid) : List (Step Uuid) :=
  foundings ++ [.request (numbered 30) 10 11 (.createAcl ⟨userId, "doc", "7", "doc:read"⟩),
    .request (numbered 40) 10 11
      (.createUser ⟨"cy@acme.io", "covert", "Cy", "Cole", some userId, none⟩)]

theorem enclosed_empty : Enclosed {} := by
  constructor <;> simp

/-- Acme's entry is Bob's, and so is Acme's new user. -/
theorem outsider_referenced : Enclosed {} ∧ (∀ step ∈ sharing 21, step.Admissible) ∧
    ¬Enclosed (final (Step.next plainEnvironment) {} (sharing 21)) := by
  refine ⟨enclosed_empty, ?_, ?_⟩
  · simp [sharing, foundings, Step.Admissible, Operation.Admissible, NonEmpty]
  · intro enclosed
    have outside : ¬∀ acl ∈ (final (Step.next plainEnvironment) {} (sharing 21)).resourceAcls,
        UserOf (final (Step.next plainEnvironment) {} (sharing 21)) acl.tenantId acl.userId := by decide
    exact outside enclosed.listed

theorem enclosed_sharing : Enclosed (final (Step.next plainEnvironment) {} (sharing 11)) := by
  have admissible : ∀ step ∈ sharing 11, step.Admissible := by
    simp [sharing, foundings, Step.Admissible, Operation.Admissible, NonEmpty]
  have calm : EveryStep (Step.next plainEnvironment) (fun step db => ¬step.NamesOutsider db) {}
      (sharing 11) := by
    refine ⟨id, id, ?_, ?_, trivial⟩
    · intro names
      obtain ⟨id, named, _, outside⟩ := names
      have same : id = 11 := named
      subst same
      exact outside (by decide)
    · intro names
      obtain ⟨id, named, _, outside⟩ := names
      obtain ⟨managerId, given, same⟩ := named
      cases given
      subst same
      exact outside (by decide)
  exact enclosed_run plainEnvironment enclosed_empty admissible calm (sharing 11) List.prefix_rfl

end Example
end GenericIam.References
