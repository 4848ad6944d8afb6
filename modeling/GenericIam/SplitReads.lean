import Mathlib.Data.List.Infix
import GenericIam.Coherence
import GenericIam.Controllers
import GenericIam.Runs

/-! The permissions of a user are put together from three reads, and requests are committed
between them. What is returned need not be what the user had at any moment. -/

namespace GenericIam.SplitReads
open Table Database Identifiers EffectivePermissions Controllers Runs Operations

variable {Id : Type} [Identifier Id] [DecidableEq Id]

/-! The computation, one read after the other. -/

/-- The arguments of `getEffectivePermissions`, and the date that `getUserRoles` compares with. -/
structure Lookup where
  userId : Uuid
  tenantId : Uuid
  now : Time

inductive Reading where
  | userRoles
  | rolePermissions (roleIds : List Uuid)
  | overrides (rolePermissions : List PermissionEntity)
  | returned (permissions : List PermissionEntity)
  deriving DecidableEq

def Lookup.read (lookup : Lookup) (db : Db) : Reading → Reading
  | .userRoles =>
      let activeRoles := getUserRoles db lookup.now lookup.userId lookup.tenantId
      .rolePermissions (activeRoles.map (·.roleId))
  | .rolePermissions roleIds => .overrides (rolePermissionsOf db roleIds)
  | .overrides rolePermissions =>
      let overrides := getOverridesForUser db lookup.userId lookup.tenantId
      .returned (combine rolePermissions (grantsOf db overrides) (denyIdsOf overrides))
  | .returned permissions => .returned permissions

def Lookup.effective (lookup : Lookup) (db : Db) : List PermissionEntity :=
  getEffectivePermissions db lookup.now lookup.userId lookup.tenantId

/-- The assignments of one state, the mappings of another and the overrides of a third. -/
def Lookup.composed (lookup : Lookup) (assigned mapped overridden : Db) : List PermissionEntity :=
  let overrides := getOverridesForUser overridden lookup.userId lookup.tenantId
  combine (rolePermissionsOf mapped
    ((getUserRoles assigned lookup.now lookup.userId lookup.tenantId).map (·.roleId)))
    (grantsOf overridden overrides) (denyIdsOf overrides)

theorem composed_self (lookup : Lookup) (db : Db) :
    lookup.composed db db db = lookup.effective db := rfl

/-- Each of the three states counts for its own table. -/
theorem composed_congr {lookup : Lookup} {assigned mapped overridden db : Db}
    (userRoles : assigned.userRoles = db.userRoles)
    (rolePermissions : mapped.rolePermissions = db.rolePermissions)
    (overrides : overridden.userPermissionOverrides = db.userPermissionOverrides)
    (catalogue : mapped.permissions = db.permissions)
    (catalogue' : overridden.permissions = db.permissions) :
    lookup.composed assigned mapped overridden = lookup.effective db := by
  have assignments : getUserRoles assigned lookup.now lookup.userId lookup.tenantId =
      getUserRoles db lookup.now lookup.userId lookup.tenantId := by
    unfold getUserRoles
    rw [userRoles]
  have mappings : ∀ roleIds, rolePermissionsOf mapped roleIds = rolePermissionsOf db roleIds := by
    intro roleIds
    unfold rolePermissionsOf
    rw [rolePermissions, catalogue]
  have own : getOverridesForUser overridden lookup.userId lookup.tenantId =
      getOverridesForUser db lookup.userId lookup.tenantId := by
    unfold getOverridesForUser
    rw [overrides]
  have granted : ∀ overrides, grantsOf overridden overrides = grantsOf db overrides := by
    intro overrides
    have relation : overridePermission overridden = overridePermission db := by
      funext o
      unfold overridePermission
      rw [catalogue']
    unfold grantsOf
    rw [relation]
  simp only [← composed_self, Lookup.composed, assignments, mappings, own, granted]

/-! Requests that are committed between the reads. -/

def commit (env : Environment) (request : Request Id) (db : Db) : Db := (request.serve env db).2

abbrev commits (env : Environment) (db : Db) (requests : List (Request Id)) : Db :=
  final (commit env) db requests

/-- A computation among requests: the state committed last and where the computation stands. -/
abbrev interleaved (env : Environment) (lookup : Lookup) (db : Db)
    (turns : List (Turn (Request Id))) : Db × Reading :=
  final (Turn.play (commit env) lookup.read) (db, .userRoles) turns

def Untouched (relation : Relation) (requests : List (Request Id)) : Prop :=
  ∀ request ∈ requests, relation ∉ request.route.changes

omit [Identifier Id] [DecidableEq Id] in
theorem permissions_unchanged (route : Route Id) : .permissions ∉ route.changes := by
  cases route <;> simp [Route.changes]

section Kept
variable {env : Environment} {db : Db} {requests : List (Request Id)}

theorem commits_permissions : (commits env db requests).permissions = db.permissions :=
  final_keeps (fun request _ state =>
    (sameBut_serve env request state).permissions (permissions_unchanged request.route)) db

theorem commits_userRoles (untouched : Untouched .userRoles requests) :
    (commits env db requests).userRoles = db.userRoles :=
  final_keeps (fun request member state =>
    (sameBut_serve env request state).userRoles (untouched request member)) db

theorem commits_rolePermissions (untouched : Untouched .rolePermissions requests) :
    (commits env db requests).rolePermissions = db.rolePermissions :=
  final_keeps (fun request member state =>
    (sameBut_serve env request state).rolePermissions (untouched request member)) db

theorem commits_overrides (untouched : Untouched .userPermissionOverrides requests) :
    (commits env db requests).userPermissionOverrides = db.userPermissionOverrides :=
  final_keeps (fun request member state =>
    (sameBut_serve env request state).userPermissionOverrides (untouched request member)) db

end Kept

/-! Where the reads lie. -/

/-- The computation is over: the requests before the first read, up to the second and up to the third. -/
structure Reads (env : Environment) (lookup : Lookup) (db : Db) (turns : List (Turn (Request Id)))
    (permissions : List PermissionEntity)
    (early first second : List (Request Id)) : Prop where
  order : ∃ rest,
    turns = early.map .takes ++
    .looks :: (first.map .takes ++ .looks :: (second.map .takes ++ .looks :: rest))
  answer : permissions =
    lookup.composed (commits env db early) (commits env (commits env db early) first)
    (commits env (commits env (commits env db early) first) second)

theorem returned_stays (env : Environment) (lookup : Lookup) (db : Db)
    (permissions : List PermissionEntity) (turns : List (Turn (Request Id))) :
    (final (Turn.play (commit env) lookup.read) (db, .returned permissions) turns).2 =
      .returned permissions := by
  induction turns generalizing db with
  | nil => rfl
  | cons turn rest ih =>
    cases turn with
    | takes request => exact ih _
    | looks => exact ih _

/-- Whoever has not returned yet reads once more. -/
theorem next_read {env : Environment} {lookup : Lookup} {db : Db} (reading : Reading)
    {turns : List (Turn (Request Id))} {permissions : List PermissionEntity}
    (waiting : reading ≠ .returned permissions)
    (returned : (final (Turn.play (commit env) lookup.read) (db, reading) turns).2 =
      .returned permissions) :
    ∃ (requests : List (Request Id)) (rest : List (Turn (Request Id))),
      turns = requests.map .takes ++ .looks :: rest ∧
      (final (Turn.play (commit env) lookup.read)
        (commits env db requests, lookup.read (commits env db requests) reading) rest).2 =
        .returned permissions := by
  have learnt : (final (Turn.play (commit env) lookup.read) (db, reading) turns).2 ≠ reading := by
    rw [returned]
    exact waiting.symm
  obtain ⟨requests, rest, order, same⟩ := first_look learnt
  rw [same] at returned
  exact ⟨requests, rest, order, returned⟩

theorem reads_of_returned {env : Environment} {lookup : Lookup} {db : Db}
    {turns : List (Turn (Request Id))} {permissions : List PermissionEntity}
    (returned : (interleaved env lookup db turns).2 = .returned permissions) :
    ∃ early first second, Reads env lookup db turns permissions early first second := by
  obtain ⟨early, afterFirst, rfl, atRoles⟩ := next_read .userRoles nofun returned
  obtain ⟨first, afterSecond, rfl, atMappings⟩ := next_read (.rolePermissions _) nofun atRoles
  obtain ⟨second, rest, rfl, atOverrides⟩ := next_read (.overrides _) nofun atMappings
  refine ⟨early, first, second, ⟨rest, rfl⟩, ?_⟩
  have answer := (returned_stays env lookup _ _ rest).symm.trans atOverrides
  exact (Reading.returned.inj answer).symm

/-! One moment for all three reads. -/

/-- The requests between a moment and the second read, where the moment lies between the first
read and the third. -/
inductive Between (first second : List (Request Id)) :
    (passed pending between : List (Request Id)) → Prop where
  | earlier {passed between : List (Request Id)} (split : first = passed ++ between) :
      Between first second passed (between ++ second) between
  | later {between pending : List (Request Id)} (split : second = between ++ pending) :
      Between first second (first ++ between) pending between

section Moment
variable {env : Environment} {lookup : Lookup} {db : Db} {turns : List (Turn (Request Id))}
  {permissions : List PermissionEntity}
  {early first second passed pending between : List (Request Id)}

/-- The answer is the set of a moment up to which no assignment changes after the first read,
between which and the second read no mapping changes, and from which on no override changes
before the third read. -/
theorem Reads.moment (reads : Reads env lookup db turns permissions early first second)
    (split : Between first second passed pending between)
    (assignments : Untouched .userRoles passed) (mappings : Untouched .rolePermissions between)
    (overrides : Untouched .userPermissionOverrides pending) :
    permissions = lookup.effective (commits env (commits env db early) passed) := by
  have moved : ∀ (state : Db) (sooner later : List (Request Id)),
      commits env (commits env state sooner) later = commits env state (sooner ++ later) :=
    fun _ _ _ => (final_append _ _ _).symm
  refine reads.answer.trans ?_
  cases split with
  | earlier split =>
    rw [split, ← moved, moved _ between]
    apply composed_congr
    · exact (commits_userRoles assignments).symm
    · exact commits_rolePermissions mappings
    · exact commits_overrides overrides
    · exact commits_permissions
    · exact commits_permissions
  | later split =>
    rw [split, ← moved, ← moved]
    apply composed_congr
    · rw [moved]
      exact (commits_userRoles assignments).symm
    · exact (commits_rolePermissions mappings).symm
    · exact commits_overrides overrides
    · exact commits_permissions.symm
    · exact commits_permissions

def readTables : List Relation := [.userRoles, .rolePermissions, .userPermissionOverrides]

def OneKind (requests : List (Request Id)) : Prop :=
  ∃ kind, ∀ request ∈ requests, ∀ relation ∈ readTables,
    relation ∈ request.route.changes → relation = kind

omit [Identifier Id] [DecidableEq Id] in
theorem untouched_of_kind {kind relation : Relation} {requests : List (Request Id)}
    (all : ∀ request ∈ requests, ∀ relation ∈ readTables,
      relation ∈ request.route.changes → relation = kind)
    (read : relation ∈ readTables) (other : relation ≠ kind) : Untouched relation requests :=
  fun request member touched => other (all request member relation read touched)

theorem Reads.of_oneKind (reads : Reads env lookup db turns permissions early first second)
    (same : OneKind (first ++ second)) :
    ∃ passed pending, first ++ second = passed ++ pending ∧
      permissions = lookup.effective (commits env (commits env db early) passed) := by
  obtain ⟨kind, all⟩ := same
  have calm : ∀ {relation}, relation ∈ readTables → relation ≠ kind →
    Untouched relation (first ++ second) := untouched_of_kind all
  have sooner : ∀ {relation}, Untouched relation (first ++ second) → Untouched relation first :=
    fun untouched request member => untouched request (List.mem_append_left _ member)
  have later : ∀ {relation}, Untouched relation (first ++ second) → Untouched relation second :=
    fun untouched request member => untouched request (List.mem_append_right _ member)
  have nobody : ∀ {relation}, Untouched relation ([] : List (Request Id)) := fun _ impossible =>
    nomatch impossible
  -- changes of assignments alone, of mappings alone and of overrides alone leave the first,
  -- the second and the third read where they are
  by_cases assignments : Relation.userRoles = kind
  · subst assignments
    refine ⟨[], first ++ second, rfl,
      reads.moment (.earlier rfl) nobody (sooner (calm (by decide) nofun)) (calm (by decide) nofun)⟩
  · by_cases mappings : Relation.rolePermissions = kind
    · subst mappings
      exact ⟨first, second, rfl,
        reads.moment (.earlier (List.append_nil _).symm) (sooner (calm (by decide) nofun)) nobody
        (later (calm (by decide) nofun))⟩
    · refine ⟨first ++ second, [], (List.append_nil _).symm,
        reads.moment (.later (List.append_nil _).symm) ?_ ?_ nobody⟩
      · exact calm (by decide) assignments
      · exact later (calm (by decide) mappings)

/-- What is returned consists of the assignments of the first read, the mappings of the second
and the overrides of the third. It is the set of one committed state wherever one moment suits
all three, and so between requests of one kind. -/
theorem effective_at_one_moment
    (returned : (interleaved env lookup db turns).2 = .returned permissions) :
    ∃ early first second, Reads env lookup db turns permissions early first second ∧
      (∀ passed pending between, Between first second passed pending between →
        Untouched .userRoles passed →
        Untouched .rolePermissions between → Untouched .userPermissionOverrides pending →
          permissions = lookup.effective (commits env (commits env db early) passed)) ∧
      (OneKind (first ++ second) → ∃ passed pending, first ++ second = passed ++ pending ∧
        permissions = lookup.effective (commits env (commits env db early) passed)) := by
  obtain ⟨early, first, second, reads⟩ := reads_of_returned returned
  exact ⟨early, first, second, reads, fun _ _ _ => reads.moment, reads.of_oneKind⟩

end Moment

/-! A denied permission that is granted for a moment in which nobody has it. -/

section Example
open Coherence (plainEnvironment)

def Mutates : Route Id → Prop
  | .assignPermissions _ _ | .updateUserRoles _ _ | .addOverride _ _ | .removeOverride _ _ => True
  | _ => False

def SeesOneState (Id : Type) [Identifier Id] [DecidableEq Id] : Prop :=
  ∀ (env : Environment) (lookup : Lookup) (db : Db) (turns : List (Turn (Request Id)))
    (permissions : List PermissionEntity),
    (∀ request, .takes request ∈ turns → Mutates request.route) →
      (interleaved env lookup db turns).2 = .returned permissions →
      ∃ sofar, sofar <+: turns ∧ ∀ p, p ∈ permissions ↔
        p ∈ lookup.effective (interleaved env lookup db sofar).1

def guarded : Db where
  tenants := ⟨[⟨1, "Cove", "cove", true, none⟩], by decide⟩
  users := ⟨[⟨5, 1, "ann@cove.io", "pass", "Ann", "Lee", true, none⟩], by decide⟩
  permissions :=
    ⟨[⟨61, "ledger.write", "ledger", none, none⟩, ⟨62, "ledger.read", "ledger", none, none⟩], by decide⟩
  roles := ⟨[{ id := 21, tenantId := some 1, name := "Bookkeeper" }], by decide⟩
  rolePermissions := ⟨[⟨33, 21, 61⟩], by decide⟩
  userRoles := ⟨[⟨31, 1, 5, 21, none⟩], by decide⟩
  userPermissionOverrides := ⟨[⟨71, 1, 5, 61, .deny, ""⟩], by decide⟩

theorem user_ordinary : Guards.IdentityType.USER ≠ .SUPER_ADMIN := by decide

def asked (route : Route Uuid) : Request Uuid :=
  ⟨⟨9, 1, .USER, user_ordinary⟩, fun _ => true, route, fun index => BitVec.ofNat 128 (81 + index)⟩

def annNow : Lookup := ⟨5, 1, 4⟩

/-- Ann loses the role after it has been read, and the denial before it is read. -/
def relief : List (Turn (Request Uuid)) :=
  [.looks, .looks, .takes (asked (.updateUserRoles 5 { remove := [21] })),
    .takes (asked (.removeOverride 5 71)), .looks]

theorem not_seesOneState : ¬SeesOneState Uuid := by
  intro sees
  have returned : (interleaved plainEnvironment annNow guarded relief).2 =
    .returned [⟨61, "ledger.write", "ledger", none, none⟩] := by decide
  have nowhere : ∀ sofar ∈ relief.inits,
    annNow.effective (interleaved plainEnvironment annNow guarded sofar).1 = [] := by decide
  obtain ⟨sofar, early, same⟩ :=
    sees plainEnvironment annNow guarded relief _ (by simp [relief, asked, Mutates]) returned
  have there := (same _).mp List.mem_cons_self
  rw [nowhere sofar ((List.mem_inits _ _).mpr early)] at there
  cases there

def promotion : List (Turn (Request Uuid)) :=
  [.looks, .takes (asked (.assignPermissions 21 { add := [.byId 62] })), .looks, .looks]

theorem promotion_at_one_moment : ∃ early first second,
    Reads plainEnvironment annNow guarded promotion
      [⟨62, "ledger.read", "ledger", none, none⟩] early first second ∧
      (OneKind (first ++ second) → ∃ passed pending, first ++ second = passed ++ pending ∧
        [⟨62, "ledger.read", "ledger", none, none⟩] =
          annNow.effective
            (commits plainEnvironment (commits plainEnvironment guarded early) passed)) := by
  obtain ⟨early, first, second, reads, _, single⟩ :=
    effective_at_one_moment (by decide : (interleaved plainEnvironment annNow guarded promotion).2 =
    .returned [⟨62, "ledger.read", "ledger", none, none⟩])
  exact ⟨early, first, second, reads, single⟩

end Example
end GenericIam.SplitReads
