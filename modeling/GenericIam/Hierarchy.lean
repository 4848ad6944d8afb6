import GenericIam.RecursiveQuery
import GenericIam.Coherence
import Mathlib.Data.List.Perm.Subperm

/-! The reporting query: whom it returns, and when it returns at all. -/

namespace GenericIam.Hierarchy
open Table Database Identifiers RecursiveQuery Transaction
open Handlers TenantWrites Operations ReachableStates
open Coherence (plainEnvironment acmeTenant)

structure Subordinate where
  id : Uuid
  firstName : String
  lastName : String
  email : String
  managerId : Option Uuid
  level : Nat
  deriving DecidableEq

def subordinate (level : Nat) (user : UserEntity) : Subordinate :=
  ⟨user.id, user.firstName, user.lastName, user.email, user.managerId, level⟩

def anchor (db : Db) (userId tenantId : Uuid) : List Subordinate :=
  (db.users.find fun u => u.id == userId && u.tenantId == tenantId).map (subordinate 1)

/-- The rows behind it: the users of the tenant who report to a row of the working table. -/
def reports (db : Db) (tenantId : Uuid) (working : List Subordinate) : List Subordinate :=
  working.flatMap fun s =>
    (db.users.find fun u => u.managerId == some s.id && u.tenantId == tenantId).map
      (subordinate (s.level + 1))

def inOrder (collate : String → String → Bool) (first second : Subordinate) : Bool :=
  first.level < second.level || first.level == second.level && collate first.firstName second.firstName

/-- `UserService.getHierarchy`, over the default connection; `none` while the query runs. -/
def getHierarchy {Id : Type} [Identifier Id] (collate : String → String → Bool) (db : Db)
    (fuel : Nat) (userId tenantId : Id) :
    Option (List Subordinate) :=
  (evaluate (reports db (value tenantId)) fuel (anchor db (value userId) (value tenantId))).map fun rows =>
    rows.mergeSort (inOrder collate)

/-! The reporting chains. -/

/-- A user of the tenant from whom so many steps from report to manager lead to the
given user without leaving the tenant. -/
inductive Below (db : Db) (userId tenantId : Uuid) : Nat → UserEntity → Prop where
  | self {user : UserEntity} (member : user ∈ db.users) (same : user.id = userId)
      (own : user.tenantId = tenantId) :
      Below db userId tenantId 0 user
  | report {distance : Nat} {manager user : UserEntity}
      (above : Below db userId tenantId distance manager)
      (member : user ∈ db.users) (own : user.tenantId = tenantId)
        (managed : user.managerId = some manager.id) :
      Below db userId tenantId (distance + 1) user

/-- The chain of managers above the user comes back to the user. -/
def ManagesSelf (db : Db) (userId tenantId : Uuid) : Prop :=
  ∃ distance user, user.id = userId ∧ Below db userId tenantId (distance + 1) user

section Chains
variable {db : Db} {userId tenantId : Uuid}

theorem Below.member {distance : Nat} {user : UserEntity}
    (below : Below db userId tenantId distance user) : user ∈ db.users := by
  cases below with
  | self member _ _ => exact member
  | report _ member _ _ => exact member

/-- Of two chains from one user, the longer one goes on from the given user. -/
theorem Below.cancel {distance more : Nat} {user : UserEntity}
    (short : Below db userId tenantId distance user)
    (long : Below db userId tenantId (distance + more) user) :
    ∃ top, top.id = userId ∧ Below db userId tenantId more top := by
  induction short with
  | @self user member same own => exact ⟨user, same, by simpa using long⟩
  | @report distance manager user above member own managed ih =>
    rw [Nat.add_right_comm] at long
    cases long with
    | @report _ other _ above' _ _ managed' =>
      have key : manager.id = other.id := Option.some.inj (managed.symm.trans managed')
      have whole : manager = other := eq_of_key_eq above.member above'.member key
      subst whole
      exact ih above'

/-- Without a cycle through the user, everybody has one distance. -/
theorem Below.unique (acyclic : ¬ManagesSelf db userId tenantId) {first second : Nat}
    {user : UserEntity} (left : Below db userId tenantId first user)
    (right : Below db userId tenantId second user) : first = second := by
  have apart : ∀ {short more : Nat}, Below db userId tenantId short user →
      ¬Below db userId tenantId (short + (more + 1)) user := by
    intro short more below longer
    obtain ⟨top, same, cycle⟩ := below.cancel longer
    exact acyclic ⟨more, top, same, cycle⟩
  by_contra differ
  rcases Nat.lt_or_gt_of_ne differ with less | less
  · obtain ⟨more, rfl⟩ : ∃ more, second = first + (more + 1) := ⟨second - first - 1, by omega⟩
    exact apart left right
  · obtain ⟨more, rfl⟩ : ∃ more, first = second + (more + 1) := ⟨first - second - 1, by omega⟩
    exact apart right left

/-- A chain without a cycle has no user twice, so it is no longer than the table. -/
theorem Below.chain (acyclic : ¬ManagesSelf db userId tenantId) {distance : Nat} {user : UserEntity}
    (below : Below db userId tenantId distance user) :
    ∃ chain : List UserEntity, chain.length = distance + 1 ∧ chain.Nodup ∧
      ∀ other ∈ chain, ∃ less ≤ distance, Below db userId tenantId less other := by
  induction below with
  | @self user member same own =>
    exact ⟨[user], rfl, List.nodup_singleton user, by simpa using .self member same own⟩
  | @report distance manager user above member own managed ih =>
    obtain ⟨chain, length, distinct, within⟩ := ih
    have here : Below db userId tenantId (distance + 1) user := .report above member own managed
    refine ⟨user :: chain, by simp [length], List.nodup_cons.mpr ⟨?_, distinct⟩, ?_⟩
    · intro again
      obtain ⟨less, small, before⟩ := within user again
      have same := before.unique acyclic here
      omega
    · intro other present
      rcases List.mem_cons.mp present with new | old
      · subst new
        exact ⟨distance + 1, Nat.le_refl _, here⟩
      · obtain ⟨less, small, before⟩ := within other old
        exact ⟨less, by omega, before⟩

theorem Below.bounded (acyclic : ¬ManagesSelf db userId tenantId) {distance : Nat} {user : UserEntity}
    (below : Below db userId tenantId distance user) : distance < db.users.rows.length := by
  obtain ⟨chain, length, distinct, within⟩ := below.chain acyclic
  have inside : chain ⊆ db.users.rows := by
    intro other present
    obtain ⟨_, _, before⟩ := within other present
    exact before.member
  have small := (List.subperm_of_subset distinct inside).length_le
  omega

/-- On a cycle there is somebody at every distance. -/
theorem Below.again {period : Nat} {top : UserEntity} (same : top.id = userId)
    (cycle : Below db userId tenantId (period + 1) top) (distance : Nat) :
    ∃ user, Below db userId tenantId distance user := by
  have onward : ∀ {distance user}, Below db userId tenantId distance user →
      Below db userId tenantId (distance + (period + 1)) user := by
    intro distance user below
    induction below with
    | @self user member here own =>
      have whole : user = top := eq_of_key_eq member cycle.member (here.trans same.symm)
      subst whole
      simpa using cycle
    | report above member own managed ih =>
      rw [Nat.add_right_comm]
      exact .report ih member own managed
  have above : ∀ {distance user}, Below db userId tenantId (distance + 1) user →
      ∃ manager, Below db userId tenantId distance manager := by
    intro distance user below
    cases below with
    | report above _ _ _ => exact ⟨_, above⟩
  have far : ∀ rounds, ∃ user,
      Below db userId tenantId (rounds * (period + 1) + (period + 1)) user := by
    intro rounds
    induction rounds with
    | zero => exact ⟨top, by simpa using cycle⟩
    | succ rounds ih =>
      obtain ⟨user, below⟩ := ih
      refine ⟨user, ?_⟩
      rw [Nat.succ_mul]
      exact onward below
  have down : ∀ steps, (∃ user, Below db userId tenantId (distance + steps) user) →
      ∃ user, Below db userId tenantId distance user := by
    intro steps
    induction steps with
    | zero => exact id
    | succ steps ih =>
      intro found
      obtain ⟨user, below⟩ := found
      exact ih (above below)
  obtain ⟨user, below⟩ := far distance
  refine down (distance * period + (period + 1)) ⟨user, ?_⟩
  have reached : distance * (period + 1) + (period + 1) =
      distance + (distance * period + (period + 1)) := by
    rw [Nat.mul_succ]
    omega
  rw [← reached]
  exact below

end Chains

/-! The rounds of the query. -/

section Rounds
variable {db : Db} {userId tenantId : Uuid}

theorem reports_nil : reports db tenantId [] = [] := rfl

theorem mem_round {count : Nat} {row : Subordinate} :
    row ∈ nthRound (reports db tenantId) (anchor db userId tenantId) count ↔
      ∃ user, Below db userId tenantId count user ∧ row = subordinate (count + 1) user := by
  induction count generalizing row with
  | zero =>
    simp only [nthRound, anchor, List.mem_map, mem_find, Bool.and_eq_true, beq_iff_eq]
    constructor
    · intro found
      obtain ⟨user, ⟨member, same, own⟩, whole⟩ := found
      exact ⟨user, .self member same own, whole.symm⟩
    · intro found
      obtain ⟨user, below, whole⟩ := found
      cases below with
      | self member same own => exact ⟨user, ⟨member, same, own⟩, whole.symm⟩
  | succ count ih =>
    simp only [nthRound, reports, List.mem_flatMap, List.mem_map, mem_find,
      Bool.and_eq_true, beq_iff_eq]
    constructor
    · intro found
      obtain ⟨s, present, user, ⟨member, managed, own⟩, whole⟩ := found
      obtain ⟨manager, above, same⟩ := ih.mp present
      subst same
      exact ⟨user, .report above member own managed, whole.symm⟩
    · intro found
      obtain ⟨user, below, whole⟩ := found
      cases below with
      | @report _ manager _ above member own managed =>
        exact ⟨subordinate (count + 1) manager, ih.mpr ⟨manager, above, rfl⟩, user,
          ⟨member, managed, own⟩, whole.symm⟩

theorem found_distinct (where_ : UserEntity → Bool) (level : Nat) :
    (((db.users.find where_).map (subordinate level)).map (·.id)).Nodup := by
  rw [List.map_map]
  exact db.users.distinct.sublist (List.filter_sublist.map key)

theorem round_distinct (count : Nat) :
    ((nthRound (reports db tenantId) (anchor db userId tenantId) count).map (·.id)).Nodup := by
  induction count with
  | zero => exact found_distinct _ 1
  | succ count ih =>
    simp only [nthRound, reports, List.map_flatMap]
    rw [List.nodup_flatMap]
    refine ⟨fun s _ => found_distinct _ _, ?_⟩
    rw [List.Nodup, List.pairwise_map] at ih
    refine ih.imp ?_
    intro first second differ id left right
    simp only [List.mem_map, mem_find, Bool.and_eq_true, beq_iff_eq] at left right
    obtain ⟨_, ⟨user, ⟨member, managed, _⟩, rfl⟩, rfl⟩ := left
    obtain ⟨_, ⟨other, ⟨member', managed', _⟩, rfl⟩, same⟩ := right
    have whole : other = user := eq_of_key_eq member' member same
    subst whole
    exact differ (Option.some.inj (managed.symm.trans managed'))

end Rounds

/-- The user and all direct and transitive reports in the tenant, each once, one level
below the manager. -/
def Exact (db : Db) (userId tenantId : Uuid) (result : List Subordinate) : Prop :=
  (result.map (·.id)).Nodup ∧ ∀ row, row ∈ result ↔
    ∃ distance user, Below db userId tenantId distance user ∧ row = subordinate (distance + 1) user

section Query
variable {db : Db} {userId tenantId : Uuid}

theorem exact_rounds (acyclic : ¬ManagesSelf db userId tenantId) :
    Exact db userId tenantId
      ((List.range db.users.rows.length).flatMap
        (nthRound (reports db tenantId) (anchor db userId tenantId))) := by
  constructor
  · rw [List.map_flatMap, List.nodup_flatMap]
    refine ⟨fun count _ => round_distinct count, ?_⟩
    refine List.nodup_range.imp ?_
    intro first second differ id left right
    simp only [List.mem_map, mem_round] at left right
    obtain ⟨_, ⟨user, below, rfl⟩, rfl⟩ := left
    obtain ⟨_, ⟨other, below', rfl⟩, same⟩ := right
    have whole : other = user := eq_of_key_eq below'.member below.member same
    subst whole
    exact differ (below.unique acyclic below')
  · intro row
    simp only [List.mem_flatMap, List.mem_range, mem_round]
    constructor
    · intro found
      obtain ⟨distance, _, user, below, whole⟩ := found
      exact ⟨distance, user, below, whole⟩
    · intro found
      obtain ⟨distance, user, below, whole⟩ := found
      exact ⟨distance, below.bounded acyclic, user, below, whole⟩

theorem rounds_end (acyclic : ¬ManagesSelf db userId tenantId) :
    nthRound (reports db tenantId) (anchor db userId tenantId) db.users.rows.length = [] := by
  rw [List.eq_nil_iff_forall_not_mem]
  intro row present
  obtain ⟨user, below, _⟩ := mem_round.mp present
  exact Nat.lt_irrefl _ (below.bounded acyclic)

theorem rounds_go_on (cycle : ManagesSelf db userId tenantId) (count : Nat) :
    nthRound (reports db tenantId) (anchor db userId tenantId) count ≠ [] := by
  obtain ⟨period, top, same, below⟩ := cycle
  obtain ⟨user, here⟩ := below.again same count
  exact List.ne_nil_of_mem (mem_round.mpr ⟨user, here, rfl⟩)

end Query

/-- The reporting query ends with exactly the reports of a user, unless the chain of
managers above the user comes back to the user; then it never ends. -/
theorem hierarchy_exact_iff {Id : Type} [Identifier Id] (collate : String → String → Bool) (db : Db)
    (userId tenantId : Id) :
    (∃ fuel result, getHierarchy collate db fuel userId tenantId = some result ∧
        Exact db (value userId) (value tenantId) result) ↔
      ¬ManagesSelf db (value userId) (value tenantId) := by
  constructor
  · intro returned cycle
    obtain ⟨fuel, result, ended, _⟩ := returned
    rw [getHierarchy, evaluate_none (rounds_go_on cycle) fuel] at ended
    cases ended
  · intro acyclic
    have ended := evaluate_eq reports_nil (rounds_end acyclic) (Nat.lt_succ_self _)
    obtain ⟨distinct, members⟩ := exact_rounds acyclic
    refine ⟨db.users.rows.length + 1, _, by rw [getHierarchy, ended]; rfl, ?_, ?_⟩
    · exact ((List.mergeSort_perm _ _).map _).nodup_iff.mpr distinct
    · intro row
      rw [List.mem_mergeSort]
      exact members row

/-! The admin of a new tenant becomes the manager of himself. -/

def selfManaged : Db :=
  (serve (engine Uuid (.tenantUser 1)) (fun index => BitVec.ofNat 128 (index + 50))
    ((Operation.updateUser 2 { managerId := .value 2 } : Operation Uuid).handler plainEnvironment 1 2)
      acmeTenant).db

theorem selfManaged_reachable : Reachable selfManaged := by
  refine .requested plainEnvironment _ 1 2 ?_ (.tenantCreated plainEnvironment _ _ 9 (.empty .empty))
  trivial

theorem manages_self : ManagesSelf selfManaged 2 1 := by
  have stored : selfManaged.users.rows =
    [⟨2, 1, "a@acme.io", "$2b$10$secret", "Ada", "Ames", true, some 2⟩] := by decide
  have member :
      (⟨2, 1, "a@acme.io", "$2b$10$secret", "Ada", "Ames", true, some 2⟩ : UserEntity) ∈
      selfManaged.users := by
    rw [mem_rows, stored]
    exact List.mem_singleton_self _
  exact ⟨0, _, rfl, .report (.self member rfl rfl) member rfl rfl⟩

/-- The query for that admin never ends. -/
theorem hierarchy_endless : Reachable selfManaged ∧ UserOf selfManaged 1 2 ∧
    ∀ fuel, getHierarchy (fun first second => first ≤ second) selfManaged fuel (2 : Uuid)
      (1 : Uuid) = none := by
  refine ⟨selfManaged_reachable, ?_, ?_⟩
  · obtain ⟨distance, user, same, below⟩ := manages_self
    cases below with
    | report above member own managed => exact ⟨user, member, same, own⟩
  · intro fuel
    have endless := evaluate_none (rounds_go_on manages_self) fuel
    simp only [getHierarchy, value, id]
    rw [endless]
    rfl

end GenericIam.Hierarchy
