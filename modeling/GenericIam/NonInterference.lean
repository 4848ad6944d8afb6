import GenericIam.Coherence
import GenericIam.Runs
import GenericIam.SuperAdminRequests

/-! What the principals of other tenants do goes unnoticed by the checks for a tenant: the
same run without their requests and the events of these gives the same answers. -/

namespace GenericIam.NonInterference
open Table Database EffectivePermissions Identifiers CacheKeys AuthorizationCheck
open Events Transaction Handlers RbacServices Operations ReachableStates
open TenantTwins TenantEvents GeneratedKeys TenantRequests SuperAdminRequests Runs
open Coherence (plainEnvironment)

/-- Requests and deliveries are taken one at a time. A delivery names its message by the
tenant whose request has sent it, none for a super admin, and by its place among the
messages of that tenant. Entries may leave the cache at any time. -/
inductive Step (Id Key : Type) where
  | request (ids : Nat → Uuid) (tenantId actorId : Id) (operation : Operation Id)
  | superAdmin (ids : Nat → Uuid) (actorId : Id) (operation : SuperAdminOperation Id)
  | purge (ids : Nat → Uuid) (now : Time)
  | deliver (sender : Option Uuid) (position : Nat)
  | check (now : Time) (dto : CheckAuthzDto Id)
  | aclCheck (tenantId : Id) (dto : CheckAclDto Id)
  | expire (gone : Key → Bool)

structure State (Id Key : Type) where
  db : Db
  cache : Cache Key
  topic : Option Uuid → List (Event Id) := fun _ => []

variable {Id Key : Type} {tenantId : Uuid} {strange : Uuid → Prop} {db db' : Db} {step : Step Id Key}
  {rest : List (Step Id Key)}
  {state state' : State Id Key}

/-! Keys and messages. -/

def Step.draws : Step Id Key → Uuid → Prop
  | .request ids _ _ _ | .superAdmin ids _ _ => Drawn ids
  | _ => fun _ => False

structure Fresh (db : Db) (steps : List (Step Id Key)) : Prop where
  unused : ∀ step ∈ steps, Unused step.draws db
  apart : steps.Pairwise fun step later => ∀ id, step.draws id → ¬later.draws id

theorem Fresh.tail (fresh : Fresh db (step :: rest)) : Fresh db rest :=
  ⟨fun later member => fresh.unused later (List.mem_cons_of_mem _ member),
    (List.pairwise_cons.mp fresh.apart).2⟩

/-- The keys of the requests to come stay unused. -/
theorem Fresh.later {ids : Nat → Uuid} (fresh : Fresh db (step :: rest))
    (drawn : step.draws = Drawn ids) (draws : Draws ids db db') :
    Fresh db' rest := by
  obtain ⟨apart, others⟩ := List.pairwise_cons.mp fresh.apart
  refine ⟨?_, others⟩
  intro later member
  refine draws.unused later.draws ?_ (fresh.tail.unused later member)
  intro index
  apply apart later member
  rw [drawn]
  exact ⟨index, rfl⟩

theorem Fresh.drawn {ids : Nat → Uuid} (fresh : Fresh db (step :: rest))
    (drawn : step.draws = Drawn ids) : Unused (Drawn ids) db := by
  rw [← drawn]
  exact fresh.unused step List.mem_cons_self

def State.send (state : State Id Key) (sender : Option Uuid)
    (served : Served (effects Id) Db Unit) : State Id Key :=
  { state with
    db := served.db
    topic := fun other => if other = sender then state.topic other ++ served.tx.events
      else state.topic other }

theorem mem_send {sender other : Option Uuid} {served : Served (effects Id) Db Unit}
    {event : Event Id} :
    event ∈ (state.send sender served).topic other ↔ event ∈ state.topic other ∨
      (other = sender ∧ event ∈ served.tx.events) := by
  simp only [State.send]
  split
  · next own => simp [own]
  · next differ => simp [differ]

theorem send_other {sender other : Option Uuid} {served : Served (effects Id) Db Unit}
    (differ : other ≠ sender) :
    (state.send sender served).topic other = state.topic other := if_neg differ

/-! What the run without the other tenants leaves out. -/

variable [Identifier Id]

/-- All but the requests of other tenants and the deliveries of what these have sent. -/
def Step.kept (tenantId : Uuid) : Step Id Key → Bool
  | .request _ owner _ _ => decide (value owner = tenantId)
  | .deliver (some sender) _ => decide (sender = tenantId)
  | _ => true

/-- The requests of other tenants give this key to a row. -/
def Strange (tenantId : Uuid) (steps : List (Step Id Key)) (id : Uuid) : Prop :=
  ∃ step ∈ steps, step.kept tenantId = false ∧ step.draws id

/-- Bodies have passed validation, and those of role updates stay with the columns of
their type. -/
def Step.Admissible : Step Id Key → Prop
  | .request _ _ _ operation => operation.Admissible
  | _ => True

/-- A request of the tenant names a user, as the holder of an override or of an ACL entry
or as a manager, whom a request of another tenant has created. -/
def Step.NamesStranger (tenantId : Uuid) (strange : Uuid → Prop) : Step Id Key → State Id Key → Prop
  | .request _ owner _ operation, state =>
      value owner = tenantId ∧ ∃ id, operation.mentions.names id ∧ strange id ∧
        state.db.hasUser id = true
  | _, _ => False

structure Together (keys : KeyScheme Id Key) (tenantId : Uuid) (strange : Uuid → Prop)
    (rest : List (Step Id Key))
    (state state' : State Id Key) : Prop where
  abreast : Abreast tenantId strange state.db state'.db
  cache : AgreeOn keys tenantId state.cache state'.cache
  topic : state.topic (some tenantId) = state'.topic (some tenantId)
  confined : ∀ sender, ∀ event ∈ state.topic (some sender), Confined sender event
  silent : ∀ event ∈ state.topic none, handle event = []
  silent' : ∀ event ∈ state'.topic none, handle event = []
  fresh : Fresh state.db rest
  fresh' : Fresh state'.db rest
  strangers : ∀ step ∈ rest, step.kept tenantId = false → ∀ id, step.draws id → strange id

/-- Nothing but the cache changes, and there the entries of the tenant go the same way. -/
theorem Together.cached {keys : KeyScheme Id Key}
    (together : Together keys tenantId strange (step :: rest) state state')
    {cache cache' : Cache Key} (agree : AgreeOn keys tenantId cache cache') :
    Together keys tenantId strange rest { state with cache } { state' with cache := cache' } where
  abreast := together.abreast
  cache := agree
  topic := together.topic
  confined := together.confined
  silent := together.silent
  silent' := together.silent'
  fresh := together.fresh.tail
  fresh' := together.fresh'.tail
  strangers later member := together.strangers later (List.mem_cons_of_mem _ member)

/-! Steps. -/

variable [DecidableEq Id] [DecidableEq Key]

def Step.next (keys : KeyScheme Id Key) (env : Environment) : Step Id Key → State Id Key → State Id Key
  | .request ids tenantId actorId operation, state =>
      state.send (some (value tenantId))
        (serve (engine Id (.tenantUser (value tenantId))) ids
          (operation.handler env tenantId actorId) state.db)
  | .superAdmin ids actorId operation, state =>
      state.send none (serve (engine Id .bypassRls) ids (operation.handler env actorId) state.db)
  | .purge ids now, state =>
    { state with db := (serve (engine Id .bypassRls) ids (purgeExpiredRoles now) state.db).db }
  | .deliver sender position, state =>
      { state with cache := Events.deliver keys ((state.topic sender)[position]?).toList state.cache }
  | .check now dto, state =>
    { state with cache := (AuthorizationCheck.check keys state.db now state.cache dto).2 }
  | .aclCheck tenantId dto, state =>
    { state with cache := (AuthorizationCheck.aclCheck keys state.db state.cache tenantId dto).2 }
  | .expire gone, state => { state with cache := state.cache.removeWhere gone }

def Step.answer (keys : KeyScheme Id Key) (tenantId : Uuid) :
    Step Id Key → State Id Key → Option CheckResult
  | .check now dto, state =>
      if value dto.tenantId = tenantId then
        some (AuthorizationCheck.check keys state.db now state.cache dto).1 else none
  | _, _ => none

section Steps
variable {keys : KeyScheme Id Key} {env : Environment}

theorem together_own {ids : Nat → Uuid} {owner actorId : Id} {operation : Operation Id}
    (together : Together keys (value owner) strange
      (.request ids owner actorId operation :: rest) state state')
    (admissible : operation.Admissible)
    (acquainted : ¬(Step.request ids owner actorId operation).NamesStranger
      (value owner) strange state) :
    Together keys (value owner) strange rest
      ((Step.request ids owner actorId operation).next keys env state)
      ((Step.request ids owner actorId operation).next keys env state') := by
  have names : ∀ id, operation.mentions.names id → ¬(strange id ∧ state.db.hasUser id = true) :=
    fun id named stranger => acquainted ⟨rfl, id, named, stranger⟩
  have drawn : (Step.request ids owner actorId operation : Step Id Key).draws = Drawn ids := rfl
  obtain ⟨abreast, events⟩ :=
    abreast_own env owner actorId admissible together.abreast (together.fresh.drawn drawn)
    (together.fresh'.drawn drawn) names
  constructor
  · exact abreast
  · exact together.cache
  · simp only [Step.next, State.send, if_true, together.topic, events]
  · intro sender event sent
    rcases mem_send.mp sent with before | ⟨own, emitted⟩
    · exact together.confined sender event before
    · cases own
      exact (serve_emits (stays_operation env actorId (told_all operation)) event emitted).confined
  · intro event sent
    rcases mem_send.mp sent with before | ⟨own, _⟩
    · exact together.silent event before
    · cases own
  · intro event sent
    rcases mem_send.mp sent with before | ⟨own, _⟩
    · exact together.silent' event before
    · cases own
  · exact together.fresh.later drawn (draws_operation env owner actorId admissible _)
  · exact together.fresh'.later drawn (draws_operation env owner actorId admissible _)
  · exact fun later member => together.strangers later (List.mem_cons_of_mem _ member)

theorem together_foreign {ids : Nat → Uuid} {owner actorId : Id} {operation : Operation Id}
    (foreign : value owner ≠ tenantId)
    (together : Together keys tenantId strange
      (.request ids owner actorId operation :: rest) state state')
    (admissible : operation.Admissible) :
    Together keys tenantId strange rest
      ((Step.request ids owner actorId operation).next keys env state) state' := by
  have drawn : (Step.request ids owner actorId operation : Step Id Key).draws = Drawn ids := rfl
  have left : (Step.request ids owner actorId operation : Step Id Key).kept tenantId = false :=
    decide_eq_false foreign
  have strangers : ∀ index, strange (ids index) := by
    intro index
    exact together.strangers _ List.mem_cons_self left (ids index) ⟨index, rfl⟩
  constructor
  · exact abreast_foreign env owner actorId foreign admissible together.abreast strangers
  · exact together.cache
  · have other : some tenantId ≠ some (value owner) := fun same => foreign (Option.some.inj same).symm
    exact (send_other other).trans together.topic
  · intro sender event sent
    rcases mem_send.mp sent with before | ⟨own, emitted⟩
    · exact together.confined sender event before
    · cases own
      exact (serve_emits (stays_operation env actorId (told_all operation)) event emitted).confined
  · intro event sent
    rcases mem_send.mp sent with before | ⟨own, _⟩
    · exact together.silent event before
    · cases own
  · exact together.silent'
  · exact together.fresh.later drawn (draws_operation env owner actorId admissible _)
  · exact together.fresh'.tail
  · exact fun later member => together.strangers later (List.mem_cons_of_mem _ member)

theorem together_superAdmin {ids : Nat → Uuid} {actorId : Id} {operation : SuperAdminOperation Id}
    (together : Together keys tenantId strange
      (.superAdmin ids actorId operation :: rest) state state') :
    Together keys tenantId strange rest ((Step.superAdmin ids actorId operation).next keys env state)
      ((Step.superAdmin ids actorId operation).next keys env state') := by
  have drawn : (Step.superAdmin ids actorId operation : Step Id Key).draws = Drawn ids := rfl
  have unused := together.fresh.drawn drawn
  have unused' := together.fresh'.drawn drawn
  have quiet : ∀ base : State Id Key, (∀ event ∈ base.topic none, handle event = []) →
      ∀ event ∈ ((Step.superAdmin ids actorId operation).next keys env base).topic none,
          handle event = [] := by
    intro base silent event sent
    rcases mem_send.mp sent with before | ⟨_, emitted⟩
    · exact silent event before
    · exact serve_emits (silent_operation env actorId operation) event emitted
  constructor
  · exact abreast_superAdmin env actorId operation together.abreast unused unused'
  · exact together.cache
  · exact (send_other (by simp)).trans (together.topic.trans (send_other (by simp)).symm)
  · intro sender event sent
    rcases mem_send.mp sent with before | ⟨own, _⟩
    · exact together.confined sender event before
    · cases own
  · exact quiet state together.silent
  · exact quiet state' together.silent'
  · exact together.fresh.later drawn (draws_superAdmin env actorId operation unused)
  · exact together.fresh'.later drawn (draws_superAdmin env actorId operation unused')
  · exact fun later member => together.strangers later (List.mem_cons_of_mem _ member)

theorem together_purge {ids : Nat → Uuid} {now : Time}
    (together : Together keys tenantId strange (.purge ids now :: rest) state state') :
    Together keys tenantId strange rest ((Step.purge ids now).next keys env state)
      ((Step.purge ids now).next keys env state') := by
  constructor
  · exact abreast_purge together.abreast
  · exact together.cache
  · exact together.topic
  · exact together.confined
  · exact together.silent
  · exact together.silent'
  · exact ⟨fun later member => unused_purge (together.fresh.tail.unused later member),
      together.fresh.tail.apart⟩
  · exact ⟨fun later member => unused_purge (together.fresh'.tail.unused later member),
      together.fresh'.tail.apart⟩
  · exact fun later member => together.strangers later (List.mem_cons_of_mem _ member)

/-- A message of the tenant, or of a super admin. -/
theorem together_deliver {sender : Option Uuid} {position : Nat}
    (taken : (Step.deliver sender position : Step Id Key).kept tenantId = true)
    (together : Together keys tenantId strange (.deliver sender position :: rest) state state') :
    Together keys tenantId strange rest ((Step.deliver sender position).next keys env state)
      ((Step.deliver sender position).next keys env state') := by
  apply together.cached
  cases sender with
  | none =>
    have listed : ∀ base : State Id Key, ∀ event ∈ ((base.topic none)[position]?).toList,
        event ∈ base.topic none := by
      intro base event member
      exact List.mem_of_getElem? (Option.mem_toList.mp member)
    rw [deliver_silent fun event member => together.silent event (listed state event member),
      deliver_silent fun event member => together.silent' event (listed state' event member)]
    exact together.cache
  | some owner =>
    have own : owner = tenantId := of_decide_eq_true taken
    subst own
    rw [together.topic, deliver_eq, deliver_eq]
    exact together.cache.removeWhere _

theorem together_foreignDeliver {sender : Uuid} {position : Nat} (foreign : sender ≠ tenantId)
    (together : Together keys tenantId strange (.deliver (some sender) position :: rest) state state') :
    Together keys tenantId strange rest
      ((Step.deliver (some sender) position).next keys env state) state' := by
  apply together.cached
  intro key entry
  rw [deliver_foreign foreign _ entry]
  · exact together.cache key entry
  · intro event member
    exact together.confined sender event (List.mem_of_getElem? (Option.mem_toList.mp member))

/-- A check gives the tenant the same answer, and what it stores for another tenant is of
no account. -/
theorem together_check {now : Time} {dto : CheckAuthzDto Id}
    (together : Together keys tenantId strange (.check now dto :: rest) state state') :
    (Step.check now dto : Step Id Key).answer keys tenantId state =
      (Step.check now dto).answer keys tenantId state' ∧
      Together keys tenantId strange rest ((Step.check now dto).next keys env state)
        ((Step.check now dto).next keys env state') := by
  by_cases own : value dto.tenantId = tenantId
  · have reads := together.abreast.answers Id
    refine ⟨?_, together.cached (check_agree reads own together.cache).2⟩
    simp only [Step.answer, if_pos own, (check_agree reads own together.cache).1]
  · refine ⟨?_, together.cached ?_⟩
    · simp only [Step.answer, if_neg own]
    · intro key entry
      rw [check_foreign own entry, check_foreign own entry]
      exact together.cache key entry

theorem together_aclCheck {owner : Id} {dto : CheckAclDto Id}
    (together : Together keys tenantId strange (.aclCheck owner dto :: rest) state state') :
    Together keys tenantId strange rest ((Step.aclCheck owner dto).next keys env state)
      ((Step.aclCheck owner dto).next keys env state') := by
  apply together.cached
  by_cases own : value owner = tenantId
  · exact (aclCheck_agree (together.abreast.answers Id) own together.cache dto).2
  · intro key entry
    rw [aclCheck_foreign own entry, aclCheck_foreign own entry]
    exact together.cache key entry

theorem unwinding (keys : KeyScheme Id Key) (env : Environment) (tenantId : Uuid)
    (strange : Uuid → Prop) :
    Unwinding (Step.next keys env) (Step.answer keys tenantId)
      (fun step state => step.Admissible ∧ ¬step.NamesStranger tenantId strange state)
        (Step.kept tenantId)
      (Together keys tenantId strange) where
  takes := by
    intro step rest state state' taken careful together
    cases step with
    | request ids owner actorId operation =>
      have own : value owner = tenantId := of_decide_eq_true taken
      subst own
      exact ⟨rfl, together_own together careful.1 careful.2⟩
    | superAdmin ids actorId operation => exact ⟨rfl, together_superAdmin together⟩
    | purge ids now => exact ⟨rfl, together_purge together⟩
    | deliver sender position => exact ⟨rfl, together_deliver taken together⟩
    | check now dto => exact together_check together
    | aclCheck owner dto => exact ⟨rfl, together_aclCheck together⟩
    | expire gone => exact ⟨rfl, together.cached (together.cache.removeWhere gone)⟩
  skips := by
    intro step rest state state' left careful together
    cases step with
    | request ids owner actorId operation =>
      exact ⟨rfl, together_foreign (of_decide_eq_false left) together careful.1⟩
    | deliver sender position =>
      cases sender with
      | none => cases left
      | some sender => exact ⟨rfl, together_foreignDeliver (of_decide_eq_false left) together⟩
    | superAdmin ids actorId operation | purge ids now | check now dto | aclCheck owner dto
    | expire gone => cases left

/-- The run without the requests of other tenants and the deliveries of their messages
gives the tenant the same answers, and ends with the same answers to every check. -/
theorem undisturbed (keys : KeyScheme Id Key) (env : Environment) (tenantId : Uuid) {db : Db}
    (reached : Reachable db) (cache : Cache Key) {steps : List (Step Id Key)}
    (fresh : Fresh db steps) (admissible : ∀ step ∈ steps, step.Admissible)
    (acquainted : EveryStep (Step.next keys env)
      (fun step state => ¬step.NamesStranger tenantId (Strange tenantId steps) state)
      { db, cache } steps) :
    let last := final (Step.next keys env) { db, cache } steps
    let last' := final (Step.next keys env) { db, cache } (steps.filter (Step.kept tenantId))
    answers (Step.next keys env) (Step.answer keys tenantId) { db, cache } steps =
        answers (Step.next keys env) (Step.answer keys tenantId) { db, cache }
          (steps.filter (Step.kept tenantId)) ∧
      (∀ now userId,
        getEffectivePermissions last.db now userId tenantId =
        getEffectivePermissions last'.db now userId tenantId) ∧
        ∀ now (dto : CheckAuthzDto Id), value dto.tenantId = tenantId →
          (check keys last.db now last.cache dto).1 = (check keys last'.db now last'.cache dto).1 ∧
            decision last.db now dto = decision last'.db now dto := by
  intro last last'
  have start : Together keys tenantId (Strange tenantId steps) steps ({ db, cache } : State Id Key)
      { db, cache } := by
    constructor
    · exact ⟨rfl, fun _ _ => rfl, reached.consistent, reached.consistent⟩
    · exact fun _ _ => rfl
    · rfl
    · exact fun _ _ sent => by cases sent
    · exact fun _ sent => by cases sent
    · exact fun _ sent => by cases sent
    · exact fresh
    · exact fresh
    · exact fun step member left id drawn => ⟨step, member, left, drawn⟩
  obtain ⟨same, together⟩ :=
    (unwinding keys env tenantId (Strange tenantId steps)).run (acquainted.joined admissible) start
  refine ⟨same, together.abreast.permissions, ?_⟩
  intro now dto own
  have reads := together.abreast.answers Id
  refine ⟨(check_agree reads own together.cache).1, ?_⟩
  have codes : effectiveCodes last.db now (value dto.userId) (value dto.tenantId) =
      effectiveCodes last'.db now (value dto.userId) (value dto.tenantId) := by
    rw [own]
    exact reads.codes now _
  unfold decision
  rw [codes]
  cases dto.resource with
  | none => rfl
  | some resource =>
    simp only
    rw [reads.acls dto.tenantId (aclDto dto resource) own]

end Steps

/-! Ada of Acme gives somebody access to a document, after a new user of Beta has come. -/

section Example

def block (number index : Nat) : Uuid := BitVec.ofNat 128 (16 * number + index % 16)

theorem block_apart {first second index index' : Nat} (small : first < 16) (small' : second < 16)
    (differ : first ≠ second) :
    block first index ≠ block second index' := by
  intro same
  have values : (block first index).toNat = (block second index').toNat := congrArg BitVec.toNat same
  simp only [block, BitVec.toNat_ofNat] at values
  omega

theorem drawn_apart {first second : Nat} (small : first < 16) (small' : second < 16)
    (differ : first ≠ second) :
    ∀ id, Drawn (block first) id → ¬Drawn (block second) id := by
  intro id drawn drawn'
  obtain ⟨index, rfl⟩ := drawn
  obtain ⟨index', same⟩ := drawn'
  exact block_apart small small' differ same

def acme : Uuid := block 1 0

def ada : Uuid := block 1 1

def beta : Uuid := block 2 0

def cy : Uuid := block 3 0

def founding : List (Step Uuid CacheKey) :=
  [.superAdmin (block 1) 9
    (.createTenantWithAdmin ⟨"Acme", "acme", none, "ada@acme.io", "secret", "Ada", "Ames"⟩),
    .superAdmin (block 2) 9
      (.createTenantWithAdmin ⟨"Beta", "beta", none, "bob@beta.io", "hidden", "Bob", "Bell"⟩),
    .request (block 3) beta (block 2 1)
      (.createUser ⟨"cy@beta.io", "covert", "Cy", "Cole", none, none⟩)]

def sharing (userId : Uuid) : List (Step Uuid CacheKey) :=
  founding ++ [.request (block 4) acme ada (.createAcl ⟨userId, "doc", "7", "doc:read"⟩),
    .check 0 ⟨userId, acme, "doc:read", some "doc", some "7"⟩]

theorem sharing_fresh (userId : Uuid) : Fresh {} (sharing userId) := by
  constructor
  · intro step _
    constructor <;> simp
  · simp only [Step.draws, sharing, founding, BitVec.ofNat_eq_ofNat, List.cons_append, List.nil_append,
      List.pairwise_cons, List.mem_cons,
      List.not_mem_nil, or_false, forall_eq_or_imp, forall_eq, not_false_eq_true, implies_true,
        and_true, IsEmpty.forall_iff,
      List.Pairwise.nil, and_self]
    refine ⟨⟨?_, ?_, ?_⟩, ⟨?_, ?_⟩, ?_⟩
    all_goals exact drawn_apart (by decide) (by decide) (by decide)

theorem sharing_admissible (userId : Uuid) : ∀ step ∈ sharing userId, step.Admissible := by
  intro step member
  simp only [sharing, founding, List.cons_append, List.nil_append, List.mem_cons, List.not_mem_nil,
    or_false] at member
  rcases member with rfl | rfl | rfl | rfl | rfl
  · trivial
  · trivial
  · trivial
  · exact ⟨by simp, by simp, by simp⟩
  · trivial

/-- The document is for Cy, whom a request of Beta has created: without it there is nobody
to give it to. -/
theorem stranger_admitted :
    Reachable {} ∧ Fresh {} (sharing cy) ∧ (∀ step ∈ sharing cy, step.Admissible) ∧
    answers (Step.next tupleKeys plainEnvironment) (Step.answer tupleKeys acme)
      { db := {}, cache := .empty } (sharing cy) ≠
      answers (Step.next tupleKeys plainEnvironment) (Step.answer tupleKeys acme)
        { db := {}, cache := .empty }
        ((sharing cy).filter (Step.kept acme)) := by
  refine ⟨.empty .empty, sharing_fresh cy, sharing_admissible cy, ?_⟩
  have told : answers (Step.next tupleKeys plainEnvironment) (Step.answer tupleKeys acme)
    { db := {}, cache := .empty } (sharing cy) =
      [⟨true, "acl"⟩] := by decide
  have untold : answers (Step.next tupleKeys plainEnvironment) (Step.answer tupleKeys acme)
    { db := {}, cache := .empty }
      ((sharing cy).filter (Step.kept acme)) = [⟨false, "none"⟩] := by decide
  rw [told, untold]
  decide

/-- When the document is for Ada herself, Beta's request does not matter. -/
theorem undisturbed_sharing :
    answers (Step.next tupleKeys plainEnvironment) (Step.answer tupleKeys acme)
      { db := {}, cache := .empty } (sharing ada) =
      answers (Step.next tupleKeys plainEnvironment) (Step.answer tupleKeys acme)
        { db := {}, cache := .empty }
        ((sharing ada).filter (Step.kept acme)) := by
  have known : ¬Strange acme (sharing ada) ada := by
    intro stranger
    obtain ⟨step, member, left, drawn⟩ := stranger
    simp only [sharing, founding, List.cons_append, List.nil_append, List.mem_cons, List.not_mem_nil,
      or_false] at member
    have mine : Drawn (block 1) ada := ⟨1, rfl⟩
    rcases member with rfl | rfl | rfl | rfl | rfl
    · cases left
    · cases left
    · exact drawn_apart (by decide) (by decide) (by decide) ada drawn mine
    · exact drawn_apart (by decide) (by decide) (by decide) ada drawn mine
    · cases left
  have acquainted : EveryStep (Step.next tupleKeys plainEnvironment)
      (fun step state => ¬step.NamesStranger acme (Strange acme (sharing ada)) state)
          { db := {}, cache := .empty } (sharing ada) := by
    refine ⟨id, id, ?_, ?_, id, trivial⟩
    · intro named
      exact absurd named.1 (by decide)
    · intro named
      obtain ⟨_, id, own, stranger, _⟩ := named
      have same : id = ada := own
      exact known (same ▸ stranger)
  exact (undisturbed tupleKeys plainEnvironment acme (.empty .empty) .empty (sharing_fresh ada)
    (sharing_admissible ada) acquainted).1

end Example
end GenericIam.NonInterference
