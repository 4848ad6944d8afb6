import GenericIam.PendingDeletes
import GenericIam.Reactivation
import GenericIam.ScannedDeletes

/-! The consumers that delete what the events of a request ask for, with the scans that
`scanAndDelete` makes, next to checks that fill the cache. -/

namespace GenericIam.CacheDeliveries
open Table Database EffectivePermissions Identifiers CacheKeys
open AuthorizationCheck Events Transaction Handlers Operations ReachableStates
open Coherence Races PendingDeletes Interleaving ScannedDeletes

section Commands
variable {Id Key : Type} [DecidableEq Key]

/-- What the cache service sends for a delete: `del` of one key, or `scanAndDelete`. -/
def command (keys : KeyScheme Id Key) : Invalidation Id → Deletion Key
  | .perms tenantId userId => .one (keys.perms tenantId userId)
  | .authzOfUser tenantId userId => .matching (keys.authzOfUser tenantId userId)
  | .permsOfTenant tenantId => .matching (keys.permsOfTenant tenantId)
  | .authzOfTenant tenantId => .matching (keys.authzOfTenant tenantId)
  | .acl tenantId dto => .one (keys.acl tenantId dto)
  | .authzDecision tenantId userId permission resourceType resourceId =>
      .one (keys.authzDecision tenantId userId permission resourceType resourceId)

theorem reaches_command (keys : KeyScheme Id Key) (deletion : Invalidation Id) (key : Key) :
    (command keys deletion).reaches key = deletion.reaches keys key := by
  cases deletion <;> rfl

end Commands

/-! Checks and deliveries, one step at a time and in any order. -/

abbrev TimedCache : Type := Timed CacheKey CacheValue

inductive Worker where
  | check (point : Point Uuid)
  | delivery (event : Event Uuid) (sweep : Sweep CacheKey)

def delivers (timed : TimedCache) (event : Event Uuid) : Worker :=
  .delivery event { began := timed.clock, left := (handle event).map (command tupleKeys) }

inductive Worker.Moves (db : Db) (now : Time) : TimedCache → Worker → TimedCache → Worker → Prop where
  | check {timed : TimedCache} (point : Point Uuid) :
      Moves db now timed (.check point) (timed.next (step tupleKeys db now timed.store point).2)
        (.check (step tupleKeys db now timed.store point).1)
  | delivery {timed timed' : TimedCache} {event : Event Uuid} {sweep sweep' : Sweep CacheKey}
      (moved : sweep.Moves timed timed' sweep') :
        Moves db now timed (.delivery event sweep) timed' (.delivery event sweep')

/-- Any number of checks, and of deliveries of each event: a message that is not acknowledged
comes again. Entries expire at any time. -/
def workers (db : Db) (now : Time) (events : List (Event Uuid)) : System TimedCache Worker where
  spawns timed worker :=
    (∃ call : Call Uuid, worker = .check call.start) ∨ ∃ event ∈ events, worker = delivers timed event
  moves := Worker.Moves db now
  disturbs timed timed' := ∃ expired, timed' = timed.next (timed.store.removeWhere expired)

/-- The entry has been there since before the deliveries, and the events are to delete it. -/
def overdue (events : List (Event Uuid)) (timed : TimedCache) (key : CacheKey) : Bool :=
  (timed.emptyAt key).isNone && (events.flatMap handle).any fun deletion =>
    deletion.reaches tupleKeys key

/-- A check that does not go by an overdue entry: it may answer with one, but it takes no
permissions and no access from one. -/
def Heeds (events : List (Event Uuid)) (timed : TimedCache) : Worker → Prop
  | .check (.readPerms dto) => overdue events timed (tupleKeys.perms dto.tenantId dto.userId) = false
  | .check (.readAcl _ tenantId dto) => overdue events timed (tupleKeys.acl tenantId dto) = false
  | _ => True

/-! Caches that agree with the database. -/

section Agreement
variable {db : Db} {now : Time} {cache : Cache CacheKey}

theorem cacheSound_of_coherent (coherent : Coherent tupleKeys db now cache) :
    CacheSound now { db, cache } [] where
  past _ := le_rfl
  perms t u cached stored := by
    obtain ⟨codes, is, right⟩ := (coherent _ cached stored).perms t u rfl
    exact ⟨codes, is, .inl right⟩
  acl t dto cached stored := ⟨_, (coherent _ cached stored).acl t dto rfl, .inl rfl⟩
  authz dto cached stored := ⟨_, (coherent _ cached stored).authz dto rfl, .inl rfl⟩

theorem not_due {about : Layer} {since : Nat} {key : CacheKey} : ¬Due [] about since key := by
  intro holds
  obtain ⟨job, member, _⟩ := holds
  cases member

theorem coherent_of_cacheSound {world : World} (sound : CacheSound now world []) :
    Coherent tupleKeys world.db now world.cache := by
  intro _ cached stored
  refine ⟨?_, ?_, ?_⟩
  · intro t u same
    obtain rfl := same
    obtain ⟨codes, is, right⟩ := sound.perms t u cached stored
    exact ⟨codes, is, right.resolve_right not_due⟩
  · intro dto same
    obtain rfl := same
    obtain ⟨allowed, rfl, right⟩ := sound.authz dto cached stored
    rw [right.resolve_right fun ⟨_, _, due⟩ => not_due due]
  · intro t dto same
    obtain rfl := same
    obtain ⟨allowed, rfl, right⟩ := sound.acl t dto cached stored
    rw [right.resolve_right not_due]

def writes : Point Uuid → Option (CacheKey × CacheValue)
  | .writePerms dto effectiveSet => some (tupleKeys.perms dto.tenantId dto.userId, .codes effectiveSet)
  | .writeAcl _ tenantId dto allowed => some (tupleKeys.acl tenantId dto, .decision allowed)
  | .writeAuthz dto allowed _ => some (tupleKeys.authz dto, .decision allowed)
  | _ => none

theorem step_cache (point : Point Uuid) : (step tupleKeys db now cache point).2 =
    (writes point).elim cache fun entry => cache.put entry.1 entry.2 := by
  cases point with
  | readAuthz dto | readPerms dto | readAcl caller tenantId dto =>
    simp only [step]
    split
    next => rfl
    next => rfl
  | _ => rfl

/-- A check that misses what is there goes the longer way. -/
theorem step_removeWhere {gone : CacheKey → Bool} {point : Point Uuid}
    (perms : ∀ dto, point = .readPerms dto → gone (tupleKeys.perms dto.tenantId dto.userId) = false)
    (acl : ∀ caller tenantId dto, point = .readAcl caller tenantId dto →
      gone (tupleKeys.acl tenantId dto) = false)
    (asks : ∀ dto, point ≠ .readAuthz dto) :
    (step tupleKeys db now (cache.removeWhere gone) point).1 =
      (step tupleKeys db now cache point).1 := by
  cases point with
  | readAuthz dto => exact absurd rfl (asks dto)
  | readPerms dto =>
    have same : getPermissions tupleKeys (cache.removeWhere gone) dto.tenantId dto.userId =
        getPermissions tupleKeys cache dto.tenantId dto.userId := by
      simp only [getPermissions, Store.removeWhere, perms dto rfl, if_neg Bool.false_ne_true]
    simp only [step, same]
    split
    next => rfl
    next => rfl
  | readAcl caller tenantId dto =>
    have same : cache.removeWhere gone (tupleKeys.acl tenantId dto) =
        cache (tupleKeys.acl tenantId dto) := by
      simp only [Store.removeWhere, acl caller tenantId dto rfl, if_neg Bool.false_ne_true]
    simp only [step, same]
    split
    next => rfl
    next => rfl
  | _ => rfl

theorem next_point (point : Point Uuid) :
    (Asking.next now { db, cache } ⟨point, 0, 0⟩).2 =
      ⟨(step tupleKeys db now cache point).1, 0, 0⟩ := by
  cases point <;> rfl

end Agreement

/-! The invariant. -/

section Invariant
variable {db : Db} {now : Time} {events : List (Event Uuid)} {timed timed' : TimedCache}
  {store : Cache CacheKey}
  {key : CacheKey} {cached : CacheValue} {point : Point Uuid}

def Settling (db : Db) (now : Time) (events : List (Event Uuid)) (timed : TimedCache) : Prop :=
  ∀ key cached, timed.store key = some cached → EntryCoherent tupleKeys db now key cached ∨
    overdue events timed key = true

def Own (db : Db) (now : Time) (timed : TimedCache) : Worker → Prop
  | .check point => CheckSound now { db } [] ⟨point, 0, 0⟩
  | .delivery event sweep => sweep.Tracks timed ((handle event).map (command tupleKeys))

theorem overdue_next (late : overdue events timed key = true) (present : store key ≠ none) :
    overdue events (timed.next store) key = true := by
  rw [ne_eq, ← Option.isNone_iff_eq_none] at present
  simpa only [overdue, Timed.next, if_neg present] using late

/-- Nothing has been added. -/
theorem Settling.keep (settling : Settling db now events timed)
    (kept : ∀ key cached, store key = some cached → timed.store key = some cached) :
    Settling db now events (timed.next store) := by
  intro key cached stored
  have present : store key = some cached := stored
  refine (settling key cached (kept key cached stored)).imp_right fun late => overdue_next late ?_
  rw [present]
  exact Option.some_ne_none cached

theorem Settling.put (settling : Settling db now events timed)
    (right : EntryCoherent tupleKeys db now key cached) :
    Settling db now events (timed.next (timed.store.put key cached)) := by
  intro other held stored
  by_cases same : other = key
  · subst same
    have same : some cached = some held := (Store.put_self timed.store other cached).symm.trans stored
    cases same
    exact .inl right
  · have before : timed.store other = some held :=
      (Store.put_other timed.store cached same).symm.trans stored
    refine (settling other held before).imp_right fun late => overdue_next late ?_
    rw [Store.put_other _ _ same, before]
    exact Option.some_ne_none held

/-- The cache without the overdue entries. -/
theorem Settling.fresh (settling : Settling db now events timed) :
    Coherent tupleKeys db now (timed.store.removeWhere (overdue events timed)) := by
  intro key cached stored
  obtain ⟨timely, present⟩ := Store.removeWhere_some.mp stored
  refine (settling key cached present).resolve_right ?_
  rw [timely]
  exact Bool.false_ne_true

theorem checkSound_step (settling : Settling db now events timed)
    (sound : CheckSound now { db } [] ⟨point, 0, 0⟩) (heeds : Heeds events timed (.check point)) :
    CheckSound now { db } [] ⟨(step tupleKeys db now timed.store point).1, 0, 0⟩ := by
  by_cases asks : ∃ dto, point = .readAuthz dto
  · obtain ⟨dto, rfl⟩ := asks
    simp only [step]
    split
    next => exact checkSound_idle trivial (past_of le_rfl le_rfl) fun _ _ owes => owes.elim
    next => exact checkSound_idle trivial (past_of le_rfl le_rfl) fun _ _ owes => owes.elim
  · have here : CheckSound now { db, cache := timed.store.removeWhere (overdue events timed) }
      [] ⟨point, 0, 0⟩ :=
      sound.elsewhere rfl rfl
    have later := here.next (cacheSound_of_coherent settling.fresh) fun job member =>
      absurd member List.not_mem_nil
    rw [next_point, step_removeWhere] at later
    · exact later.elsewhere rfl rfl
    · intro dto same
      obtain rfl := same
      exact heeds
    · intro caller tenantId dto same
      obtain rfl := same
      exact heeds
    · intro dto is
      exact asks ⟨dto, is⟩

/-- What a check writes is right. -/
theorem writes_right (settling : Settling db now events timed)
    (sound : CheckSound now { db } [] ⟨point, 0, 0⟩) (written : writes point = some (key, cached)) :
    EntryCoherent tupleKeys db now key cached := by
  have here : CheckSound now { db, cache := timed.store.removeWhere (overdue events timed) }
    [] ⟨point, 0, 0⟩ :=
    sound.elsewhere rfl rfl
  have later := coherent_of_cacheSound ((cacheSound_of_coherent settling.fresh).next here)
  refine later key cached ?_
  change (step tupleKeys db now (timed.store.removeWhere (overdue events timed)) point).2 key = some cached
  rw [step_cache, written]
  exact Store.put_self _ _ _

theorem workers_outline (db : Db) (now : Time) (events : List (Event Uuid)) :
    ((workers db now events).restrict (Heeds events)).Outline (Settling db now events)
      (Own db now) where
  spawn := by
    intro timed worker settling holds
    rcases holds with ⟨call, rfl⟩ | ⟨event, among, rfl⟩
    · have idle : ∀ about key, ¬Owes call.start about key := by
        intro about key owes
        cases call with
        | authz dto => exact owes.elim
        | acl tenantId dto =>
          cases about with
          | perms =>
            obtain ⟨_, impossible, _⟩ := owes
            cases impossible
          | acl => exact owes.elim
      refine checkSound_idle ?_ (past_of le_rfl le_rfl) idle
      cases call with
      | authz dto => trivial
      | acl tenantId dto =>
        intro asker impossible
        cases impossible
    · exact Sweep.tracks_start timed _
  advance := by
    intro timed worker timed' worker' settling own holds
    obtain ⟨heeds, moved⟩ := holds
    cases moved with
    | check point =>
      refine ⟨?_, checkSound_step settling own heeds⟩
      rw [step_cache]
      cases written : writes point with
      | none => exact settling.keep fun _ _ stored => stored
      | some entry => exact settling.put (writes_right settling own written)
    | delivery moved =>
      refine ⟨?_, moved.tracks own⟩
      rcases moved.removes own with rfl | ⟨gone, rfl, _⟩
      · exact settling
      · exact settling.keep fun _ _ stored => (Store.removeWhere_some.mp stored).2
  stable := by
    intro timed worker timed' worker' other settling own stands holds
    obtain ⟨_, moved⟩ := holds
    cases other with
    | check point => exact stands
    | delivery event sweep =>
      refine stands.later ?_
      cases moved with
      | check point => exact timed.next_later _
      | delivery moved => exact moved.later
  disturb := by
    intro timed _ settling holds
    obtain ⟨expired, rfl⟩ := holds
    refine ⟨settling.keep fun _ _ stored => (Store.removeWhere_some.mp stored).2,
      fun worker stands => ?_⟩
    cases worker with
    | check point => exact stands
    | delivery event sweep => exact stands.later (timed.next_later _)

end Invariant

/-! What is left when all events have been delivered. -/

section Delivered
variable {db : Db} {now : Time} {events : List (Event Uuid)}
  {state : Interleaving.State TimedCache Worker}

/-- Each event has been delivered to its end, once or more often. -/
def Delivered (events : List (Event Uuid)) (state : Interleaving.State TimedCache Worker) : Prop :=
  ∀ event ∈ events, ∃ sweep, Worker.delivery event sweep ∈ state.procs ∧ sweep.Done

/-- What the events do not reach agrees already. -/
theorem settling_start {cache : Cache CacheKey}
    (coherent : Coherent tupleKeys db now (deliver tupleKeys events cache)) :
    Settling db now events (.start cache) := by
  intro key cached stored
  have present : cache key = some cached := stored
  by_cases reached : ((events.flatMap handle).any fun deletion => deletion.reaches tupleKeys key) = true
  · refine .inr ?_
    simp only [overdue, Timed.start, present, Option.isNone_some, if_neg Bool.false_ne_true,
      Option.isNone_none, reached,
      Bool.and_self]
  · rw [Bool.not_eq_true] at reached
    refine .inl (coherent key cached ?_)
    rw [deliver_eq]
    exact Store.removeWhere_some.mpr ⟨reached, present⟩

/-- An entry that an event reaches is none of those from before its delivery. -/
theorem timely_of_delivered (tracks : ∀ worker ∈ state.procs, Own db now state.shared worker)
    (delivered : Delivered events state) (key : CacheKey) :
    overdue events state.shared key = false := by
  rw [← Bool.not_eq_true]
  intro late
  rw [overdue, Bool.and_eq_true, List.any_eq_true, Option.isNone_iff_eq_none] at late
  obtain ⟨always, deletion, among, reaches⟩ := late
  obtain ⟨event, emitted, handled⟩ := List.mem_flatMap.mp among
  obtain ⟨sweep, present, done⟩ := delivered event emitted
  have known : sweep.Tracks state.shared ((handle event).map (command tupleKeys)) := tracks _ present
  rw [← reaches_command] at reaches
  obtain ⟨moment, _, empty⟩ := known.done done (List.mem_map_of_mem handled) reaches
  rw [always] at empty
  cases empty

theorem coherent_delivered {cache : Cache CacheKey}
    (coherent : Coherent tupleKeys db now (deliver tupleKeys events cache))
    (run : ((workers db now events).restrict (Heeds events)).Reaches ⟨.start cache, []⟩ state)
    (delivered : Delivered events state) :
    Coherent tupleKeys db now state.shared.store := by
  obtain ⟨settling, owns⟩ := (workers_outline db now events).reaches run
    ⟨settling_start coherent, fun worker member => absurd member List.not_mem_nil⟩
  intro key cached stored
  refine (settling key cached stored).resolve_right ?_
  rw [timely_of_delivered owns delivered key]
  exact Bool.false_ne_true

/-- After a mutation the events are delivered in any order and number, by consumers that scan
while checks fill the cache and entries expire: when all have been handled, the cache agrees
with the database. -/
theorem delivered_coherent (reached : Reachable db) (ids : Nat → Uuid) {mutation : Mutation}
    (admissible : mutation.Admissible) {cache : Cache CacheKey}
    (coherent : Coherent tupleKeys db now cache) :
    let served := mutation.serve ids now db
    ((workers served.db now served.tx.events).restrict (Heeds served.tx.events)).Reaches
      ⟨.start cache, []⟩ state →
      Delivered served.tx.events state → Coherent tupleKeys served.db now state.shared.store := by
  intro served run delivered
  refine coherent_delivered ?_ run delivered
  cases mutation with
  | request env tenantId actorId operation =>
    exact coherent_request reached.consistent env ids now tenantId actorId admissible coherent
  | purge => exact coherent_purge db now coherent

end Delivered

/-! Bob of the office becomes an admin; that he was refused is still in the cache. -/

section Example
open Reactivation (office office_reachable countedFrom)

def promotion : Mutation := .request plainEnvironment 21 22 (.assignToUser 31 ⟨11, none⟩)

def promoted : Served (effects Uuid) Db Unit := promotion.serve (countedFrom 41) 0 office

def managing : CheckAuthzDto Uuid := ⟨31, 21, "user.write", none, none⟩

def refusal : Cache CacheKey := Store.put .empty (tupleKeys.authz managing) (.decision false)

theorem refusal_coherent : Coherent tupleKeys office 0 refusal := by
  refine Store.Coherent.put (Store.coherent_empty _) ⟨?_, ?_, ?_⟩
  · intro tenantId userId is
    cases is
  · intro dto is
    have refused : decision office 0 managing = false := by decide
    rw [← decision_of_key is, refused]
  · intro tenantId dto is
    cases is

def deleted : TimedCache :=
  (Timed.start refusal).next (refusal.removeWhere (· == tupleKeys.perms 21 31))

def swept : TimedCache :=
  deleted.next (deleted.store.removeWhere fun key => decide (key ∈ [tupleKeys.authz managing]))

def told : Event Uuid := RbacServices.permissionChanged 21 31

def noted : Event Uuid := RbacServices.assignmentAudit .ROLE_ASSIGNED 21 22 31 11

def consumers : System TimedCache Worker :=
  (workers promoted.db 0 promoted.tx.events).restrict (Heeds promoted.tx.events)

theorem told_moves : System.Solo consumers
    (.start refusal, delivers (.start refusal) told)
    (swept, .delivery told
      ⟨0, [.one (tupleKeys.perms 21 31), .matching (tupleKeys.authzOfUser 21 31)], .idle, []⟩) := by
  have found : ∀ key ∈ [tupleKeys.authz managing], tupleKeys.authzOfUser 21 31 key = true := by decide
  have complete : ∀ key, tupleKeys.authzOfUser 21 31 key = true →
    ¬deleted.EmptySince deleted.clock key →
      key ∈ [tupleKeys.authz managing] := by
    intro key _ always
    by_contra other
    rw [List.mem_singleton] at other
    have absent : refusal.removeWhere (· == tupleKeys.perms 21 31) key = none := by
      simp only [Store.removeWhere, refusal, Store.put_other _ _ other, Store.empty_apply, ite_self]
    exact always (by
      refine ⟨1, le_rfl, ?_⟩
      simp only [deleted, Timed.next, absent, Option.isNone_none, if_true]
      rfl)
  refine .head ⟨trivial, .delivery (.delete _)⟩ (.head ⟨trivial, .delivery (.scan _)⟩ ?_)
  refine .head ⟨trivial, .delivery (.batch [tupleKeys.authz managing] found)⟩ ?_
  exact .head ⟨trivial, .delivery (.exhausted _ complete)⟩
    (.head ⟨trivial, .delivery (.deleteAll (List.cons_ne_nil _ _))⟩ .refl)

theorem delivered_coherent_promotion :
    Coherent tupleKeys promoted.db 0 swept.store ∧ decision promoted.db 0 managing = true ∧
      refusal (tupleKeys.authz managing) = some (.decision false) := by
  have emitted : promoted.tx.events = [noted, told] := by decide
  have notes : consumers.spawns (.start refusal) (delivers (.start refusal) noted) :=
    Or.inr ⟨noted, by rw [emitted]; exact List.mem_cons_self, rfl⟩
  have tells : consumers.spawns (.start refusal) (delivers (.start refusal) told) :=
    Or.inr ⟨told, by rw [emitted]; exact List.mem_cons_of_mem _ List.mem_cons_self, rfl⟩
  have first : consumers.Reaches ⟨.start refusal, []⟩ ⟨.start refusal,
    [delivers (.start refusal) noted]⟩ :=
    System.reaches_spawn notes .refl
  refine ⟨delivered_coherent office_reachable (countedFrom 41)
    (show promotion.Admissible from trivial) refusal_coherent
    (first.trans (System.reaches_spawn tells told_moves)) ?_, by decide, by decide⟩
  intro event among
  change event ∈ promoted.tx.events at among
  rw [emitted, List.mem_cons, List.mem_singleton] at among
  rcases among with rfl | rfl
  · exact ⟨_, List.mem_cons_self, rfl⟩
  · exact ⟨_, List.mem_cons_of_mem _ List.mem_cons_self, rfl⟩

end Example

end GenericIam.CacheDeliveries
