import GenericIam.Json
import GenericIam.Pagination
import GenericIam.TenantRecords
import Mathlib.Data.List.Flatten

/-! The audit log: how events get into it in batches, and how it is read page by page. -/

namespace GenericIam.AuditLogs
open Table Database Identifiers TenantRecords Pagination

/-! Writing. -/

section Batches

structure AuditEventPayload where
  eventType : String
  tenantId : Option String := none
  actorId : Option String := none
  userId : Option String := none
  resourceType : Option String := none
  resourceId : Option String := none
  correlationId : Option String := none
  payload : Option (List (String × Json)) := none
  changes : Option Json := none

/-- The columns that an insert fills; the id and the time are defaults of the table. -/
structure AuditRow where
  eventType : String
  tenantId : Option String
  actorId : Option String
  actorType : String
  resource : List (String × Json)
  metadata : List (String × Json)
  changes : Option Json

def holds : Json → Bool
  | .null | .bool false | .number 0 | .string "" => false
  | _ => true

def defined (name : String) (value : Option String) : List (String × Json) :=
  (value.map fun text => (name, .string text)).toList

/-- `auditRepository.create`; a property of the payload replaces the one of the same name. -/
def rowOf (event : AuditEventPayload) : AuditRow where
  eventType := if event.eventType = "" then "UNKNOWN" else event.eventType
  tenantId := event.tenantId
  actorId := event.actorId
  actorType := if event.userId.any (· ≠ "") then "user" else "system"
  resource := defined "type" event.resourceType ++ defined "id" event.resourceId
  metadata :=
    let payload := event.payload.getD []
    (if payload.any fun field => field.1 == "correlation_id" then []
      else defined "correlation_id" event.correlationId) ++ payload
  changes := event.changes.filter holds

/-- `auditRepository.insert`: one statement, which stores all rows or none. `accepts` is what
PostgreSQL accepts as a row of its own. -/
def insert (accepts : AuditRow → Bool) (rows log : List AuditRow) : Option (List AuditRow) :=
  if rows.all accepts then some (log ++ rows) else none

/-- An insert that is refused is reported and forgotten. -/
def flushBatch (accepts : AuditRow → Bool) (log : List AuditRow)
    (batch : List AuditEventPayload) : List AuditRow :=
  match insert accepts (batch.map rowOf) log with
  | some stored => stored
  | none => log

/-- The subscription of `onModuleInit`, with the batches in the order in which they are flushed. -/
def deliver (accepts : AuditRow → Bool) (batches : List (List AuditEventPayload))
    (log : List AuditRow) : List AuditRow :=
  (batches.filter fun batch => 0 < batch.length).foldl (flushBatch accepts) log

/-- How `bufferTime` may cut the pushed events into batches. -/
structure Buffers (events : List AuditEventPayload)
    (batches : List (List AuditEventPayload)) : Prop where
  whole : batches.flatten = events
  small : ∀ batch ∈ batches, batch.length ≤ 100

variable (accepts : AuditRow → Bool)

def acceptable (events : List AuditEventPayload) : List AuditRow := (events.map rowOf).filter accepts

def Uniform (batch : List AuditEventPayload) : Prop :=
  (∃ event ∈ batch, accepts (rowOf event) = true) → ∀ event ∈ batch, accepts (rowOf event) = true

def storedOf (batch : List AuditEventPayload) : List AuditRow :=
  if (batch.map rowOf).all accepts then batch.map rowOf else []

variable {accepts}

theorem flushBatch_eq (log : List AuditRow) (batch : List AuditEventPayload) :
    flushBatch accepts log batch = log ++ storedOf accepts batch := by
  unfold flushBatch insert storedOf
  split
  next found =>
    split at found
    · next all =>
      cases found
      rw [if_pos all]
    · cases found
  next found =>
    split at found
    · cases found
    · next refused => rw [if_neg refused, List.append_nil]

theorem deliver_eq (batches : List (List AuditEventPayload)) (log : List AuditRow) :
    deliver accepts batches log = log ++ batches.flatMap (storedOf accepts) := by
  unfold deliver
  induction batches generalizing log with
  | nil => simp
  | cons batch batches ih =>
    cases batch with
    | nil =>
      rw [List.filter_cons_of_neg (by simp), ih, List.flatMap_cons]
      simp [storedOf]
    | cons event batch =>
      rw [List.filter_cons_of_pos (by simp), List.foldl_cons, ih, flushBatch_eq, List.flatMap_cons,
        List.append_assoc]

theorem storedOf_sublist (batch : List AuditEventPayload) :
    (storedOf accepts batch).Sublist (acceptable accepts batch) := by
  unfold storedOf acceptable
  split
  · next all => rw [List.filter_eq_self.mpr (List.all_eq_true.mp all)]
  · exact List.nil_sublist _

theorem storedOf_length_iff (batch : List AuditEventPayload) :
    (storedOf accepts batch).length = (acceptable accepts batch).length ↔ Uniform accepts batch := by
  constructor
  · intro same holds
    obtain ⟨event, member, accepted⟩ := holds
    have kept : rowOf event ∈ acceptable accepts batch :=
      List.mem_filter.mpr ⟨List.mem_map_of_mem member, accepted⟩
    rw [← (storedOf_sublist batch).eq_of_length same, storedOf] at kept
    split at kept
    · next all =>
      intro other present
      exact List.all_eq_true.mp all _ (List.mem_map_of_mem present)
    · cases kept
  · intro uniform
    by_cases some_event : ∃ event ∈ batch, accepts (rowOf event) = true
    · have all : (batch.map rowOf).all accepts = true := by simpa using uniform some_event
      rw [storedOf, if_pos all, acceptable, List.filter_eq_self.mpr (List.all_eq_true.mp all)]
    · have none_kept : acceptable accepts batch = [] := by
        rw [acceptable, List.filter_eq_nil_iff]
        intro row present accepted
        obtain ⟨event, member, rfl⟩ := List.mem_map.mp present
        exact some_event ⟨event, member, accepted⟩
      rw [none_kept, ← List.sublist_nil.mp (none_kept ▸ storedOf_sublist batch)]

theorem acceptable_flatten (batches : List (List AuditEventPayload)) :
    acceptable accepts batches.flatten = batches.flatMap (acceptable accepts) := by
  induction batches with
  | nil => rfl
  | cons batch batches ih =>
    rw [List.flatMap_cons, ← ih]
    simp [acceptable]

/-- A log that has lost no row has lost none in any batch. -/
theorem lengths_iff (batches : List (List AuditEventPayload)) :
    (batches.flatMap (storedOf accepts)).length = (batches.flatMap (acceptable accepts)).length ↔
      ∀ batch ∈ batches, Uniform accepts batch := by
  induction batches with
  | nil => simp
  | cons batch batches ih =>
    have first : (storedOf accepts batch).length ≤ (acceptable accepts batch).length :=
      (storedOf_sublist batch).length_le
    have rest :
      (batches.flatMap (storedOf accepts)).length ≤ (batches.flatMap (acceptable accepts)).length :=
      (List.Sublist.flatMap_right batches fun batch _ => storedOf_sublist batch).length_le
    rw [List.forall_mem_cons, ← ih, ← storedOf_length_iff, List.flatMap_cons, List.flatMap_cons,
      List.length_append, List.length_append]
    omega

/-- However the events are cut and in whatever order the batches are flushed: the rows that
PostgreSQL would accept are stored, each once, exactly when no batch mixes them with others. -/
theorem acceptable_stored_iff (accepts : AuditRow → Bool) (events : List AuditEventPayload)
    (batches flushed : List (List AuditEventPayload)) (log : List AuditRow)
    (buffers : Buffers events batches) (order : flushed.Perm batches) :
    (deliver accepts flushed log).Perm (log ++ acceptable accepts events) ↔
      ∀ batch ∈ batches, Uniform accepts batch := by
  rw [deliver_eq, List.perm_append_left_iff, ← buffers.whole, acceptable_flatten]
  have reordered : (flushed.flatMap (storedOf accepts)).Perm (batches.flatMap (storedOf accepts)) :=
    order.flatMap_right _
  constructor
  · intro same
    rw [← lengths_iff, ← reordered.length_eq, same.length_eq]
  · intro uniform
    have same : batches.flatMap (storedOf accepts) = batches.flatMap (acceptable accepts) := by
      refine List.flatMap_congr fun batch member => ?_
      exact (storedOf_sublist batch).eq_of_length
        ((storedOf_length_iff batch).mpr (uniform batch member))
    rw [← same]
    exact reordered

def uuidColumns (row : AuditRow) : Bool := row.tenantId.all isUuid && row.actorId.all isUuid

def loggedOut : AuditEventPayload where
  eventType := "AUTH_LOGOUT"
  tenantId := some "0d6eafee-18f7-4b74-a1a6-0b8d0c6ab0f1"

def misaddressed : AuditEventPayload where
  eventType := "AUTH_LOGOUT"
  tenantId := some "acme"

/-- The logout is lost with its neighbour. -/
theorem logout_lost :
    Buffers [loggedOut, misaddressed] [[loggedOut, misaddressed]] ∧
      uuidColumns (rowOf loggedOut) = true ∧
    ¬(deliver uuidColumns [[loggedOut, misaddressed]] []).Perm
      ([] ++ acceptable uuidColumns [loggedOut, misaddressed]) := by
  refine ⟨⟨rfl, by simp⟩, by decide, fun same => ?_⟩
  have lengths := same.length_eq
  exact absurd lengths (by decide)

theorem acceptable_stored_apart : (deliver uuidColumns [[misaddressed], [loggedOut]] []).Perm
    ([] ++ acceptable uuidColumns [loggedOut, misaddressed]) ↔ ∀ batch ∈ [[loggedOut], [misaddressed]],
      Uniform uuidColumns batch :=
  acceptable_stored_iff uuidColumns [loggedOut, misaddressed] [[loggedOut], [misaddressed]]
    [[misaddressed], [loggedOut]] []
    ⟨rfl, by simp⟩ (List.Perm.swap _ _ _)

end Batches

/-! Reading. -/

section Pages
variable {Id : Type}

/-- The answer of `queryLogs` when the database lists the rows that it has found in this order. -/
def queryLogsIn (order : List AuditLogEntity) (query : AuditQueryDto Id) : AuditPage :=
  let page := orDefault query.page 1
  let limit := orDefault query.limit 100
  ⟨(order.drop ((page - 1) * limit)).take limit, order.length, page, limit⟩

def atPage (filters : AuditQueryDto Id) (limit index : Nat) : AuditQueryDto Id :=
  { filters with page := some (index + 1), limit := some limit }

/-- The data of the pages 1, 2, … one after the other, every page with an order of its own. -/
def collected (filters : AuditQueryDto Id) (limit total : Nat)
    (orders : Nat → List AuditLogEntity) : List AuditLogEntity :=
  (List.range (pageCount limit total)).flatMap fun index =>
    (queryLogsIn (orders index) (atPage filters limit index)).data

theorem collected_eq (filters : AuditQueryDto Id) {limit : Nat} (positive : 0 < limit) (total : Nat)
    (orders : Nat → List AuditLogEntity) :
    collected filters limit total orders = allPages limit total orders := by
  obtain ⟨less, rfl⟩ := Nat.exists_eq_succ_of_ne_zero (Nat.ne_of_gt positive)
  rfl

variable [Identifier Id]

/-- What the database may answer: newest first, and otherwise as it likes. -/
abbrev Lists (db : Db) (query : AuditQueryDto Id) (order : List AuditLogEntity) : Prop :=
  Arranges AuditLogEntity.createdAt (db.auditLogs.find query.admits) order

theorem queryLogs_lists (db : Db) (query : AuditQueryDto Id) :
    ∃ order, Lists db query order ∧ queryLogs db query = queryLogsIn order query :=
  ⟨_, arranges_mergeSort AuditLogEntity.createdAt _, rfl⟩

/-- The pages partition the log, however the database orders the rows of one time on each of
them, exactly when the rows of every time that the filters admit fall on one page. -/
theorem pages_partition_iff (db : Db) (filters : AuditQueryDto Id) (limit : Nat)
    (positive : 0 < limit) :
    (∀ orders : Nat → List AuditLogEntity,
      (∀ index, Lists db (atPage filters limit index) (orders index)) →
      (collected filters limit (queryLogs db filters).total orders).Perm
        (db.auditLogs.find filters.admits)) ↔
        FitsPages AuditLogEntity.createdAt limit (db.auditLogs.find filters.admits) := by
  have distinct : (db.auditLogs.find filters.admits).Nodup := (db.auditLogs.distinct.of_map _).filter _
  have total : (queryLogs db filters).total = (db.auditLogs.find filters.admits).length :=
    (List.mergeSort_perm _ _).length_eq
  rw [← pages_perm_iff positive distinct, total]
  simp only [collected_eq filters positive]
  rfl

/-- Two rows of one insert. -/
def twins : Db where
  auditLogs :=
    ⟨[⟨1, 7, "AUTH_LOGOUT", none, none, none, none, none⟩,
    ⟨2, 7, "AUTH_LOGOUT", none, none, none, none, none⟩], by decide⟩

/-- Page by page the first of them is shown twice and the second never. -/
theorem twin_missing :
    ¬∀ orders : Nat → List AuditLogEntity,
      (∀ index, Lists twins (atPage ({} : AuditQueryDto Uuid) 1 index) (orders index)) →
    (collected ({} : AuditQueryDto Uuid) 1
      (queryLogs twins ({} : AuditQueryDto Uuid)).total orders).Perm
      (twins.auditLogs.find ({} : AuditQueryDto Uuid).admits) := by
  intro complete
  have shown :=
      complete (fun index => if index = 0 then twins.auditLogs.rows
      else twins.auditLogs.rows.reverse) fun index => by
    split
    · exact ⟨List.Perm.refl _, by decide⟩
    · exact ⟨List.reverse_perm _, by decide⟩
  have total : (queryLogs twins ({} : AuditQueryDto Uuid)).total = 2 :=
    (List.mergeSort_perm _ _).length_eq
  rw [total] at shown
  exact absurd (shown.nodup_iff.mpr (by decide)) (by decide)

theorem pages_partition_twins : (∀ orders : Nat → List AuditLogEntity,
    (∀ index, Lists twins (atPage ({ eventType := some "AUTH_LOGOUT" } : AuditQueryDto Uuid) 2 index)
      (orders index)) →
      (collected ({ eventType := some "AUTH_LOGOUT" } : AuditQueryDto Uuid) 2
        (queryLogs twins ({ eventType := some "AUTH_LOGOUT" } : AuditQueryDto Uuid)).total orders).Perm
          (twins.auditLogs.find ({ eventType := some "AUTH_LOGOUT" } : AuditQueryDto Uuid).admits)) ↔
    FitsPages AuditLogEntity.createdAt 2
      (twins.auditLogs.find ({ eventType := some "AUTH_LOGOUT" } : AuditQueryDto Uuid).admits) :=
  pages_partition_iff twins { eventType := some "AUTH_LOGOUT" } 2 (by decide)

end Pages

end GenericIam.AuditLogs
