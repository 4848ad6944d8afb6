import GenericIam.Batches
import GenericIam.ReachableStates

/-! What the permissions of a role are after an update of them that adds some and removes some,
and which events tell of it. -/

namespace GenericIam.PermissionBatches
open Table Database Identifiers Events Transaction Handlers
open RbacServices TenantWrites Batches ReachableStates

variable {Id : Type} [Identifier Id]

def slot (roleId : Uuid) (rp : RolePermissionEntity) : Option Uuid :=
  if rp.roleId = roleId then some rp.permissionId else none

theorem slot_eq_some {roleId permissionId : Uuid} {rp : RolePermissionEntity} :
    slot roleId rp = some permissionId ↔ rp.roleId = roleId ∧ rp.permissionId = permissionId := by
  simp [slot]

def mapped (db : Db) (roleId permissionId : Uuid) : Bool :=
  db.rolePermissions.any fun rp => slot roleId rp == some permissionId

abbrev Updated (roleId : Uuid) (before : Table RolePermissionEntity)
    (changes : List (Uuid × Option Unit)) (after : Table RolePermissionEntity) :
    Prop :=
  Batch (slot roleId) (fun _ => ()) (· ∈ before) changes (· ∈ after)

def held (db : Db) (roleId : Uuid) (changes : List (Uuid × Option Unit)) (permissionId : Uuid) : Bool :=
  match last changes permissionId with
  | some outcome => outcome.isSome
  | none => mapped db roleId permissionId

theorem mapped_iff {db : Db} {roleId permissionId : Uuid} :
    mapped db roleId permissionId = true ↔ ∃ rp ∈ db.rolePermissions,
      slot roleId rp = some permissionId := by
  simp [mapped, any_iff]

theorem mapped_eq_false {db : Db} {roleId permissionId : Uuid}
    (absent : ∀ rp ∈ db.rolePermissions, slot roleId rp ≠ some permissionId) :
    mapped db roleId permissionId = false := by
  rw [← Bool.not_eq_true, mapped_iff]
  intro holds
  obtain ⟨rp, present, own⟩ := holds
  exact absent rp present own

theorem found_iff_held {db : Db} {roleId : Uuid} {changes : List (Uuid × Option Unit)}
    {after : Table RolePermissionEntity} (batch : Updated roleId db.rolePermissions changes after)
    (permissionId : Uuid) :
    (∃ rp ∈ after, slot roleId rp = some permissionId) ↔
      held db roleId changes permissionId = true := by
  have found := batch.found_iff permissionId ()
  simp only [and_true] at found
  rw [found, ← mapped_iff]
  unfold held
  cases last changes permissionId with
  | none => simp
  | some outcome => cases outcome <;> simp

/-! The handlers. -/

section Handlers
variable {tenantId : Id} {ids : Nat → Uuid} {tx : Tx (effects Id) Db}

/-- The mapping of the role that the caller sees. -/
theorem findMapping_iff {roleId permissionId : Uuid} {db : Db}
    (custom : CustomRoleOf db (value tenantId) roleId) {rp : RolePermissionEntity} :
    (rp ∈ (shown (.tenantUser (value tenantId)) db).rolePermissions ∧
      (rp.roleId == roleId && rp.permissionId == permissionId) = true) ↔
      rp ∈ db.rolePermissions ∧ slot roleId rp = some permissionId := by
  obtain ⟨role, present, same, _, own⟩ := custom
  rw [slot_eq_some]
  simp only [mem_seen_rolePermissions, Bool.and_eq_true, beq_iff_eq]
  constructor
  · exact fun both => ⟨both.1.1, both.2⟩
  · exact fun both => ⟨⟨both.1, role, present, same.trans both.2.1.symm, .inr own⟩, both.2⟩

theorem unmapped_of_missing {roleId permissionId : Uuid} {db : Db}
    (custom : CustomRoleOf db (value tenantId) roleId)
    (missing : (shown (.tenantUser (value tenantId)) db).rolePermissions.findOne
      (fun rp => rp.roleId == roleId && rp.permissionId == permissionId) =
      none) : ∀ rp ∈ db.rolePermissions, slot roleId rp ≠ some permissionId := by
  intro rp present own
  obtain ⟨visible, hit⟩ := (findMapping_iff custom).mpr ⟨present, own⟩
  have missed := findOne_none.mp missing rp visible
  rw [hit] at missed
  cases missed

theorem returns_addMapping {roleId : Id} (actorId : Id) (permission : PermissionEntity)
    {post : Unit → Tx (effects Id) Db → Prop}
    (custom : CustomRoleOf tx.db (value tenantId) (value roleId))
    (single : Single (slot (value roleId)) (· ∈ tx.db.rolePermissions))
    (done : ∀ after, after.db = { tx.db with rolePermissions := after.db.rolePermissions } →
      Sets (slot (value roleId)) (fun _ => ()) (· ∈ tx.db.rolePermissions) permission.id (some ())
        (· ∈ after.db.rolePermissions) →
        after.events = tx.events ++ (if !mapped tx.db (value roleId) permission.id then
          [mappingAudit .PERMISSION_ADDED_TO_ROLE tenantId actorId roleId permission.id] else []) →
            post () after) :
    Returns tenantId ids (addMapping roleId tenantId actorId permission) post tx := by
  unfold addMapping findMapping
  simp only [Returns, wp_bind, wp_visible, wp_pure]
  split
  · next existing found =>
    obtain ⟨member, own⟩ := (findMapping_iff custom).mp (findOne_some found)
    have there : mapped tx.db (value roleId) permission.id = true :=
      mapped_iff.mpr ⟨existing, member, own⟩
    refine done tx rfl (Sets.keep single member own) ?_
    simp [there]
  · next missing =>
    have absent := unmapped_of_missing custom missing
    have unmapped := mapped_eq_false absent
    simp only [wp_bind, wp_newId]
    refine wp_persist trivial ?_ trivial
    intro db applied
    obtain ⟨rolePermissions, inserted, rfl⟩ := insertRolePermission_some applied
    have created :
      slot (value roleId) (⟨ids tx.generated, value roleId, permission.id⟩ : RolePermissionEntity) =
      some permission.id :=
      slot_eq_some.mpr ⟨rfl, rfl⟩
    rw [wp_emit]
    refine done _ rfl (Sets.put created ?_) ?_
    · intro rp
      refine (mem_insert inserted).trans (or_congr_left ?_)
      exact ⟨fun old => ⟨old, absent rp old⟩, fun both => both.1⟩
    · rw [unmapped]
      rfl

theorem returns_removeMapping {roleId : Id} (actorId : Id) (permission : PermissionEntity)
    {post : Unit → Tx (effects Id) Db → Prop}
    (custom : CustomRoleOf tx.db (value tenantId) (value roleId))
    (single : Single (slot (value roleId)) (· ∈ tx.db.rolePermissions))
    (done : ∀ after, after.db = { tx.db with rolePermissions := after.db.rolePermissions } →
      Sets (slot (value roleId)) (fun _ => ())
        (· ∈ tx.db.rolePermissions) permission.id none (· ∈ after.db.rolePermissions) →
        after.events = tx.events ++ (if mapped tx.db (value roleId) permission.id then
          [mappingAudit .PERMISSION_REMOVED_FROM_ROLE tenantId actorId roleId permission.id] else []) →
            post () after) :
    Returns tenantId ids (removeMapping roleId tenantId actorId permission) post tx := by
  unfold removeMapping findMapping
  simp only [Returns, wp_bind, wp_visible, wp_pure]
  split
  · next missing =>
    have absent : ∀ rp ∈ tx.db.rolePermissions, slot (value roleId) rp ≠ some permission.id :=
      unmapped_of_missing custom missing
    have unmapped := mapped_eq_false absent
    refine done tx rfl (Sets.drop fun rp => ⟨fun old => ⟨old, absent rp old⟩, fun both => both.1⟩) ?_
    rw [unmapped]
    simp
  · next existing found =>
    obtain ⟨member, own⟩ := (findMapping_iff custom).mp (findOne_some found)
    have there : mapped tx.db (value roleId) permission.id = true :=
      mapped_iff.mpr ⟨existing, member, own⟩
    have visible : (Session.tenantUser (value tenantId)).admitsRolePermission tx.db existing = true := by
      obtain ⟨role, present, same, _, tenant⟩ := custom
      refine any_iff.mpr ⟨role, present, ?_⟩
      simp [Session.admitsRole, same, tenant, (slot_eq_some.mp own).1]
    rw [wp_bind]
    refine wp_persist trivial ?_ trivial
    intro db applied
    cases applied
    rw [wp_emit]
    refine done _ rfl (Sets.drop ?_) ?_
    · intro rp
      simp only [Db.deleteRolePermission, mem_select, Bool.not_eq_true', Bool.and_eq_false_iff,
        beq_eq_false_iff_ne]
      refine and_congr_right fun old => ?_
      constructor
      · intro either here
        have same : rp = existing := single old member here own
        subst same
        rcases either with other | hidden
        · exact other rfl
        · rw [visible] at hidden
          cases hidden
      · intro other
        refine .inl fun same => other ?_
        rw [eq_of_key_eq old member same]
        exact own
    · rw [if_pos there]

def additions (found : List PermissionEntity) : List (Uuid × Option Unit) :=
  found.map fun permission => (permission.id, some ())

def removals (found : List PermissionEntity) : List (Uuid × Option Unit) :=
  found.map fun permission => (permission.id, none)

structure Updating (roleId : Uuid) (start : Db) (changes : List (Uuid × Option Unit))
    (during : Db) : Prop where
  frame : during = { start with rolePermissions := during.rolePermissions }
  batch : Updated roleId start.rolePermissions changes during.rolePermissions

theorem Updating.mapped_eq {roleId : Uuid} {start during : Db} {changes : List (Uuid × Option Unit)}
    (updating : Updating roleId start changes during) (permissionId : Uuid) :
    mapped during roleId permissionId = held start roleId changes permissionId := by
  rw [Bool.eq_iff_iff, mapped_iff]
  exact found_iff_held updating.batch permissionId

theorem Updating.next {roleId permissionId : Uuid} {start during after : Db}
    {changes : List (Uuid × Option Unit)} {outcome : Option Unit}
    (updating : Updating roleId start changes during)
    (frame : after = { during with rolePermissions := after.rolePermissions })
    (sets : Sets (slot roleId) (fun _ => ()) (· ∈ during.rolePermissions) permissionId outcome
      (· ∈ after.rolePermissions)) :
    Updating roleId start (changes ++ [(permissionId, outcome)]) after := by
  refine ⟨?_, updating.batch.next sets⟩
  rw [frame, updating.frame]

def catalogued (db : Db) (named : List Id) : List PermissionEntity :=
  db.permissions.find fun permission => (named.map PermissionRef.byId).any fun ref =>
    ref.names permission

theorem mem_catalogued {db : Db} {named : List Id} {permission : PermissionEntity} :
    permission ∈ catalogued db named ↔ permission ∈ db.permissions ∧
      permission.id ∈ named.map value := by
  unfold catalogued
  rw [mem_find]
  refine and_congr_right fun _ => ?_
  simp only [List.any_map, List.any_eq_true, Function.comp, PermissionRef.names,
    beq_iff_eq, List.mem_map]
  exact exists_congr fun id => and_congr_right fun _ => eq_comm

theorem catalogued_ids_nodup (db : Db) (named : List Id) :
    ((catalogued db named).map PermissionEntity.id).Nodup :=
  db.permissions.distinct.sublist (List.filter_sublist.map _)

def addedIds (db : Db) (roleId : Uuid) (add : List PermissionEntity) : List Uuid :=
  (add.map PermissionEntity.id).filter fun permissionId => !mapped db roleId permissionId

def removedIds (db : Db) (roleId : Uuid) (add remove : List PermissionEntity) : List Uuid :=
  (remove.map PermissionEntity.id).filter fun permissionId =>
    held db roleId (additions add) permissionId

theorem custom_of_frame {tenantId roleId : Uuid} {start during : Db}
    {changes : List (Uuid × Option Unit)} (updating : Updating roleId start changes during)
    (custom : CustomRoleOf start tenantId roleId) : CustomRoleOf during tenantId roleId := by
  rw [updating.frame]
  exact custom

def auditsOf (eventType : AuditEventType) (tenantId actorId roleId : Id)
    (permissionIds : List Uuid) : List (Event Id) :=
  permissionIds.map (mappingAudit eventType tenantId actorId roleId)

/-- A permission that has not had its turn yet. -/
theorem held_fresh {roleId : Uuid} {start : Db} {changes : List (Uuid × Option Unit)}
    {done rest : List PermissionEntity} {item : PermissionEntity} (outcome : Option Unit)
    (distinct : ((done ++ item :: rest).map PermissionEntity.id).Nodup) :
    held start roleId (changes ++ done.map fun permission => (permission.id, outcome)) item.id =
      held start roleId changes item.id := by
  have untouched : last (done.map fun permission => (permission.id, outcome)) item.id = none := by
    rw [last_eq_none]
    intro change member same
    obtain ⟨other, present, rfl⟩ := List.mem_map.mp member
    rw [List.map_append, List.nodup_append] at distinct
    exact distinct.2.2 other.id (List.mem_map_of_mem present) item.id
      (List.mem_map_of_mem List.mem_cons_self) same
  unfold held
  rw [last_append, untouched, Option.none_or]

/-- A loop over permissions of which each round gives one of them the outcome, and tells so
where `tells` finds it worth telling whether the role had it. -/
theorem returns_forEach {roleId actorId : Id} {body : PermissionEntity → Handler Id Unit}
    {outcome : Option Unit} {eventType : AuditEventType} (tells : Bool → Bool)
    (round : ∀ (permission : PermissionEntity) {post : Unit → Tx (effects Id) Db → Prop}
      {tx : Tx (effects Id) Db},
      CustomRoleOf tx.db (value tenantId) (value roleId) →
        Single (slot (value roleId)) (· ∈ tx.db.rolePermissions) →
      (∀ after, after.db = { tx.db with rolePermissions := after.db.rolePermissions } →
        Sets (slot (value roleId)) (fun _ => ()) (· ∈ tx.db.rolePermissions) permission.id outcome
          (· ∈ after.db.rolePermissions) →
          after.events = tx.events ++ (if tells (mapped tx.db (value roleId) permission.id) then
            [mappingAudit eventType tenantId actorId roleId permission.id] else []) → post () after) →
      Returns tenantId ids (body permission) post tx)
    {start : Db} {changes : List (Uuid × Option Unit)} {found : List PermissionEntity}
    (distinct : (found.map PermissionEntity.id).Nodup)
    (custom : CustomRoleOf start (value tenantId) (value roleId))
    (updating : Updating (value roleId) start changes tx.db)
    {post : Unit → Tx (effects Id) Db → Prop}
    (finish : ∀ after,
      Updating (value roleId) start
      (changes ++ found.map fun permission => (permission.id, outcome)) after.db →
      after.events = tx.events ++ auditsOf eventType tenantId actorId roleId
        ((found.map PermissionEntity.id).filter fun permissionId =>
          tells (held start (value roleId) changes permissionId)) → post () after) :
    Returns tenantId ids (forEach found body) post tx := by
  refine @wp_forEach_done _ _ _ _ _ _ _ _ (fun done (during : Tx (effects Id) Db) =>
    Updating (value roleId) start (changes ++ done.map fun permission =>
      (permission.id, outcome)) during.db ∧
    during.events = tx.events ++ auditsOf eventType tenantId actorId roleId
      ((done.map PermissionEntity.id).filter fun permissionId =>
        tells (held start (value roleId) changes permissionId))) _ _ _ ?_ ?_
    fun after sofar => finish after sofar.1 sofar.2
  · refine ⟨?_, (List.append_nil _).symm⟩
    rw [List.map_nil, List.append_nil]
    exact updating
  · intro done item rest whole during sofar
    obtain ⟨updated, told⟩ := sofar
    rw [← whole] at distinct
    have same : mapped during.db (value roleId) item.id =
        held start (value roleId) changes item.id := by
      rw [updated.mapped_eq]
      exact held_fresh outcome distinct
    apply round item (custom_of_frame updated custom) updated.batch.single
    intro after frame sets events
    constructor
    · rw [List.map_append, ← List.append_assoc]
      exact updated.next frame sets
    · rw [events, told, same, List.append_assoc, List.map_append, List.filter_append]
      unfold auditsOf
      rw [List.map_append]
      cases here : tells (held start (value roleId) changes item.id) <;> simp [here]

theorem returns_updateRolePermissions {roleId : Id} (actorId : Id) (add remove : List Id)
    (start : tx.events = []) (custom : CustomRoleOf tx.db (value tenantId) (value roleId))
    (single : Single (slot (value roleId)) (· ∈ tx.db.rolePermissions)) :
    Returns tenantId ids
      (updateRolePermissions roleId tenantId ⟨add.map .byId, remove.map .byId⟩ actorId) (fun _ after =>
      Updating (value roleId) tx.db
        (additions (catalogued tx.db add) ++ removals (catalogued tx.db remove)) after.db ∧
      after.events = auditsOf .PERMISSION_ADDED_TO_ROLE tenantId actorId roleId
        (addedIds tx.db (value roleId) (catalogued tx.db add)) ++
        auditsOf .PERMISSION_REMOVED_FROM_ROLE tenantId actorId roleId
          (removedIds tx.db (value roleId) (catalogued tx.db add) (catalogued tx.db remove)) ++
        [rolePermissionsChanged tenantId roleId]) tx := by
  unfold updateRolePermissions findPermissions
  rw [Returns, wp_bind]
  apply returns_findOneForTenant
  intro role _ _ _
  rw [wp_bind]
  refine wp_refuseIf ?_ fun _ => trivial
  intro _
  simp only [wp_bind, wp_visible, wp_pure]
  apply returns_forEach not (fun permission {_ _} => returns_addMapping actorId permission)
    (catalogued_ids_nodup tx.db add) custom
    ⟨rfl, Batch.start single⟩
  intro middle updating told
  have permissions : (shown (.tenantUser (value tenantId)) middle.db).permissions =
      tx.db.permissions := by
    rw [updating.frame]
    rfl
  simp only [wp_bind, wp_visible, wp_pure]
  rw [permissions]
  apply returns_forEach id (fun permission {_ _} => returns_removeMapping actorId permission)
    (catalogued_ids_nodup tx.db remove) custom updating
  intro after updated events
  rw [wp_emit]
  refine ⟨updated, congrArg (· ++ [rolePermissionsChanged tenantId roleId]) ?_⟩
  rw [events, told, start]
  rfl

end Handlers

/-! A whole update. -/

def Referenced (db : Db) : Prop :=
  ∀ rp ∈ db.rolePermissions, ∃ permission ∈ db.permissions, permission.id = rp.permissionId

theorem permissions_kept {session : Session} {write : Write} {db db' : Db}
    (applied : write.apply session db = some db') {permission : PermissionEntity}
    (before : permission ∈ db.permissions) : permission ∈ db'.permissions := by
  have frame := sameBut_apply applied
  cases write with
  | insertPermission row =>
    obtain ⟨permissions, inserted, rfl⟩ := insertPermission_some applied
    exact (mem_insert inserted).mpr (.inl before)
  | _ =>
    rw [frame.permissions (by simp [Write.changes])]
    exact before

theorem referenced_apply {session : Session} {write : Write} {db db' : Db} (referenced : Referenced db)
    (applied : write.apply session db = some db') : Referenced db' := by
  intro rp after
  have known : (∃ permission ∈ db.permissions, permission.id = rp.permissionId) →
      ∃ permission ∈ db'.permissions, permission.id = rp.permissionId :=
    fun ⟨permission, member, same⟩ => ⟨permission, permissions_kept applied member, same⟩
  apply known
  have frame := sameBut_apply applied
  cases write with
  | insertRolePermission row =>
    obtain ⟨rolePermissions, inserted, rfl⟩ := insertRolePermission_some applied
    rcases (mem_insert inserted).mp after with old | rfl
    · exact referenced rp old
    · simp only [Write.apply, Db.insertRolePermission] at applied
      split at applied
      · next accepted =>
        simp only [Bool.and_eq_true, Db.hasPermissionRow, any_iff, beq_iff_eq] at accepted
        exact accepted.1.2
      · cases applied
  | deleteRolePermission row =>
    cases applied
    exact referenced rp (mem_select.mp after).1
  | deleteRole row =>
    cases applied
    unfold Db.deleteRole at after
    split at after
    · exact referenced rp (mem_select.mp after).1
    · exact referenced rp after
  | _ =>
    rw [frame.rolePermissions (by simp [Write.changes])] at after
    exact referenced rp after

theorem referenced_of_reachable {db : Db} (reached : Reachable db) : Referenced db :=
  reached.invariant (fun _ _ impossible =>
    absurd impossible (not_mem_empty _)) fun referenced applied => referenced_apply referenced applied

/-- Removals decide before additions do. -/
theorem held_iff (db : Db) (roleId : Uuid) (add remove : List PermissionEntity) (permissionId : Uuid) :
    held db roleId (additions add ++ removals remove) permissionId = true ↔
      (mapped db roleId permissionId = true ∨ permissionId ∈ add.map PermissionEntity.id) ∧
        permissionId ∉ remove.map PermissionEntity.id := by
  unfold held additions removals
  rw [last_append, last_map_const, last_map_const]
  simp only [List.mem_map]
  by_cases removed : ∃ permission ∈ remove, permission.id = permissionId
  · simp [removed]
  · by_cases added : ∃ permission ∈ add, permission.id = permissionId
    · simp [removed, added]
    · simp [removed, added]

theorem held_additions_iff (db : Db) (roleId : Uuid) (add : List PermissionEntity)
    (permissionId : Uuid) :
    held db roleId (additions add) permissionId = true ↔ mapped db roleId permissionId = true ∨
      permissionId ∈ add.map PermissionEntity.id := by
  have whole := held_iff db roleId add [] permissionId
  simp only [removals, List.map_nil, List.append_nil, List.not_mem_nil, not_false_eq_true,
    and_true] at whole
  exact whole

section Update
variable {db : Db} {tenantId roleId actorId : Id} {ids : Nat → Uuid} {add remove : List Id}

theorem mem_catalogued_ids {named : List Id} {permissionId : Uuid} :
    permissionId ∈ (catalogued db named).map PermissionEntity.id ↔ permissionId ∈ named.map value ∧
      db.hasPermissionRow permissionId = true := by
  simp only [List.mem_map, mem_catalogued, Db.hasPermissionRow, any_iff, beq_iff_eq]
  constructor
  · intro holds
    obtain ⟨permission, ⟨member, named⟩, rfl⟩ := holds
    exact ⟨named, permission, member, rfl⟩
  · intro holds
    obtain ⟨named, permission, member, rfl⟩ := holds
    exact ⟨permission, ⟨member, named⟩, rfl⟩

/-- The role has nothing from outside the catalogue. -/
theorem hasPermissionRow_of_mapped (referenced : Referenced db) {roleId permissionId : Uuid}
    (there : mapped db roleId permissionId = true) :
    db.hasPermissionRow permissionId = true := by
  obtain ⟨rp, present, own⟩ := mapped_iff.mp there
  obtain ⟨permission, member, same⟩ := referenced rp present
  exact any_iff.mpr ⟨permission, member, beq_iff_eq.mpr (same.trans (slot_eq_some.mp own).2)⟩

/-- A role that is no custom role of the tenant is refused before anything is written. -/
theorem updateRolePermissions_refused (dto : UpdateRolePermissionsDto Id)
    (foreign : ¬CustomRoleOf db (value tenantId) (value roleId)) :
    let served :=
      serve (engine Id (.tenantUser (value tenantId))) ids
      (updateRolePermissions roleId tenantId dto actorId) db
    (∃ error, served.result = .error error) ∧ served.db = db ∧ served.tx.events = [] := by
  intro served
  have refused : wp (engine Id (.tenantUser (value tenantId))) ids ⟨fun _ _ => True, fun _ _ => True⟩
      (updateRolePermissions roleId tenantId dto actorId) (fun _ _ => False) (fun _ after =>
          after = { db }) { db } := by
    unfold updateRolePermissions
    rw [wp_bind]
    refine wp_findOneForTenant ?_ fun _ => rfl
    intro role member same usable
    rw [wp_bind]
    refine wp_refuseIf ?_ fun _ => rfl
    intro custom
    exact absurd (same ▸ custom_of_usable member usable custom) foreign
  have ended := serve_post refused
  cases answer : served.result with
  | ok value =>
    rw [answer] at ended
    exact ended.1.elim
  | error error =>
    rw [answer] at ended
    obtain ⟨untouched, kept⟩ := ended
    refine ⟨⟨error, rfl⟩, ?_, ?_⟩
    · rw [untouched] at kept
      exact kept
    · exact congrArg Tx.events untouched

/-- Role permission batches are unions and differences of sets, and are told as such. -/
theorem updateRolePermissions_as_sets (referenced : Referenced db) :
    let served := serve (engine Id (.tenantUser (value tenantId))) ids
      (updateRolePermissions roleId tenantId ⟨add.map .byId, remove.map .byId⟩ actorId) db
    let before := fun permissionId => mapped db (value roleId) permissionId = true
    let given := fun permissionId =>
      permissionId ∈ add.map value ∧ db.hasPermissionRow permissionId = true
    (CustomRoleOf db (value tenantId) (value roleId) →
      Single (slot (value roleId)) (· ∈ db.rolePermissions) → served.result = .ok () →
      (∀ permissionId, mapped served.db (value roleId) permissionId = true ↔
        (before permissionId ∨ given permissionId) ∧ permissionId ∉ remove.map value) ∧
      Single (slot (value roleId)) (· ∈ served.db.rolePermissions) ∧
      (∀ rp, rp.roleId ≠ value roleId → (rp ∈ served.db.rolePermissions ↔ rp ∈ db.rolePermissions)) ∧
      served.db = { db with rolePermissions := served.db.rolePermissions } ∧
      ∃ added removed : List Uuid, added.Nodup ∧ removed.Nodup ∧
        (∀ permissionId, permissionId ∈ added ↔ given permissionId ∧ ¬before permissionId) ∧
        (∀ permissionId, permissionId ∈ removed ↔ permissionId ∈ remove.map value ∧
          (before permissionId ∨ given permissionId)) ∧
        served.tx.events = auditsOf .PERMISSION_ADDED_TO_ROLE tenantId actorId roleId added ++
          auditsOf .PERMISSION_REMOVED_FROM_ROLE tenantId actorId roleId removed ++
            [rolePermissionsChanged tenantId roleId]) ∧
    (¬CustomRoleOf db (value tenantId) (value roleId) →
      (∃ error, served.result = .error error) ∧ served.db = db ∧ served.tx.events = []) := by
  intro served before given
  refine ⟨?_, updateRolePermissions_refused _⟩
  intro custom single done
  have returns :
    Returns tenantId ids
    (updateRolePermissions roleId tenantId ⟨add.map .byId, remove.map .byId⟩ actorId) _ { db } :=
    returns_updateRolePermissions actorId add remove rfl custom single
  have ended := serve_post returns
  rw [done] at ended
  obtain ⟨⟨updating, told⟩, committed⟩ := ended
  have same : served.db = served.tx.db := committed
  rw [← same] at updating
  have known : ∀ permissionId, before permissionId ∨ given permissionId →
      db.hasPermissionRow permissionId = true := by
    intro permissionId holds
    rcases holds with old | new
    · exact hasPermissionRow_of_mapped referenced old
    · exact new.2
  refine ⟨?_, updating.batch.single, ?_, updating.frame,
    addedIds db (value roleId) (catalogued db add),
      removedIds db (value roleId) (catalogued db add) (catalogued db remove),
    (catalogued_ids_nodup db add).filter _, (catalogued_ids_nodup db remove).filter _, ?_, ?_, told⟩
  · intro permissionId
    rw [updating.mapped_eq, held_iff, mem_catalogued_ids, mem_catalogued_ids]
    refine and_congr_right fun either => not_congr ?_
    exact ⟨fun both => both.1, fun listed => ⟨listed, known permissionId either⟩⟩
  · intro rp other
    refine updating.batch.others fun permissionId own => ?_
    exact absurd (slot_eq_some.mp own).1 other
  · intro permissionId
    unfold addedIds
    rw [List.mem_filter, mem_catalogued_ids, Bool.not_eq_true', ← Bool.not_eq_true]
  · intro permissionId
    unfold removedIds
    rw [List.mem_filter, mem_catalogued_ids, held_additions_iff, mem_catalogued_ids]
    constructor
    · exact fun both => ⟨both.1.1, both.2⟩
    · exact fun both => ⟨⟨both.1, known permissionId both.2⟩, both.2⟩

end Update

/-! A nurse whose permissions are changed by two lists that overlap and repeat. -/

section Example

def ward : Db where
  tenants := ⟨[⟨1, "Bay Hospital", "bay", true, none⟩], by decide⟩
  permissions :=
    ⟨[⟨61, "chart:read", "chart", none, none⟩, ⟨62, "chart:write", "chart", none, none⟩,
    ⟨63, "bed:assign", "bed", none, none⟩],
    by decide⟩
  roles := ⟨[{ id := 21, tenantId := some 1, name := "Nurse" },
    { id := 22, tenantId := none, name := "Employee", isSystem := true }],
    by decide⟩
  rolePermissions := ⟨[⟨31, 21, 61⟩, ⟨32, 21, 62⟩, ⟨33, 22, 61⟩], by decide⟩

theorem ward_referenced : Referenced ward := by
  unfold Referenced
  decide

theorem ward_single : Single (slot 21) (· ∈ ward.rolePermissions) := by
  have distinct : ∀ first ∈ ward.rolePermissions, ∀ second ∈ ward.rolePermissions,
    slot 21 first = slot 21 second →
      slot 21 first ≠ none → first = second := by decide
  intro permissionId first second left right own own'
  refine distinct first left second right (own.trans own'.symm) ?_
  rw [own]
  exact Option.some_ne_none _

theorem ward_as_sets :
    let served := serve (engine Uuid (.tenantUser 1)) (fun index => BitVec.ofNat 128 (41 + index))
      (updateRolePermissions 21 1 ⟨[63, 61, 63, 99].map .byId, [62, 63, 99, 62].map .byId⟩ 9) ward
    ∀ permissionId, mapped served.db 21 permissionId = true ↔
      (mapped ward 21 permissionId = true ∨ permissionId ∈ ([63, 61, 63, 99] : List Uuid).map value ∧
        ward.hasPermissionRow permissionId = true) ∧
        permissionId ∉ ([62, 63, 99, 62] : List Uuid).map value := by
  exact ((updateRolePermissions_as_sets ward_referenced).1
    ⟨{ id := 21, tenantId := some 1, name := "Nurse" }, List.mem_cons_self, rfl, rfl, rfl⟩ ward_single
    (by decide)).1

end Example
end GenericIam.PermissionBatches
