import GenericIam.AccessRuns
import GenericIam.Ledgers

/-! The audit events of the requests: none of them changes a tenant, a user, a role or what
belongs to it without an event that says who did it and to what. -/

namespace GenericIam.AuditTrail
open Table Database EffectivePermissions PermissionMatcher Identifiers
open CacheKeys AuthorizationCheck Events Transaction Handlers RbacServices
open AccountServices TenantWrites Operations ReachableStates SuperAdminRequests
open HeldRoles AccessRefinement AccessRuns Races Runs Reactivation Ledgers
open Coherence (plainEnvironment)

/-! What there is to record. -/

/-- Rows that an event can be about: a tenant, a user, a role, a permission of a role, a role
of a user, a user's override of a permission, and the entries for an object. -/
inductive Subject where
  | tenant (id : Uuid)
  | account (tenantId userId : Uuid)
  | role (id : Uuid)
  | mapping (roleId permissionId : Uuid)
  | assignment (tenantId userId roleId : Uuid)
  | override (tenantId userId permissionId : Uuid)
  | entries (tenantId : Uuid) (resourceType resourceId : String)
  deriving DecidableEq

def accountOf (row : UserEntity) : Uuid × Uuid := (row.tenantId, row.id)

def overrideOf (row : UserPermissionOverrideEntity) : Uuid × Uuid × Uuid :=
  (row.tenantId, row.userId, row.permissionId)

def entryOf (row : ResourceAclEntity) : Uuid × String × String :=
  (row.tenantId, row.resourceType, row.resourceId)

def Kept : Subject → Db → Db → Prop
  | .tenant id, db, db' => SameAt (fun row : TenantEntity => row.id) id db.tenants db'.tenants
  | .account tenantId userId, db, db' => SameAt accountOf (tenantId, userId) db.users db'.users
  | .role id, db, db' => SameAt (fun row : RoleEntity => row.id) id db.roles db'.roles
  | .mapping roleId permissionId, db, db' =>
    SameAt mapping (roleId, permissionId) db.rolePermissions db'.rolePermissions
  | .assignment tenantId userId roleId, db, db' =>
    SameAt holding (tenantId, userId, roleId) db.userRoles db'.userRoles
  | .override tenantId userId permissionId, db, db' =>
      SameAt overrideOf (tenantId, userId,
        permissionId) db.userPermissionOverrides db'.userPermissionOverrides
  | .entries tenantId resourceType resourceId, db, db' =>
      SameAt entryOf (tenantId, resourceType, resourceId) db.resourceAcls db'.resourceAcls

theorem Kept.refl (subject : Subject) (db : Db) : Kept subject db db := by
  cases subject <;> exact SameAt.refl _

theorem Kept.trans {subject : Subject} {db middle db' : Db} (first : Kept subject db middle)
    (second : Kept subject middle db') :
    Kept subject db db' := by
  cases subject <;> exact SameAt.trans first second

def Touches (db : Db) : Write → Subject → Prop
  | .insertTenant row, subject => subject = .tenant row.id
  | .updateTenant id _, subject => subject = .tenant id
  | .insertUser row, subject => subject = .account row.tenantId row.id
  | .updateUser id _, subject => ∃ row ∈ db.users, row.id = id ∧ subject = .account row.tenantId id
  | .insertRole row, subject | .updateRole row, subject => subject = .role row.id
  | .deleteRole row, subject =>
      subject = .role row.id ∨ (∃ permissionId, subject = .mapping row.id permissionId) ∨
        ∃ tenantId userId, subject = .assignment tenantId userId row.id
  | .insertRolePermission row, subject => subject = .mapping row.roleId row.permissionId
  | .deleteRolePermission hit, subject =>
      ∃ row ∈ db.rolePermissions, row.id = hit.id ∧ subject = .mapping row.roleId row.permissionId
  | .insertUserRole row, subject => subject = .assignment row.tenantId row.userId row.roleId
  | .updateUserRole hit, subject | .deleteUserRole hit, subject =>
      ∃ row ∈ db.userRoles, row.id = hit.id ∧ subject = .assignment row.tenantId row.userId row.roleId
  | .deleteExpiredUserRoles now, subject =>
      ∃ row ∈ db.userRoles, row.expiredBefore now = true ∧
        subject = .assignment row.tenantId row.userId row.roleId
  | .insertOverride row, subject => subject = .override row.tenantId row.userId row.permissionId
  | .updateOverride hit, subject | .deleteOverride hit, subject =>
      ∃ row ∈ db.userPermissionOverrides, row.id = hit.id ∧
        subject = .override row.tenantId row.userId row.permissionId
  | .insertAcl row, subject => subject = .entries row.tenantId row.resourceType row.resourceId
  | .deleteAcl hit, subject =>
      ∃ row ∈ db.resourceAcls, row.id = hit.id ∧
        subject = .entries row.tenantId row.resourceType row.resourceId
  | _, _ => False

def Subject.relation : Subject → Relation
  | .tenant _ => .tenants
  | .account _ _ => .users
  | .role _ => .roles
  | .mapping _ _ => .rolePermissions
  | .assignment _ _ _ => .userRoles
  | .override _ _ _ => .userPermissionOverrides
  | .entries _ _ _ => .resourceAcls

section Statements
variable {session : Session} {db db' : Db} {write : Write}

theorem kept_of_sameBut {changed : List Relation} (same : SameBut changed db db')
    {subject : Subject} (away : subject.relation ∉ changed) :
    Kept subject db db' := by
  cases subject with
  | tenant id =>
    rw [Kept, same.tenants away]
    exact .refl _
  | account tenantId userId =>
    rw [Kept, same.users away]
    exact .refl _
  | role id =>
    rw [Kept, same.roles away]
    exact .refl _
  | mapping roleId permissionId =>
    rw [Kept, same.rolePermissions away]
    exact .refl _
  | assignment tenantId userId roleId =>
    rw [Kept, same.userRoles away]
    exact .refl _
  | override tenantId userId permissionId =>
    rw [Kept, same.userPermissionOverrides away]
    exact .refl _
  | entries tenantId resourceType resourceId =>
    rw [Kept, same.resourceAcls away]
    exact .refl _

theorem kept_elsewhere (applied : write.apply session db = some db') {subject : Subject}
    (away : subject.relation ∉ write.changes) :
    Kept subject db db' ∨ Touches db write subject :=
  .inl (kept_of_sameBut (sameBut_apply applied) away)

/-- A row that is deleted by its key. -/
theorem hit_of_select {Row : Type} [Keyed Row Uuid] {Field : Type} {field : Row → Field}
    {at_ : Field} {table : Table Row} {id : Uuid} (admits : Row → Bool) :
    SameAt field at_ table (table.select fun row => !(key row == id && admits row)) ∨
      ∃ row ∈ table, key row = id ∧ field row = at_ := by
  rcases sameAt_select (fun row => !(key row == id && admits row)) with same | ⟨row,
    member, gone, about⟩
  · exact .inl same
  · simp only [Bool.not_eq_false', Bool.and_eq_true, beq_iff_eq] at gone
    exact .inr ⟨row, member, gone.1, about⟩

/-- A row that is changed by its key. -/
theorem hit_of_modify {Row : Type} [Keyed Row Uuid] {Field : Type} {field : Row → Field}
    {at_ : Field} {table : Table Row} {id : Uuid} {admits : Row → Bool} {change : Row → Row}
    {touched : Prop} (keeps : ∀ row, key (change row) = key row)
    (stays : ∀ row, field (change row) = field row)
    (hit : ∀ row ∈ table, key row = id → field row = at_ → touched) :
    SameAt field at_ table (table.modify (fun row => key row == id && admits row) change keeps) ∨
      touched := by
  rcases sameAt_modify keeps fun row _ _ => stays row with same | ⟨row, member, accepted, about⟩
  · exact .inl same
  · simp only [Bool.and_eq_true, beq_iff_eq] at accepted
    exact .inr (hit row member accepted.1 about)

/-- A statement leaves a subject as it is, or it touches it. -/
theorem kept_apply (applied : write.apply session db = some db') (subject : Subject) :
    Kept subject db db' ∨ Touches db write subject := by
  cases subject with
  | tenant id =>
    cases write with
    | insertTenant row =>
      obtain ⟨tenants, inserted, rfl⟩ := insertTenant_some applied
      exact Or.imp_right (fun about => congrArg Subject.tenant about.symm) (sameAt_insert inserted)
    | updateTenant hit change =>
      cases updateTenant_some applied
      refine Or.imp_right ?_ (sameAt_modify change.key_apply ?_)
      · intro holds
        obtain ⟨row, member, same, about⟩ := holds
        exact congrArg Subject.tenant (about.symm.trans (beq_iff_eq.mp same))
      · exact fun _ _ _ => rfl
    | _ => exact kept_elsewhere applied (by simp [Write.changes, Subject.relation])
  | account tenantId userId =>
    cases write with
    | insertUser row =>
      simp only [Write.apply, Option.ite_none_right_eq_some] at applied
      obtain ⟨users, inserted, rfl⟩ := insertUser_some applied.2
      refine Or.imp_right ?_ (sameAt_insert inserted)
      intro about
      cases about
      rfl
    | updateUser hit change =>
      cases updateUser_some applied
      refine hit_of_modify change.key_apply (fun _ => rfl) ?_
      intro row member same about
      cases about
      exact ⟨row, member, same, by rw [← same]; rfl⟩
    | _ => exact kept_elsewhere applied (by simp [Write.changes, Subject.relation])
  | role id =>
    cases write with
    | insertRole row =>
      obtain ⟨roles, inserted, rfl⟩ := insertRole_some applied
      exact Or.imp_right (fun about => congrArg Subject.role about.symm) (sameAt_insert inserted)
    | updateRole hit =>
      cases updateRole_some applied
      refine hit_of_modify ?_ ?_ ?_
      · exact fun _ => rfl
      · exact fun _ => rfl
      · intro row member same about
        exact congrArg Subject.role (about.symm.trans same)
    | deleteRole hit =>
      cases applied
      rcases deleteRole_eq session db hit.id with same | changed
      · rw [same]
        exact .inl (.refl _ _)
      · rw [changed]
        refine Or.imp_right ?_ (sameAt_select _)
        intro holds
        obtain ⟨row, member, gone, rfl⟩ := holds
        exact .inl (congrArg Subject.role (by simpa using gone))
    | _ => exact kept_elsewhere applied (by simp [Write.changes, Subject.relation])
  | mapping roleId permissionId =>
    cases write with
    | insertRolePermission row =>
      obtain ⟨rolePermissions, inserted, rfl⟩ := insertRolePermission_some applied
      refine Or.imp_right ?_ (sameAt_insert inserted)
      intro about
      cases about
      rfl
    | deleteRolePermission hit =>
      cases applied
      refine Or.imp_right ?_ (hit_of_select _)
      intro holds
      obtain ⟨row, member, same, about⟩ := holds
      cases about
      exact ⟨row, member, same, rfl⟩
    | deleteRole hit =>
      cases applied
      rcases deleteRole_eq session db hit.id with same | changed
      · rw [same]
        exact .inl (.refl _ _)
      · rw [changed]
        refine Or.imp_right ?_ (sameAt_select _)
        intro holds
        obtain ⟨row, member, gone, about⟩ := holds
        cases about
        have role : row.roleId = hit.id := by simpa using gone
        exact .inr (.inl ⟨row.permissionId, by rw [role]⟩)
    | _ => exact kept_elsewhere applied (by simp [Write.changes, Subject.relation])
  | assignment tenantId userId roleId =>
    cases write with
    | insertUserRole row =>
      obtain ⟨userRoles, inserted, rfl⟩ := insertUserRole_some applied
      refine Or.imp_right ?_ (sameAt_insert inserted)
      intro about
      cases about
      rfl
    | updateUserRole hit =>
      cases applied
      refine hit_of_modify ?_ ?_ ?_
      · exact fun _ => rfl
      · exact fun _ => rfl
      · intro row member same about
        cases about
        exact ⟨row, member, same, rfl⟩
    | deleteUserRole hit =>
      cases applied
      refine Or.imp_right ?_ (hit_of_select _)
      intro holds
      obtain ⟨row, member, same, about⟩ := holds
      cases about
      exact ⟨row, member, same, rfl⟩
    | deleteExpiredUserRoles now =>
      cases applied
      refine Or.imp_right ?_ (sameAt_select _)
      intro holds
      obtain ⟨row, member, gone, about⟩ := holds
      cases about
      simp only [Bool.not_eq_false', Bool.and_eq_true] at gone
      exact ⟨row, member, gone.1, rfl⟩
    | deleteRole hit =>
      cases applied
      rcases deleteRole_eq session db hit.id with same | changed
      · rw [same]
        exact .inl (.refl _ _)
      · rw [changed]
        refine Or.imp_right ?_ (sameAt_select _)
        intro holds
        obtain ⟨row, member, gone, about⟩ := holds
        cases about
        have role : row.roleId = hit.id := by simpa using gone
        exact .inr (.inr ⟨row.tenantId, row.userId, by rw [role]⟩)
    | _ => exact kept_elsewhere applied (by simp [Write.changes, Subject.relation])
  | override tenantId userId permissionId =>
    cases write with
    | insertOverride row =>
      obtain ⟨overrides, inserted, rfl⟩ := insertOverride_some applied
      refine Or.imp_right ?_ (sameAt_insert inserted)
      intro about
      cases about
      rfl
    | updateOverride hit =>
      cases applied
      refine hit_of_modify ?_ ?_ ?_
      · exact fun _ => rfl
      · exact fun _ => rfl
      · intro row member same about
        cases about
        exact ⟨row, member, same, rfl⟩
    | deleteOverride hit =>
      cases applied
      refine Or.imp_right ?_ (hit_of_select _)
      intro holds
      obtain ⟨row, member, same, about⟩ := holds
      cases about
      exact ⟨row, member, same, rfl⟩
    | _ => exact kept_elsewhere applied (by simp [Write.changes, Subject.relation])
  | entries tenantId resourceType resourceId =>
    cases write with
    | insertAcl row =>
      obtain ⟨resourceAcls, inserted, rfl⟩ := insertAcl_some applied
      refine Or.imp_right ?_ (sameAt_insert inserted)
      intro about
      cases about
      rfl
    | deleteAcl hit =>
      cases applied
      refine Or.imp_right ?_ (hit_of_select _)
      intro holds
      obtain ⟨row, member, same, about⟩ := holds
      cases about
      exact ⟨row, member, same, rfl⟩
    | _ => exact kept_elsewhere applied (by simp [Write.changes, Subject.relation])

end Statements

/-! The events about it. -/

section Records
variable {Id : Type} [Identifier Id]

def IsOf (event : AuditEvent Id) (resourceType : String) (id : Uuid) : Prop :=
  ∃ resourceId, event.resource = .own resourceType resourceId ∧ value resourceId = id

/-- The account of the administrator that a new tenant begins with. `accounts` says which
account of a tenant has an email. -/
def Founds (accounts : Uuid → Uuid → String → Prop) (event : AuditEvent Id)
    (tenantId userId : Uuid) : Prop :=
  event.eventType = .TENANT_CREATED ∧ IsOf event "tenant" tenantId ∧
    ∃ email, event.payloadAdminEmail = some email ∧ accounts tenantId userId email

def Drops (event : AuditEvent Id) (roleId : Uuid) : Prop :=
  event.eventType = .ROLE_DELETED ∧ IsOf event "role" roleId

def Names (accounts : Uuid → Uuid → String → Prop) (event : AuditEvent Id) : Subject → Prop
  | .tenant id =>
    event.eventType ∈ [.TENANT_CREATED, .TENANT_UPDATED, .TENANT_DEACTIVATED] ∧ IsOf event "tenant" id
  | .account tenantId userId =>
      (event.eventType ∈ [.USER_CREATED, .USER_UPDATED, .USER_ACTIVATED, .USER_DEACTIVATED] ∧
        value event.tenantId = tenantId ∧
        IsOf event "user" userId) ∨ Founds accounts event tenantId userId
  | .role id => event.eventType ∈ [.ROLE_CREATED, .ROLE_UPDATED, .ROLE_DELETED] ∧ IsOf event "role" id
  | .mapping roleId permissionId =>
      (event.eventType ∈ [.PERMISSION_ADDED_TO_ROLE, .PERMISSION_REMOVED_FROM_ROLE] ∧
        IsOf event "role" roleId ∧
        event.payloadPermissionId.map value = some permissionId) ∨ Drops event roleId
  | .assignment tenantId userId roleId =>
      (event.eventType ∈ [.ROLE_ASSIGNED, .ROLE_REVOKED] ∧ value event.tenantId = tenantId ∧
        IsOf event "user" userId ∧
        event.payloadRoleId.map value = some roleId) ∨ Drops event roleId ∨
          Founds accounts event tenantId userId
  | .override tenantId userId permissionId =>
      event.eventType ∈ [.PERMISSION_OVERRIDE_ADDED, .PERMISSION_OVERRIDE_REMOVED] ∧
        value event.tenantId = tenantId ∧
        IsOf event "user" userId ∧ event.payloadPermissionId.map value = some permissionId
  | .entries tenantId resourceType resourceId =>
      event.eventType ∈ [.ACL_CREATED, .ACL_DELETED] ∧ value event.tenantId = tenantId ∧
        event.resource = .client resourceType resourceId

theorem Names.mono {accounts others : Uuid → Uuid → String → Prop} {event : AuditEvent Id}
    {subject : Subject}
    (weaker : ∀ tenantId userId email, accounts tenantId userId email → others tenantId userId email)
    (named : Names accounts event subject) : Names others event subject := by
  have founds : ∀ tenantId userId, Founds accounts event tenantId userId →
      Founds others event tenantId userId := by
    intro tenantId userId holds
    obtain ⟨created, tenant, email, payload, account⟩ := holds
    exact ⟨created, tenant, email, payload, weaker tenantId userId email account⟩
  cases subject with
  | account tenantId userId => exact named.imp_right (founds tenantId userId)
  | assignment tenantId userId roleId =>
    exact named.imp_right fun other => other.imp_right (founds tenantId userId)
  | _ => exact named

def Signed (tenantId actorId : Id) (event : AuditEvent Id) : Prop :=
  event.tenantId = tenantId ∧ event.actorId = actorId

def trail (accounts : Uuid → Uuid → String → Prop) (signed : AuditEvent Id → Prop) :
    Ledger (effects Id) Db Subject where
  same := Kept
  names event subject := ∃ record, event = .audit record ∧ signed record ∧ Names accounts record subject
  refl := Kept.refl
  trans := Kept.trans

end Records

/-! The steps of the handlers. -/

section Handlers
variable {Id α : Type} [Identifier Id] {session : Session} {ids : Nat → Uuid}
  {signed : AuditEvent Id → Prop} {start : Db}
  {accounts : Uuid → Uuid → String → Prop}
  {owed more : Subject → Prop} {tx : Tx (effects Id) Db} {tenantId actorId userId roleId : Id}

abbrev Balances (session : Session) (ids : Nat → Uuid) (accounts : Uuid → Uuid → String → Prop)
    (signed : AuditEvent Id → Prop) (start : Db) (owed : Subject → Prop) (handler : Handler Id α)
    (tx : Tx (effects Id) Db) : Prop :=
  Acts session ids handler (fun _ after => (trail accounts signed).Owes start owed after) tx

theorem owes_sent {write : Write} {db : Db} (owes : (trail accounts signed).Owes start owed tx)
    (sent : send session write tx.db = .ok db) :
    (trail accounts signed).Owes start (fun subject => owed subject ∨ Touches tx.db write subject)
      { tx with db, log := tx.log ++ [write] } :=
  owes.write write (kept_apply (send_ok sent))

theorem owes_persist_drawn {write : Write} {post : Unit → Tx (effects Id) Db → Prop}
    (owes : (trail accounts signed).Owes start owed tx)
    (done : ∀ after, after.generated = tx.generated →
      (trail accounts signed).Owes start (fun subject => owed subject ∨
        Touches tx.db write subject) after → post () after) :
    Acts session ids (persist write) post tx := by
  refine wp_persist trivial ?_ trivial
  intro db applied
  exact done _ rfl (owes.write write (kept_apply applied))

theorem owes_persist {write : Write} {post : Unit → Tx (effects Id) Db → Prop}
    (owes : (trail accounts signed).Owes start owed tx)
    (done : ∀ after,
      (trail accounts signed).Owes start
      (fun subject => owed subject ∨ Touches tx.db write subject) after →
      post () after) : Acts session ids (persist write) post tx :=
  owes_persist_drawn owes fun after _ => done after

theorem owes_record {record : AuditEvent Id}
    (owes : (trail accounts signed).Owes start (fun subject => owed subject ∨ more subject) tx)
    (sign : signed record) (named : ∀ subject, more subject → Names accounts record subject) :
    (trail accounts signed).Owes start owed { tx with events := tx.events ++ [.audit record] } := by
  refine owes.emit ?_
  intro subject holds
  rcases holds with due | touched
  · exact .inr due
  · exact .inl ⟨record, rfl, sign, named subject touched⟩

theorem owes_other {event : Event Id} (owes : (trail accounts signed).Owes start owed tx) :
    (trail accounts signed).Owes start owed { tx with events := tx.events ++ [event] } :=
  owes.emit fun _ due => .inr due

/-! The ways in which an event names what a statement has touched. -/

theorem names_assignment {eventType : AuditEventType}
    (listed : eventType ∈ [.ROLE_ASSIGNED, .ROLE_REVOKED]) :
    Names accounts
      { eventType, tenantId, actorId, resource := .own "user" userId, payloadRoleId := some roleId }
      (.assignment (value tenantId) (value userId) (value roleId)) :=
  .inl ⟨listed, rfl, ⟨userId, rfl, rfl⟩, rfl⟩

theorem names_mapping {eventType : AuditEventType} {permissionId : Uuid}
    (listed : eventType ∈ [.PERMISSION_ADDED_TO_ROLE, .PERMISSION_REMOVED_FROM_ROLE]) :
    Names accounts
      { eventType, tenantId, actorId, resource := .own "role" roleId, payloadPermissionId :=
        some (canonical permissionId) }
      (.mapping (value roleId) permissionId) :=
  .inl ⟨listed, ⟨roleId, rfl, rfl⟩, congrArg some (value_canonical permissionId)⟩

theorem names_override {eventType : AuditEventType} {permissionId : Id}
    (listed : eventType ∈ [.PERMISSION_OVERRIDE_ADDED, .PERMISSION_OVERRIDE_REMOVED]) :
    Names accounts
      { eventType, tenantId, actorId, resource := .own "user" userId, payloadPermissionId :=
      some permissionId }
      (.override (value tenantId) (value userId) (value permissionId)) :=
  ⟨listed, rfl, ⟨userId, rfl, rfl⟩, rfl⟩

theorem names_account {eventType : AuditEventType}
    (listed : eventType ∈ [.USER_CREATED, .USER_UPDATED, .USER_ACTIVATED, .USER_DEACTIVATED]) :
    Names accounts { eventType, tenantId, actorId, resource := .own "user" userId }
      (.account (value tenantId) (value userId)) :=
  .inl ⟨listed, rfl, userId, rfl, rfl⟩

theorem names_role {eventType : AuditEventType} {id : Uuid}
    (listed : eventType ∈ [.ROLE_CREATED, .ROLE_UPDATED, .ROLE_DELETED]) :
    Names accounts { eventType, tenantId, actorId, resource := .own "role" (canonical id : Id) }
      (.role id) :=
  ⟨listed, canonical id, rfl, value_canonical id⟩

theorem balances_saveAssignment {dto : AssignRoleDto Id}
    {post : UserRoleEntity → Tx (effects Id) Db → Prop}
    (owes : (trail accounts signed).Owes start owed tx)
    (done : ∀ row after, (trail accounts signed).Owes start (fun subject => owed subject ∨
      subject = .assignment (value tenantId) (value userId) (value dto.roleId)) after →
        post row after) :
    Acts session ids (saveAssignment userId tenantId dto) post tx := by
  unfold saveAssignment findAssignment
  simp only [Acts, wp_bind, wp_visible, wp_pure]
  split
  · next existing found =>
    obtain ⟨seen, matched⟩ := findOne_some found
    simp only [Bool.and_eq_true, beq_iff_eq] at matched
    have member : existing ∈ tx.db.userRoles := (mem_select.mp seen).1
    have touched : ∀ subject,
      subject = Subject.assignment existing.tenantId existing.userId existing.roleId →
        subject = Subject.assignment (value tenantId) (value userId) (value dto.roleId) := by
      intro _ same
      obtain rfl := same
      rw [matched.2, matched.1.1, matched.1.2]
    unfold renewAssignment
    simp only [wp_bind, wp_visible]
    split
    · rw [wp_bind]
      refine owes_persist owes ?_
      intro after due
      refine done _ after (due.mono fun subject => Or.imp_right ?_)
      intro holds
      obtain ⟨row, present, same, about⟩ := holds
      rw [eq_of_key_eq present member same] at about
      exact touched subject about
    · rw [wp_bind]
      refine owes_persist owes ?_
      intro after due
      exact done _ after (due.mono fun subject => Or.imp_right (touched subject))
  · simp only [wp_bind, wp_newId]
    refine owes_persist owes ?_
    intro after due
    exact done _ after due

theorem balances_assignToUser {dto : AssignRoleDto Id}
    (owes : (trail accounts (Signed tenantId actorId)).Owes start owed tx) :
    Balances session ids accounts (Signed tenantId actorId) start owed
      (assignToUser userId tenantId dto actorId) tx := by
  unfold assignToUser
  rw [Balances, Acts, wp_bind]
  refine acts_requireUser fun user => ?_
  rw [wp_bind]
  refine acts_findOneForTenant fun role _ _ _ _ => ?_
  rw [wp_bind]
  refine balances_saveAssignment owes ?_
  intro row after due
  refine owes_other (owes_record due ⟨rfl, rfl⟩ ?_)
  intro _ same
  obtain rfl := same
  exact names_assignment (by decide)

theorem balances_updateUserRoles {dto : UpdateUserRolesDto Id}
    (owes : (trail accounts (Signed tenantId actorId)).Owes start owed tx) :
    Balances session ids accounts (Signed tenantId actorId) start owed
      (updateUserRoles userId tenantId dto actorId) tx := by
  unfold updateUserRoles
  rw [Balances, Acts, wp_bind]
  refine acts_requireUser fun user => ?_
  rw [wp_bind]
  refine wp_forEach owes ?_ ?_
  · intro item _ during still
    unfold addRole
    rw [wp_bind]
    refine acts_findOneForTenant fun role _ _ _ _ => ?_
    rw [wp_bind]
    refine balances_saveAssignment still ?_
    intro row after due
    refine owes_record due ⟨rfl, rfl⟩ ?_
    intro _ same
    obtain rfl := same
    exact names_assignment (by decide)
  · intro between still
    rw [wp_bind]
    refine wp_forEach still ?_ fun after settled => owes_other settled
    intro roleId _ during still
    unfold removeRole findAssignment
    simp only [wp_bind, wp_visible, wp_pure]
    split
    · exact still
    · next assignment found =>
      obtain ⟨seen, matched⟩ := findOne_some found
      simp only [Bool.and_eq_true, beq_iff_eq] at matched
      rw [wp_bind]
      refine owes_persist still ?_
      intro after due
      refine owes_record due ⟨rfl, rfl⟩ ?_
      intro _ holds
      obtain ⟨row, present, same, rfl⟩ := holds
      rw [eq_of_key_eq present (mem_select.mp seen).1 same, matched.2, matched.1.1, matched.1.2]
      exact names_assignment (by decide)

/-! Roles and their permissions. -/

theorem balances_createCustomRole {now : Time} {dto : CreateRoleDto}
    (owes : (trail accounts (Signed tenantId actorId)).Owes start owed tx) :
    Balances session ids accounts (Signed tenantId actorId) start owed
      (createCustomRole now tenantId dto actorId) tx := by
  unfold createCustomRole
  simp only [Balances, Acts, wp_bind, wp_newId]
  refine owes_persist owes ?_
  intro after due
  refine owes_record due ⟨rfl, rfl⟩ ?_
  intro _ same
  obtain rfl := same
  exact names_role (by decide)

theorem balances_saveRole {driver : Driver} {now : Time} {draft : RoleDraft}
    {post : RoleEntity → Tx (effects Id) Db → Prop}
    (owes : (trail accounts signed).Owes start owed tx)
    (done : ∀ role after,
      (trail accounts signed).Owes start (fun subject => owed subject ∨ subject = .role role.id) after →
      post role after) :
    Acts session ids (saveRole driver now draft) post tx := by
  unfold saveRole
  rw [Acts, wp_bind]
  refine wp_orThrow ?_ fun _ => trivial
  intro _ _
  simp only [wp_bind, wp_visible]
  split
  · next stored _ =>
    split
    · exact done stored tx (owes.mono fun _ before => .inl before)
    · rw [wp_bind]
      refine wp_orThrow ?_ fun _ => trivial
      intro updated _
      rw [wp_bind]
      exact owes_persist owes fun after due => done updated after due
  · rw [wp_bind]
    refine wp_orThrow ?_ fun _ => trivial
    intro inserted _
    rw [wp_bind]
    exact owes_persist owes fun after due => done inserted after due

/-- Whatever the body is, the role that is saved is the role that is named. -/
theorem balances_updateCustomRole {driver : Driver} {now : Time} {id : Id} {body : Json}
    (owes : (trail accounts (Signed tenantId actorId)).Owes start owed tx) :
    Balances session ids accounts (Signed tenantId actorId) start owed
      (updateCustomRole driver now id tenantId body actorId) tx := by
  unfold updateCustomRole
  rw [Balances, Acts, wp_bind]
  refine acts_findOneForTenant fun role _ _ _ _ => ?_
  rw [wp_bind]
  refine wp_refuseIf ?_ fun _ => trivial
  intro _
  rw [wp_bind]
  refine balances_saveRole owes ?_
  intro updated after due
  refine owes_record due ⟨rfl, rfl⟩ ?_
  intro _ same
  obtain rfl := same
  exact names_role (by decide)

theorem balances_deleteCustomRole {id : Id}
    (owes : (trail accounts (Signed tenantId actorId)).Owes start owed tx) :
    Balances session ids accounts (Signed tenantId actorId) start owed
      (deleteCustomRole id tenantId actorId) tx := by
  unfold deleteCustomRole
  rw [Balances, Acts, wp_bind]
  refine acts_findOneForTenant fun role _ same _ _ => ?_
  rw [wp_bind]
  refine wp_refuseIf ?_ fun _ => trivial
  intro _
  simp only [wp_bind, wp_visible]
  refine wp_refuseIf ?_ fun _ => trivial
  intro _
  rw [wp_bind]
  refine owes_persist owes ?_
  intro after due
  refine owes_record due ⟨rfl, rfl⟩ ?_
  intro _ holds
  rcases holds with rfl | ⟨permissionId, rfl⟩ | ⟨tenant, user, rfl⟩
  · exact ⟨by simp, id, rfl, same.symm⟩
  · exact .inr ⟨rfl, id, rfl, same.symm⟩
  · exact .inr (.inl ⟨rfl, id, rfl, same.symm⟩)

theorem balances_addMapping {permission : PermissionEntity}
    (owes : (trail accounts (Signed tenantId actorId)).Owes start owed tx) :
    Balances session ids accounts (Signed tenantId actorId) start owed
      (addMapping roleId tenantId actorId permission) tx := by
  unfold addMapping findMapping
  simp only [Balances, Acts, wp_bind, wp_visible, wp_pure]
  split
  · exact owes
  · simp only [wp_bind, wp_newId]
    refine owes_persist owes ?_
    intro after due
    refine owes_record due ⟨rfl, rfl⟩ ?_
    intro _ same
    obtain rfl := same
    exact names_mapping (by decide)

theorem balances_removeMapping {permission : PermissionEntity}
    (owes : (trail accounts (Signed tenantId actorId)).Owes start owed tx) :
    Balances session ids accounts (Signed tenantId actorId) start owed
      (removeMapping roleId tenantId actorId permission) tx := by
  unfold removeMapping findMapping
  simp only [Balances, Acts, wp_bind, wp_visible, wp_pure]
  split
  · exact owes
  · next existing found =>
    obtain ⟨seen, matched⟩ := findOne_some found
    simp only [Bool.and_eq_true, beq_iff_eq] at matched
    rw [wp_bind]
    refine owes_persist owes ?_
    intro after due
    refine owes_record due ⟨rfl, rfl⟩ ?_
    intro _ holds
    obtain ⟨row, present, same, rfl⟩ := holds
    rw [eq_of_key_eq present (mem_select.mp seen).1 same, matched.1, matched.2]
    exact names_mapping (by decide)

theorem balances_updateRolePermissions {dto : UpdateRolePermissionsDto Id}
    (owes : (trail accounts (Signed tenantId actorId)).Owes start owed tx) :
    Balances session ids accounts (Signed tenantId actorId) start owed
      (updateRolePermissions roleId tenantId dto actorId) tx := by
  unfold updateRolePermissions
  rw [Balances, Acts, wp_bind]
  refine acts_findOneForTenant fun role _ _ _ _ => ?_
  rw [wp_bind]
  refine wp_refuseIf ?_ fun _ => trivial
  intro _
  rw [wp_bind]
  refine acts_findPermissions ?_
  rw [wp_bind]
  refine wp_forEach owes (fun permission _ during still => balances_addMapping still) ?_
  intro between still
  rw [wp_bind]
  refine acts_findPermissions ?_
  rw [wp_bind]
  exact wp_forEach still (fun permission _ during settled =>
    balances_removeMapping settled) fun after settled => owes_other settled

/-! Overrides and ACL entries. -/

theorem owes_overrideEvent {permissionId : Id}
    (owes : (trail accounts (Signed tenantId actorId)).Owes start
      (fun subject => owed subject ∨
        subject = .override (value tenantId) (value userId) (value permissionId)) tx) :
    (trail accounts (Signed tenantId actorId)).Owes start owed { tx with
      events := tx.events ++
        [overrideAudit .PERMISSION_OVERRIDE_ADDED tenantId actorId userId permissionId] ++
        [permissionChanged tenantId userId] } := by
  refine owes_other (owes_record owes ⟨rfl, rfl⟩ ?_)
  intro _ same
  obtain rfl := same
  exact names_override (by decide)

theorem balances_addOverride {dto : CreateOverrideDto Id}
    (owes : (trail accounts (Signed tenantId actorId)).Owes start owed tx) :
    Balances session ids accounts (Signed tenantId actorId) start owed
      (addOverride userId tenantId dto actorId) tx := by
  unfold addOverride
  simp only [Balances, Acts, wp_bind, wp_visible]
  refine wp_orThrow ?_ fun _ => trivial
  intro permission _
  simp only [wp_bind, wp_visible]
  split
  · next existing found =>
    obtain ⟨seen, matched⟩ := findOne_some found
    simp only [Bool.and_eq_true, beq_iff_eq] at matched
    split
    · exact owes
    · simp only [wp_bind]
      refine owes_persist owes ?_
      intro after due
      refine owes_overrideEvent (due.mono fun subject => Or.imp_right ?_)
      intro holds
      obtain ⟨row, present, same, rfl⟩ := holds
      rw [eq_of_key_eq present (mem_select.mp seen).1 same, matched.2, matched.1.1, matched.1.2]
  · simp only [wp_bind, wp_newId]
    refine owes_persist owes ?_
    intro after due
    exact owes_overrideEvent due

theorem balances_removeOverride {overrideId : Id}
    (owes : (trail accounts (Signed tenantId actorId)).Owes start owed tx) :
    Balances session ids accounts (Signed tenantId actorId) start owed
      (removeOverride overrideId userId tenantId actorId) tx := by
  unfold removeOverride
  simp only [Balances, Acts, wp_bind, wp_visible]
  split
  · exact owes
  · next override found =>
    obtain ⟨seen, matched⟩ := findOne_some found
    simp only [Bool.and_eq_true, beq_iff_eq] at matched
    rw [wp_bind]
    refine owes_persist owes ?_
    intro after due
    refine owes_other (owes_record due ⟨rfl, rfl⟩ ?_)
    intro _ holds
    obtain ⟨row, present, same, rfl⟩ := holds
    rw [eq_of_key_eq present (mem_select.mp seen).1 same, matched.2, matched.1.2]
    exact ⟨by simp, rfl, ⟨userId, rfl, rfl⟩, congrArg some (value_canonical _)⟩

theorem balances_createAcl {dto : CreateAclDto Id}
    (owes : (trail accounts (Signed tenantId actorId)).Owes start owed tx) :
    Balances session ids accounts (Signed tenantId actorId) start owed
      (createAcl tenantId dto actorId) tx := by
  unfold createAcl
  simp only [Balances, Acts, wp_bind, wp_visible]
  split
  · exact owes
  · simp only [wp_bind, wp_newId]
    refine wp_attempt trivial ?_ ?_
    · intro db sent
      refine owes_record (owes_other (owes_sent owes sent)) ⟨rfl, rfl⟩ ?_
      intro _ same
      obtain rfl := same
      exact ⟨by simp, rfl, rfl⟩
    · intro why _
      split
      · trivial
      · trivial
      · trivial
      · next impossible => cases impossible

theorem balances_deleteAcl {id : Id}
    (owes : (trail accounts (Signed tenantId actorId)).Owes start owed tx) :
    Balances session ids accounts (Signed tenantId actorId) start owed
      (deleteAcl id tenantId actorId) tx := by
  unfold deleteAcl
  simp only [Balances, Acts, wp_bind, wp_visible]
  refine wp_orThrow ?_ fun _ => trivial
  intro acl found
  obtain ⟨seen, matched⟩ := findOne_some found
  simp only [Bool.and_eq_true, beq_iff_eq] at matched
  rw [wp_bind]
  refine owes_persist owes ?_
  intro after due
  refine owes_record (owes_other due) ⟨rfl, rfl⟩ ?_
  intro _ holds
  obtain ⟨row, present, same, rfl⟩ := holds
  rw [eq_of_key_eq present (mem_select.mp seen).1 same, matched.2]
  exact ⟨by simp, rfl, rfl⟩

/-! Users. -/

theorem balances_createUser {hashPassword : String → String} {dto : CreateUserDto Id}
    (owes : (trail accounts (Signed tenantId actorId)).Owes start owed tx) :
    Balances session ids accounts (Signed tenantId actorId) start owed
      (createUser hashPassword tenantId dto actorId) tx := by
  unfold createUser findOneByName
  simp only [Balances, Acts, wp_bind, wp_visible]
  refine wp_refuseIf ?_ fun _ => trivial
  intro _
  simp only [wp_bind, wp_newId]
  refine owes_persist owes ?_
  intro hired due
  have recorded : ∀ {after : Tx (effects Id) Db}, (trail accounts (Signed tenantId actorId)).Owes start
      (fun subject => owed subject ∨ subject = .account (value tenantId) (ids tx.generated)) after →
        (trail accounts (Signed tenantId actorId)).Owes start owed
          { after with events :=
              after.events ++
              [userAudit .USER_CREATED tenantId actorId (canonical (ids tx.generated))] } := by
    intro after due
    refine owes_record due ⟨rfl, rfl⟩ ?_
    intro _ same
    obtain rfl := same
    exact .inl ⟨by simp, rfl, canonical (ids tx.generated), rfl, value_canonical _⟩
  simp only [wp_bind, wp_visible, wp_pure]
  split
  · exact recorded due
  · rw [wp_bind]
    exact wp_mono (balances_assignToUser due) (fun _ after still => recorded still) fun _ _ failed => failed

/-- A user whom the handler has loaded. -/
theorem acts_findUser {id : Id} {post : UserEntity → Tx (effects Id) Db → Prop}
    (found : ∀ user ∈ tx.db.users, user.id = value id → post user tx) :
    Acts session ids (findUser id) post tx := by
  refine wp_orThrow ?_ fun _ => trivial
  intro user present
  obtain ⟨seen, matched⟩ := findOne_some present
  exact found user (mem_select.mp seen).1 (beq_iff_eq.mp matched)

theorem balances_saveUser {stored user : UserEntity} {post : Unit → Tx (effects Id) Db → Prop}
    (owes : (trail accounts signed).Owes start owed tx) (member : stored ∈ tx.db.users)
    (same : user.id = stored.id) (stays : user.tenantId = stored.tenantId)
    (done : ∀ after,
      (trail accounts signed).Owes start
      (fun subject => owed subject ∨ subject = .account stored.tenantId stored.id) after →
      post () after) : Acts session ids (saveUser user) post tx := by
  unfold saveUser
  simp only [Acts, wp_bind, wp_visible]
  split
  · refine owes_persist owes ?_
    intro after due
    refine done after (due.mono fun subject => Or.imp_right ?_)
    intro holds
    obtain ⟨row, present, key, rfl⟩ := holds
    rw [eq_of_key_eq present member (key.trans same), same]
  · refine owes_persist owes ?_
    intro after due
    refine done after (due.mono fun subject => Or.imp_right ?_)
    intro same
    obtain rfl := same
    rw [stays, same]

theorem own_of_canonical [DecidableEq Id] {id : Uuid}
    (passed : (canonical id != tenantId) = false) : id = value tenantId := by
  have same : canonical id = tenantId := by simpa using passed
  rw [← same, value_canonical]

theorem balances_updateUser [DecidableEq Id] {id : Id} {dto : UpdateUserDto Id}
    (owes : (trail accounts (Signed tenantId actorId)).Owes start owed tx) :
    Balances session ids accounts (Signed tenantId actorId) start owed
      (updateUser id dto tenantId actorId) tx := by
  unfold updateUser
  rw [Balances, Acts, wp_bind]
  refine acts_findUser fun user member same => ?_
  rw [wp_bind]
  refine wp_refuseIf ?_ fun _ => trivial
  intro own
  rw [wp_bind]
  refine wp_refuseIf ?_ fun _ => trivial
  intro _
  rw [wp_bind]
  refine balances_saveUser owes member rfl rfl ?_
  intro after due
  refine owes_record due ⟨rfl, rfl⟩ ?_
  intro _ same
  obtain rfl := same
  rw [own_of_canonical own, same]
  exact names_account (by decide)

theorem balances_setActivation [DecidableEq Id] {id : Id} {isActive : Bool}
    (owes : (trail accounts (Signed tenantId actorId)).Owes start owed tx) :
    Balances session ids accounts (Signed tenantId actorId) start owed
      (setActivation id tenantId isActive actorId) tx := by
  unfold setActivation
  rw [Balances, Acts, wp_bind]
  refine acts_findUser fun user member same => ?_
  rw [wp_bind]
  refine wp_refuseIf ?_ fun _ => trivial
  intro own
  rw [wp_bind]
  refine balances_saveUser owes member rfl rfl ?_
  intro saved due
  cases isActive with
  | true =>
    refine owes_record (owes_other due) ⟨rfl, rfl⟩ ?_
    intro _ same
    obtain rfl := same
    rw [own_of_canonical own, same]
    exact names_account (by decide)
  | false =>
    simp only [Bool.not_false, if_true, wp_bind]
    refine wp_attemptDetached ⟨value id, rfl⟩ ?_ fun _ _ => trivial
    intro db sent
    have dropped : Write.apply .bypassRls saved.db (.deleteRefreshTokensOf (value id)) = some db :=
      send_ok sent
    have still : (trail accounts (Signed tenantId actorId)).Owes start
        (fun subject => owed subject ∨ subject = .account user.tenantId user.id)
        { saved with db, outside := saved.outside ++ [.deleteRefreshTokensOf (value id)] } := by
      intro subject
      refine (due subject).imp_left fun kept => kept.trans ?_
      exact (kept_apply dropped subject).elim (fun kept => kept) False.elim
    refine owes_record (owes_other still) ⟨rfl, rfl⟩ ?_
    intro _ same
    obtain rfl := same
    rw [own_of_canonical own, same]
    exact names_account (by decide)

/-! Tenants, which super admins change: only the actor is theirs. -/

def SignedBy (actorId : Id) (event : AuditEvent Id) : Prop := event.actorId = actorId

theorem names_tenant {eventType : AuditEventType} {id : Id}
    (listed : eventType ∈ [.TENANT_CREATED, .TENANT_UPDATED, .TENANT_DEACTIVATED]) :
    Names accounts { eventType, tenantId, actorId, resource := .own "tenant" id }
      (.tenant (value id)) := ⟨listed, id, rfl, rfl⟩

theorem balances_createTenantWithAdmin {hashPassword : String → String} {dto : CreateTenantDto}
    (founder : accounts (ids tx.generated) (ids (tx.generated + 1)) dto.adminEmail)
    (owes : (trail accounts (SignedBy actorId)).Owes start owed tx) :
    Balances session ids accounts (SignedBy actorId) start owed
      (createTenantWithAdmin hashPassword dto actorId) tx := by
  unfold createTenantWithAdmin
  simp only [Balances, Acts, wp_bind, wp_visible]
  refine wp_refuseIf ?_ fun _ => trivial
  intro _
  simp only [wp_bind, wp_newId]
  refine owes_persist_drawn owes ?_
  intro founded drawn first
  simp only [wp_bind, wp_newId, drawn]
  refine owes_persist first ?_
  intro staffed second
  let record : AuditEvent Id := {
    eventType := .TENANT_CREATED, tenantId := canonical (ids tx.generated), actorId,
    resource := .own "tenant" (canonical (ids tx.generated)), payloadAdminEmail := some dto.adminEmail }
  have tenant : IsOf record "tenant" (ids tx.generated) :=
    ⟨canonical (ids tx.generated), rfl, value_canonical _⟩
  have founds : Founds accounts record (ids tx.generated) (ids (tx.generated + 1)) :=
    ⟨rfl, tenant, dto.adminEmail, rfl, founder⟩
  have recorded : ∀ {after : Tx (effects Id) Db},
    (trail accounts (SignedBy actorId)).Owes start (fun subject => owed subject ∨
      (subject = .tenant (ids tx.generated) ∨
        subject = .account (ids tx.generated) (ids (tx.generated + 1)) ∨
        ∃ roleId, subject = .assignment (ids tx.generated) (ids (tx.generated + 1)) roleId)) after →
      (trail accounts (SignedBy actorId)).Owes start owed
          { after with events := after.events ++ [.audit record] } := by
    intro after due
    refine owes_record due rfl ?_
    intro _ holds
    rcases holds with rfl | rfl | ⟨roleId, rfl⟩
    · exact ⟨by simp [record], tenant⟩
    · exact .inr founds
    · exact .inr (.inr founds)
  simp only [wp_bind, wp_visible]
  split
  · refine recorded (second.mono fun subject => ?_)
    intro holds
    rcases holds with (due | rfl) | rfl
    · exact .inl due
    · exact .inr (.inl rfl)
    · exact .inr (.inr (.inl rfl))
  · simp only [wp_bind, wp_newId]
    refine owes_persist second ?_
    intro after third
    refine recorded (third.mono fun subject => ?_)
    intro holds
    rcases holds with ((due | rfl) | rfl) | rfl
    · exact .inl due
    · exact .inr (.inl rfl)
    · exact .inr (.inr (.inl rfl))
    · exact .inr (.inr (.inr ⟨_, rfl⟩))

theorem balances_saveTenant {tenant : TenantEntity} {post : Unit → Tx (effects Id) Db → Prop}
    (owes : (trail accounts signed).Owes start owed tx)
    (done : ∀ after,
      (trail accounts signed).Owes start
      (fun subject => owed subject ∨ subject = .tenant tenant.id) after → post () after) :
    Acts session ids (saveTenant tenant) post tx := by
  unfold saveTenant
  simp only [Acts, wp_bind, wp_visible]
  split
  · exact owes_persist owes done
  · exact owes_persist owes done

theorem acts_findTenant {id : Id} {post : TenantEntity → Tx (effects Id) Db → Prop}
    (found : ∀ tenant, tenant.id = value id → post tenant tx) :
    Acts session ids (findTenant id) post tx := by
  refine wp_orThrow ?_ fun _ => trivial
  intro tenant present
  exact found tenant (beq_iff_eq.mp (findOne_some present).2)

theorem balances_updateTenant {id : Id} {dto : UpdateTenantDto}
    (owes : (trail accounts (SignedBy actorId)).Owes start owed tx) :
    Balances session ids accounts (SignedBy actorId) start owed (updateTenant id dto actorId) tx := by
  unfold updateTenant
  rw [Balances, Acts, wp_bind]
  refine acts_findTenant fun tenant _ => ?_
  rw [wp_bind]
  refine wp_refuseIf ?_ fun _ => trivial
  intro _
  rw [wp_bind]
  refine balances_saveTenant owes ?_
  intro after due
  refine owes_record due rfl ?_
  intro _ same
  obtain rfl := same
  exact ⟨by simp, canonical (mergeTenant tenant dto).id, rfl, value_canonical _⟩

theorem balances_deactivateTenant {id : Id}
    (owes : (trail accounts (SignedBy actorId)).Owes start owed tx) :
    Balances session ids accounts (SignedBy actorId) start owed (deactivateTenant id actorId) tx := by
  unfold deactivateTenant
  rw [Balances, Acts, wp_bind]
  refine acts_findTenant fun tenant same => ?_
  rw [wp_bind]
  refine balances_saveTenant owes ?_
  intro after due
  refine owes_record due rfl ?_
  intro _ same
  obtain rfl := same
  rw [same]
  exact names_tenant (by decide)

end Handlers

/-! Requests. -/

section Requests
variable {Id : Type} [Identifier Id] {session : Session} {ids : Nat → Uuid} {db : Db}
  {tenantId actorId : Id}

theorem balances_operation [DecidableEq Id] (env : Environment) (operation : Operation Id) :
    Balances session ids accounts (Signed tenantId actorId) db (fun _ => False)
      (operation.handler env tenantId actorId) { db } := by
  have start : (trail accounts (Signed tenantId actorId)).Settled db { db } := settled_start db
  have discarded : ∀ {α : Type} {handler : Handler Id α},
    Balances session ids accounts (Signed tenantId actorId) db (fun _ => False) handler { db } →
      Balances session ids accounts (Signed tenantId actorId) db (fun _ => False)
          (do let _ ← handler) { db } := by
    intro α handler balances
    rw [Balances, Acts, wp_bind]
    exact wp_mono balances (fun _ _ settled => settled) fun _ _ failed => failed
  cases operation with
  | createCustomRole now dto => exact discarded (balances_createCustomRole start)
  | updateCustomRole now id body => exact discarded (balances_updateCustomRole start)
  | deleteCustomRole id => exact balances_deleteCustomRole start
  | updateRolePermissions roleId dto => exact balances_updateRolePermissions start
  | assignToUser userId dto => exact discarded (balances_assignToUser start)
  | updateUserRoles userId dto => exact balances_updateUserRoles start
  | addOverride userId dto => exact discarded (balances_addOverride start)
  | removeOverride overrideId userId => exact balances_removeOverride start
  | createAcl dto => exact discarded (balances_createAcl start)
  | deleteAcl id => exact balances_deleteAcl start
  | createUser dto => exact discarded (balances_createUser start)
  | updateUser id dto => exact discarded (balances_updateUser start)
  | setActivation id isActive => exact balances_setActivation start

theorem balances_superAdmin (env : Environment) (operation : SuperAdminOperation Id)
    (founder : ∀ dto, operation = .createTenantWithAdmin dto →
      accounts (ids 0) (ids 1) dto.adminEmail) :
    Balances session ids accounts (SignedBy actorId) db (fun _ => False)
      (operation.handler env actorId) { db } := by
  have start : (trail accounts (SignedBy actorId)).Settled db { db } := settled_start db
  cases operation with
  | createTenantWithAdmin dto =>
    rw [Balances, Acts, SuperAdminOperation.handler, wp_bind]
    exact wp_mono (balances_createTenantWithAdmin (founder dto rfl) start) (fun _ _ settled =>
      settled) fun _ _ failed => failed
  | updateTenant id dto =>
    rw [Balances, Acts, SuperAdminOperation.handler, wp_bind]
    exact wp_mono (balances_updateTenant start) (fun _ _ settled => settled) fun _ _ failed => failed
  | deactivateTenant id => exact balances_deactivateTenant start

/-- The account of a tenant with an email; there is at most one. -/
def HasEmail (db : Db) (tenantId userId : Uuid) (email : String) : Prop :=
  ∃ row ∈ db.users, row.tenantId = tenantId ∧ row.id = userId ∧ row.email = email

/-- The administrator of a new tenant has the email of the request. -/
theorem founder_hasEmail {env : Environment} {dto : CreateTenantDto}
    (accepted : (serve (engine Id .bypassRls) ids
      ((SuperAdminOperation.createTenantWithAdmin dto).handler env actorId) db).result.isOk = true) :
    HasEmail (serve (engine Id .bypassRls) ids
      ((SuperAdminOperation.createTenantWithAdmin dto).handler env actorId) db).db
      (ids 0) (ids 1) dto.adminEmail := by
  have holds : wp (engine Id .bypassRls) ids ⟨fun _ _ => True, fun _ _ => True⟩
      ((SuperAdminOperation.createTenantWithAdmin dto).handler env actorId)
      (fun _ after => HasEmail after.db (ids 0) (ids 1) dto.adminEmail) (fun _ _ => True) { db } := by
    unfold SuperAdminOperation.handler createTenantWithAdmin
    simp only [wp_bind, wp_visible]
    refine wp_refuseIf ?_ fun _ => trivial
    intro _
    simp only [wp_bind, wp_newId]
    refine wp_persist trivial ?_ trivial
    intro founded _
    simp only [wp_bind, wp_newId]
    refine wp_persist trivial ?_ trivial
    intro staffed applied
    simp only [Write.apply, Option.ite_none_right_eq_some] at applied
    obtain ⟨users, inserted, rfl⟩ := insertUser_some applied.2
    have hired : ∀ db : Db, db.users = users → HasEmail db (ids 0) (ids 1) dto.adminEmail := by
      intro db same
      obtain rfl := same
      exact ⟨_, (mem_insert inserted).mpr (.inr rfl), rfl, rfl, rfl⟩
    simp only [wp_bind, wp_visible]
    split
    · exact hired _ rfl
    · simp only [wp_bind, wp_newId]
      refine wp_persist trivial ?_ trivial
      intro appointed applied
      obtain ⟨userRoles, _, rfl⟩ := insertUserRole_some applied
      exact hired _ rfl
  have ended := serve_post holds
  cases result : (serve (engine Id .bypassRls) ids
      ((SuperAdminOperation.createTenantWithAdmin dto).handler env actorId) db).result with
  | ok value =>
    rw [result] at ended
    rw [ended.2]
    exact ended.1
  | error error =>
    rw [result] at accepted
    cases accepted

omit [Identifier Id] in
/-- Only refresh tokens are deleted over other connections. -/
theorem kept_detached {there before after : Db} {write : Write}
    (allowed : (attachedRows Id).detached there write)
    (applied : (engine Id session).applyDetached write before = .ok after) (subject : Subject) :
    Kept subject before after := by
  obtain ⟨userId, rfl⟩ := allowed
  have dropped : Write.apply .bypassRls before (.deleteRefreshTokensOf userId) = some after :=
    send_ok applied
  exact (kept_apply dropped subject).elim (fun kept => kept) False.elim

end Requests

/-! Runs. -/

section Results
variable {db : Db}

/-- A request that was accepted has recorded the subject under the name of its sender; the
purge has found an assignment there that had expired. -/
def Explains (incoming : Incoming) (db : Db) (subject : Subject) : Prop :=
  match incoming.sender with
  | .tenant _ tenantId actorId _ => (incoming.served db).result.isOk = true ∧
      ∃ event, .audit event ∈ (incoming.served db).tx.events ∧ Signed tenantId actorId event ∧
        Names (HasEmail (incoming.served db).db) event subject
  | .superAdmin _ actorId _ => (incoming.served db).result.isOk = true ∧
      ∃ event, .audit event ∈ (incoming.served db).tx.events ∧ SignedBy actorId event ∧
        Names (HasEmail (incoming.served db).db) event subject
  | .purge => ∃ row ∈ db.userRoles, row.expiredBefore incoming.now = true ∧
      subject = .assignment row.tenantId row.userId row.roleId

theorem kept_or_explained (incoming : Incoming) (db : Db) (subject : Subject) :
    Kept subject db (incoming.next db) ∨ ¬Kept subject db (incoming.next db) ∧
      Explains incoming db subject := by
  refine or_iff_not_imp_left.mpr fun changed => ⟨changed, ?_⟩
  refine Or.resolve_left ?_ changed
  obtain ⟨sender, ids, now⟩ := incoming
  cases sender with
  | tenant env tenantId actorId operation =>
    have balances : Balances (.tenantUser tenantId) ids
        (HasEmail (Incoming.served ⟨.tenant env tenantId actorId operation, ids, now⟩ db).db)
          (Signed tenantId actorId) db
        (fun _ => False) (operation.handler env tenantId actorId) { db } :=
          balances_operation env operation
    refine (serve_accounts balances kept_detached subject).imp_right ?_
    intro holds
    obtain ⟨accepted, event, member, record, rfl, sign, named⟩ := holds
    exact ⟨accepted, record, member, sign, named⟩
  | superAdmin env actorId operation =>
    let accounts (tenantId userId : Uuid) (email : String) : Prop :=
      tenantId = ids 0 ∧ userId = ids 1 ∧ ∃ dto, operation = .createTenantWithAdmin dto ∧
        email = dto.adminEmail
    have founder : ∀ dto, operation = .createTenantWithAdmin dto →
      accounts (ids 0) (ids 1) dto.adminEmail :=
      fun dto creates => ⟨rfl, rfl, dto, creates, rfl⟩
    refine (serve_accounts (balances_superAdmin env operation founder) kept_detached
      subject).imp_right ?_
    intro holds
    obtain ⟨accepted, event, member, record, rfl, sign, named⟩ := holds
    refine ⟨accepted, record, member, sign, named.mono ?_⟩
    intro _ _ _ holds
    obtain ⟨rfl, rfl, dto, rfl, rfl⟩ := holds
    exact founder_hasEmail accepted
  | purge =>
    have applied : Write.apply .bypassRls db (.deleteExpiredUserRoles now) =
      some (Incoming.next ⟨.purge, ids, now⟩ db) := rfl
    exact kept_apply applied subject

/-- After any run of requests, the rows about a subject are the same as before, or one of the
requests has changed them and explains it. -/
theorem changes_recorded (db : Db) (run : List Incoming) (subject : Subject) :
    Kept subject db (final Incoming.next db run) ∨
      ∃ before incoming after, run = before ++ incoming :: after ∧
        ¬Kept subject (final Incoming.next db before) (incoming.next (final Incoming.next db before)) ∧
          Explains incoming (final Incoming.next db before) subject :=
  same_or_explained (Kept.refl subject) Kept.trans (fun incoming db =>
    kept_or_explained incoming db subject) db run

def Bears (db : Db) (dto : CheckAuthzDto Uuid) : Subject → Prop
  | .assignment tenantId userId _
  | .override tenantId userId _ => tenantId = value dto.tenantId ∧ userId = value dto.userId
  | .mapping roleId _ =>
    ∃ ur ∈ db.userRoles, holding ur = (value dto.tenantId, value dto.userId, roleId)
  | .entries tenantId resourceType resourceId =>
    tenantId = value dto.tenantId ∧ dto.resource = some (resourceType, resourceId)
  | _ => False

theorem decision_kept {db' : Db} {now : Time} {dto : CheckAuthzDto Uuid}
    (permissions : db'.permissions = db.permissions)
    (kept : ∀ subject, Bears db dto subject → Kept subject db db') :
    decision db' now dto = decision db now dto := by
  have assigned : ∀ ur : UserRoleEntity, ur.userId = value dto.userId →
    ur.tenantId = value dto.tenantId →
      (ur ∈ db'.userRoles ↔ ur ∈ db.userRoles) := by
    intro ur user tenant
    refine kept (.assignment (value dto.tenantId) (value dto.userId) ur.roleId) ⟨rfl, rfl⟩ ur ?_
    rw [holding, tenant, user]
  have mapped : ∀ ur ∈ db.userRoles, ur.userId = value dto.userId → ur.tenantId = value dto.tenantId →
      ∀ rp : RolePermissionEntity, rp.roleId = ur.roleId →
          (rp ∈ db'.rolePermissions ↔ rp ∈ db.rolePermissions) := by
    intro ur member user tenant rp role
    refine kept (.mapping ur.roleId rp.permissionId) ⟨ur, member, ?_⟩ rp ?_
    · rw [holding, tenant, user]
    · rw [mapping, role]
  have grants : ∀ permission, RoleGrants db' now (value dto.userId) (value dto.tenantId) permission ↔
      RoleGrants db now (value dto.userId) (value dto.tenantId) permission := by
    intro permission
    constructor
    · intro holds
      obtain ⟨ur, held, ⟨user, tenant, active⟩, rp, present, names, role⟩ := holds
      have member := (assigned ur user tenant).mp held
      exact ⟨ur, member, ⟨user, tenant, active⟩, rp,
        (mapped ur member user tenant rp role).mp present, names, role⟩
    · intro holds
      obtain ⟨ur, member, ⟨user, tenant, active⟩, rp, present, names, role⟩ := holds
      exact ⟨ur, (assigned ur user tenant).mpr member, ⟨user, tenant, active⟩, rp,
        (mapped ur member user tenant rp role).mpr present, names, role⟩
  have overrides : ∀ overrideType permission,
    Overrides db' overrideType (value dto.userId) (value dto.tenantId) permission ↔
      Overrides db overrideType (value dto.userId) (value dto.tenantId) permission := by
    intro overrideType permission
    refine exists_congr fun row => and_congr_left ?_
    intro holds
    obtain ⟨user, tenant, _⟩ := holds
    refine kept (.override (value dto.tenantId) (value dto.userId) row.permissionId) ⟨rfl, rfl⟩ row ?_
    rw [overrideOf, tenant, user]
  have shared : ∀ resource, dto.resource = some resource →
      (aclExists db' dto.tenantId (aclDto dto resource) = true ↔
          aclExists db dto.tenantId (aclDto dto resource) = true) := by
    intro resource asked
    rw [aclExists_iff, aclExists_iff]
    refine exists_congr fun row => and_congr_left ?_
    intro holds
    obtain ⟨tenant, _, type, id, _⟩ := holds
    refine kept (.entries (value dto.tenantId) resource.1 resource.2) ⟨rfl, asked⟩ row ?_
    rw [entryOf, tenant, type, id]
    rfl
  rw [Bool.eq_iff_iff]
  simp only [decision, Bool.or_eq_true, hasPermission_iff_covers, mem_effectiveCodes, grants,
    overrides, permissions]
  refine or_congr Iff.rfl ?_
  cases asked : dto.resource with
  | none => exact Iff.rfl
  | some resource => exact shared resource asked

/-- When an answer has changed, a request of the run has changed rows that bear on it, and
explains it. -/
theorem decision_changes_recorded (tidy : Tidy db) (housed : Housed db) (run : List Incoming)
    (now : Time) (dto : CheckAuthzDto Uuid)
    (differs : decision (final Incoming.next db run) now dto ≠ decision db now dto) :
    ∃ before incoming after subject, run = before ++ incoming :: after ∧
      ¬Kept subject (final Incoming.next db before) (incoming.next (final Incoming.next db before)) ∧
        Explains incoming (final Incoming.next db before) subject ∧ Bears db dto subject := by
  by_contra unexplained
  have becomes := @becomes_run db run tidy housed
  refine differs (decision_kept becomes.permissions fun subject bears => ?_)
  rcases same_or_explained (Kept.refl subject) Kept.trans (fun incoming db =>
      kept_or_explained incoming db subject) db run with
    kept | ⟨before, incoming, after, split, changed, explains⟩
  · exact kept
  · exact absurd ⟨before, incoming, after, subject, split, changed, explains, bears⟩ unexplained

end Results

/-! What Bob may do after the favour is on record. -/

section Example

theorem decision_changes_recorded_favour :
    decision (final Incoming.next office favour) 7 (writing 31) ≠ decision office 7 (writing 31) ∧
      ∃ before incoming after subject, favour = before ++ incoming :: after ∧
        ¬Kept subject (final Incoming.next office before)
          (incoming.next (final Incoming.next office before)) ∧
          Explains incoming (final Incoming.next office before) subject ∧
            Bears office (writing 31) subject := by
  have differs : decision (final Incoming.next office favour) 7 (writing 31) ≠
      decision office 7 (writing 31) := by
    decide
  have tidy := tidy_of_reachable office_reachable
  have housed := housed_of_reachable office_reachable
  exact ⟨differs, decision_changes_recorded tidy housed favour 7 (writing 31) differs⟩

end Example
end GenericIam.AuditTrail
