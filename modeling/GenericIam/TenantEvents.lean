import GenericIam.Operations

/-! The cache entries of a tenant: no check for another tenant touches them, and no event
of a request that one of its principals sends. -/

namespace GenericIam.TenantEvents
open Table Database PermissionMatcher EffectivePermissions Identifiers CacheKeys
open AuthorizationCheck Events Transaction Handlers RbacServices AccountServices Operations

/-! Entries. -/

section Entries
variable {Id Key : Type} [Identifier Id] {keys : KeyScheme Id Key} {tenantId : Uuid} {key : Key}

/-- The keys under which something about the tenant is cached, however its id is spelled. -/
inductive OfTenant (keys : KeyScheme Id Key) (tenantId : Uuid) : Key → Prop where
  | perms {t : Id} (userId : Id) (own : value t = tenantId) :
      OfTenant keys tenantId (keys.perms t userId)
  | authz {dto : CheckAuthzDto Id} (own : value dto.tenantId = tenantId) :
      OfTenant keys tenantId (keys.authz dto)
  | acl {t : Id} (dto : CheckAclDto Id) (own : value t = tenantId) :
      OfTenant keys tenantId (keys.acl t dto)

theorem perms_own {t userId : Id} (entry : OfTenant keys tenantId (keys.perms t userId)) :
    value t = tenantId := by
  generalize held : keys.perms t userId = key at entry
  cases entry with
  | perms other own => rw [(keys.perms_inj held).1, own]
  | authz own => exact absurd held keys.perms_ne_authz
  | acl dto own => exact absurd held keys.perms_ne_acl

theorem authz_own {dto : CheckAuthzDto Id} (entry : OfTenant keys tenantId (keys.authz dto)) :
    value dto.tenantId = tenantId := by
  generalize held : keys.authz dto = key at entry
  cases entry with
  | perms other own => exact absurd held.symm keys.perms_ne_authz
  | authz own => rw [(keys.authz_ids held).1, own]
  | acl dto own => exact absurd held keys.authz_ne_acl

theorem acl_own {t : Id} {dto : CheckAclDto Id} (entry : OfTenant keys tenantId (keys.acl t dto)) :
    value t = tenantId := by
  generalize held : keys.acl t dto = key at entry
  cases entry with
  | perms other own => exact absurd held.symm keys.perms_ne_acl
  | authz own => exact absurd held.symm keys.authz_ne_acl
  | acl dto own => rw [(keys.acl_ids held).1, own]

/-! Deletes. -/

def Concerns (tenantId : Uuid) : Invalidation Id → Prop
  | .perms t _ | .authzOfUser t _ | .permsOfTenant t | .authzOfTenant t | .acl t _ => value t = tenantId
  | .authzDecision t _ _ resourceType resourceId =>
    value t = tenantId ∧ resourceType ≠ "" ∧ resourceId ≠ ""

/-- A delete reaches entries of its tenant only. -/
theorem reaches_own [DecidableEq Key] {owner : Uuid} {deletion : Invalidation Id}
    (concerns : Concerns owner deletion) (reaches : deletion.reaches keys key = true)
    (entry : OfTenant keys tenantId key) : owner = tenantId := by
  cases deletion with
  | perms t u =>
    rw [Invalidation.reaches, beq_iff_eq] at reaches
    subst reaches
    exact concerns.symm.trans (perms_own entry)
  | acl t dto =>
    rw [Invalidation.reaches, beq_iff_eq] at reaches
    subst reaches
    exact concerns.symm.trans (acl_own entry)
  | authzDecision t u permission resourceType resourceId =>
    obtain ⟨own, type, id⟩ := concerns
    rw [Invalidation.reaches, beq_iff_eq, keys.authzDecision_eq type id] at reaches
    subst reaches
    exact own.symm.trans (authz_own entry)
  | authzOfUser t u =>
    simp only [Invalidation.reaches] at reaches
    cases entry with
    | perms other own => rw [keys.authzOfUser_perms] at reaches; cases reaches
    | authz own =>
      rw [← (keys.authzOfUser_authz.mp reaches).1] at concerns
      exact concerns.symm.trans own
    | acl dto own => rw [keys.authzOfUser_acl] at reaches; cases reaches
  | permsOfTenant t =>
    simp only [Invalidation.reaches] at reaches
    cases entry with
    | perms other own =>
      rw [← keys.permsOfTenant_perms.mp reaches] at concerns
      exact concerns.symm.trans own
    | authz own => rw [keys.permsOfTenant_authz] at reaches; cases reaches
    | acl dto own => rw [keys.permsOfTenant_acl] at reaches; cases reaches
  | authzOfTenant t =>
    simp only [Invalidation.reaches] at reaches
    cases entry with
    | perms other own => rw [keys.authzOfTenant_perms] at reaches; cases reaches
    | authz own =>
      rw [← keys.authzOfTenant_authz.mp reaches] at concerns
      exact concerns.symm.trans own
    | acl dto own => rw [keys.authzOfTenant_acl] at reaches; cases reaches

def Confined (tenantId : Uuid) (event : Event Id) : Prop :=
  ∀ deletion ∈ handle event, Concerns tenantId deletion

theorem deliver_foreign [DecidableEq Key] {owner : Uuid} {events : List (Event Id)}
    {cache : Cache Key} (foreign : owner ≠ tenantId)
    (confined : ∀ event ∈ events, Confined owner event) (entry : OfTenant keys tenantId key) :
    deliver keys events cache key = cache key := by
  have missed : ((events.flatMap handle).any fun deletion => deletion.reaches keys key) = false := by
    simp only [List.any_eq_false, List.mem_flatMap]
    intro deletion handled reaches
    obtain ⟨event, emitted, member⟩ := handled
    exact foreign (reaches_own (confined event emitted deletion member) reaches entry)
  rw [deliver_eq, Store.removeWhere, missed]
  rfl

/-! Checks. -/

def AgreeOn (keys : KeyScheme Id Key) (tenantId : Uuid) (cache cache' : Cache Key) : Prop :=
  ∀ key, OfTenant keys tenantId key → cache key = cache' key

theorem AgreeOn.put [DecidableEq Key] {cache cache' : Cache Key}
    (agree : AgreeOn keys tenantId cache cache') (key : Key) (value : CacheValue) :
    AgreeOn keys tenantId (cache.put key value) (cache'.put key value) := by
  intro other entry
  by_cases same : other = key
  · subst same
    rw [Store.put_self, Store.put_self]
  · rw [Store.put_other _ _ same, Store.put_other _ _ same]
    exact agree other entry

theorem AgreeOn.removeWhere {cache cache' : Cache Key} (agree : AgreeOn keys tenantId cache cache')
    (gone : Key → Bool) :
    AgreeOn keys tenantId (cache.removeWhere gone) (cache'.removeWhere gone) := by
  intro key entry
  simp only [Store.removeWhere, agree key entry]

/-- Whatever is cached about another tenant is left out of account. -/
theorem put_foreign [DecidableEq Key] {cache : Cache Key} {other : Key} {value : CacheValue}
    (foreign : ¬OfTenant keys tenantId other) (entry : OfTenant keys tenantId key) :
    cache.put other value key = cache key := by
  apply Store.put_other
  intro same
  subst same
  exact foreign entry

theorem aclCheck_foreign [DecidableEq Key] {db : Db} {cache : Cache Key} {t : Id} {dto : CheckAclDto Id}
    (foreign : value t ≠ tenantId) (entry : OfTenant keys tenantId key) :
    (aclCheck keys db cache t dto).2 key = cache key := by
  simp only [aclCheck]
  cases cache (keys.acl t dto) with
  | some cached => rfl
  | none => exact put_foreign (fun own => foreign (acl_own own)) entry

theorem check_foreign [DecidableEq Key] {db : Db} {now : Time} {cache : Cache Key}
    {dto : CheckAuthzDto Id} (foreign : value dto.tenantId ≠ tenantId)
    (entry : OfTenant keys tenantId key) :
    (check keys db now cache dto).2 key = cache key := by
  have answered : ∀ (effectiveSet : List String) (cache : Cache Key),
      (answer keys db dto effectiveSet cache).2 key = cache key := by
    intro effectiveSet cache
    have other : ¬OfTenant keys tenantId (keys.authz dto) := fun own => foreign (authz_own own)
    by_cases granted : hasPermission effectiveSet dto.permission = true
    · simp only [answer, granted, if_true]
      exact put_foreign other entry
    · cases asked : dto.resource with
      | none =>
        simp only [answer, granted, asked, if_false, Bool.false_eq_true]
        exact put_foreign other entry
      | some resource =>
        simp only [answer, granted, asked, if_false, Bool.false_eq_true]
        exact (put_foreign other entry).trans (aclCheck_foreign foreign entry)
  unfold check
  cases cache (keys.authz dto) with
  | some cachedDecision => rfl
  | none =>
    cases getPermissions keys cache dto.tenantId dto.userId with
    | some effectiveSet => exact answered effectiveSet cache
    | none =>
      simp only [answered]
      exact put_foreign (fun own => foreign (perms_own own)) entry

structure SameAnswers (Id : Type) [Identifier Id] (tenantId : Uuid) (db db' : Db) : Prop where
  codes : ∀ now userId, effectiveCodes db now userId tenantId = effectiveCodes db' now userId tenantId
  acls : ∀ (t : Id) dto, value t = tenantId → aclExists db t dto = aclExists db' t dto

theorem aclCheck_agree [DecidableEq Key] {db db' : Db} {cache cache' : Cache Key} {t : Id}
    (same : SameAnswers Id tenantId db db') (own : value t = tenantId)
    (agree : AgreeOn keys tenantId cache cache') (dto : CheckAclDto Id) :
    (aclCheck keys db cache t dto).1 = (aclCheck keys db' cache' t dto).1 ∧
      AgreeOn keys tenantId (aclCheck keys db cache t dto).2 (aclCheck keys db' cache' t dto).2 := by
  simp only [aclCheck, agree _ (.acl dto own), same.acls t dto own]
  cases cache' (keys.acl t dto) with
  | some cached => exact ⟨rfl, agree⟩
  | none => exact ⟨rfl, agree.put _ _⟩

theorem answer_agree [DecidableEq Key] {db db' : Db} {cache cache' : Cache Key}
    {dto : CheckAuthzDto Id} (same : SameAnswers Id tenantId db db')
    (own : value dto.tenantId = tenantId) (effectiveSet : List String)
    (agree : AgreeOn keys tenantId cache cache') :
    (answer keys db dto effectiveSet cache).1 = (answer keys db' dto effectiveSet cache').1 ∧
      AgreeOn keys tenantId (answer keys db dto effectiveSet cache).2
        (answer keys db' dto effectiveSet cache').2 := by
  by_cases granted : hasPermission effectiveSet dto.permission = true
  · simp only [answer, granted, if_true, true_and]
    exact agree.put _ _
  · cases asked : dto.resource with
    | none =>
      simp only [answer, granted, asked, if_false, Bool.false_eq_true, true_and]
      exact agree.put _ _
    | some resource =>
      have looked := aclCheck_agree same own agree (aclDto dto resource)
      simp only [answer, granted, asked, looked.1, if_false, Bool.false_eq_true, true_and]
      exact looked.2.put _ _

theorem check_agree [DecidableEq Key] {db db' : Db} {now : Time} {cache cache' : Cache Key}
    {dto : CheckAuthzDto Id} (same : SameAnswers Id tenantId db db')
    (own : value dto.tenantId = tenantId) (agree : AgreeOn keys tenantId cache cache') :
    (check keys db now cache dto).1 = (check keys db' now cache' dto).1 ∧
      AgreeOn keys tenantId (check keys db now cache dto).2 (check keys db' now cache' dto).2 := by
  have held : getPermissions keys cache dto.tenantId dto.userId =
      getPermissions keys cache' dto.tenantId dto.userId := by
    simp only [getPermissions, agree _ (.perms dto.userId own)]
  have codes : effectiveCodes db now (value dto.userId) (value dto.tenantId) =
      effectiveCodes db' now (value dto.userId) (value dto.tenantId) := by
    rw [own]
    exact same.codes now _
  simp only [check, agree _ (.authz own), held, codes]
  cases cache' (keys.authz dto) with
  | some cachedDecision => exact ⟨rfl, agree⟩
  | none =>
    cases getPermissions keys cache' dto.tenantId dto.userId with
    | some effectiveSet => exact answer_agree same own effectiveSet agree
    | none => exact answer_agree same own _ (agree.put _ _)

end Entries

/-! The events of a request stay with its tenant. -/

section Requests
variable {Id α : Type}

theorem emits_persist {good : Event Id → Prop} (write : Write) :
    Emits good (persist write : Handler Id Unit) := by
  intro refused
  cases refused with
  | none => trivial
  | some why => trivial

theorem emits_refuseIf {good : Event Id → Prop} (condition : Bool) (error : HttpException) :
    Emits good (refuseIf condition error : Handler Id Unit) := by
  cases condition with
  | false => trivial
  | true => trivial

theorem emits_orThrow {good : Event Id → Prop} (found : Option α) (error : HttpException) :
    Emits good (orThrow found error : Handler Id α) := by
  cases found with
  | none => trivial
  | some row => trivial

theorem emits_visible {good : Event Id → Prop} {next : Db → Handler Id α}
    (rest : ∀ db, Emits good (next db)) :
    Emits good (visible >>= next) := rest

theorem emits_newId {good : Event Id → Prop} {next : Uuid → Handler Id α}
    (rest : ∀ id, Emits good (next id)) :
    Emits good (newId >>= next) := rest

theorem emits_attempt {good : Event Id → Prop} {write : Write} {next : Option Violation → Handler Id α}
    (rest : ∀ refused, Emits good (next refused)) :
    Emits good ((attempt write : Handler Id (Option Violation)) >>= next) := rest

theorem emits_emit {good : Event Id → Prop} {event : Event Id} (allowed : good event) :
    Emits good (emit event : Handler Id Unit) :=
  ⟨allowed, trivial⟩

/-- A save is one statement or the other. -/
theorem emits_either {good : Event Id → Prop} {condition : Prop} [Decidable condition]
    {first second : Handler Id α} (left : Emits good first) (right : Emits good second) :
    Emits good (if condition then first else second) := by
  split
  · exact left
  · exact right

def Names (tenantId : Id) (users : Id → Prop) : Invalidation Id → Prop
  | .perms t u | .authzOfUser t u => t = tenantId ∧ users u
  | .permsOfTenant t | .authzOfTenant t => t = tenantId
  | .acl t dto => t = tenantId ∧ users dto.userId
  | .authzDecision t u _ resourceType resourceId =>
    t = tenantId ∧ users u ∧ resourceType ≠ "" ∧ resourceId ≠ ""

def Addressed (tenantId : Id) (users : Id → Prop) (event : Event Id) : Prop :=
  ∀ deletion ∈ handle event, Names tenantId users deletion

section Events
variable {tenantId userId : Id} {users : Id → Prop}

theorem addressed_audit (event : AuditEvent Id) : Addressed tenantId users (.audit event) := by
  intro deletion handled
  cases handled

theorem addressed_permissionChanged (named : users userId) :
    Addressed tenantId users (permissionChanged tenantId userId) := by
  intro deletion handled
  simp only [permissionChanged, handle, handlePermissionChanged, Option.some_or,
    invalidateUserPermissionCache, List.mem_cons,
    List.not_mem_nil, or_false] at handled
  rcases handled with rfl | rfl
  · exact ⟨rfl, named⟩
  · exact ⟨rfl, named⟩

theorem addressed_rolePermissionsChanged (roleId : Id) :
    Addressed tenantId users (rolePermissionsChanged tenantId roleId) := by
  intro deletion handled
  simp only [rolePermissionsChanged, handle, handlePermissionChanged, Option.some_or, Option.or_self,
    invalidateTenantPermissionCache, List.mem_cons, List.not_mem_nil, or_false] at handled
  rcases handled with rfl | rfl
  · rfl
  · rfl

theorem addressed_userChanged (eventType : AuditEventType) (named : users userId) :
    Addressed tenantId users
      (.userChanged { tenantId := some tenantId, userId := some userId, eventType }) := by
  intro deletion handled
  simp only [handle, handleUserChanged, invalidateUserPermissionCache, List.mem_cons, List.not_mem_nil,
    or_false] at handled
  rcases handled with rfl | rfl
  · exact ⟨rfl, named⟩
  · exact ⟨rfl, named⟩

theorem addressed_aclChanged (eventType : AuditEventType)
    (resourceType resourceId permission : String) (named : users userId) :
    Addressed tenantId users
      (aclChanged eventType tenantId userId resourceType resourceId permission) := by
  intro deletion handled
  simp only [aclChanged, handle, handleAclChanged] at handled
  split at handled
  · next t u type id code tenant user filled filledId filledCode =>
    cases tenant
    cases user
    simp only [invalidateAclCache, invalidateAuthzDecision, List.cons_append, List.nil_append,
      List.mem_cons, List.not_mem_nil,
      or_false] at handled
    rcases handled with rfl | rfl
    · exact ⟨rfl, named⟩
    · exact ⟨rfl, named, truthy_ne filled, truthy_ne filledId⟩
  · cases handled

end Events

variable [Identifier Id]

theorem Addressed.confined {tenantId : Id} {users : Id → Prop} {event : Event Id}
    (addressed : Addressed tenantId users event) :
    Confined (value tenantId) event := by
  intro deletion handled
  have names := addressed deletion handled
  cases deletion with
  | perms t u | authzOfUser t u | acl t dto => exact congrArg value names.1
  | permsOfTenant t | authzOfTenant t => exact congrArg value names
  | authzDecision t u permission resourceType resourceId => exact ⟨congrArg value names.1, names.2.2⟩

abbrev Stays (tenantId : Id) (users : Id → Prop) (handler : Handler Id α) : Prop :=
  Emits (Addressed tenantId users) handler

variable {tenantId : Id} {users : Id → Prop}

theorem stays_findOneForTenant (id : Id) : Stays tenantId users (findOneForTenant id tenantId) :=
  emits_visible fun _ => emits_orThrow _ _

theorem stays_requireUser (userId : Id) : Stays tenantId users (requireUser userId tenantId) :=
  emits_visible fun _ => emits_orThrow _ _

theorem stays_findMapping (roleId : Id) (permissionId : Uuid) :
    Stays tenantId users (findMapping roleId permissionId) :=
  emits_visible fun _ => trivial

theorem stays_findAssignment (userId roleId : Id) :
    Stays tenantId users (findAssignment userId roleId tenantId) :=
  emits_visible fun _ => trivial

omit [Identifier Id] in
theorem stays_saveRole (driver : Driver) (now : Time) (draft : RoleDraft) :
    Stays tenantId users (saveRole driver now draft) := by
  refine emits_bind (emits_orThrow _ _) ?_
  intro _
  apply emits_visible
  intro db
  split
  · apply emits_either
    · trivial
    · refine emits_bind (emits_orThrow _ _) ?_
      intro updated
      exact emits_bind (emits_persist _) fun _ => trivial
  · refine emits_bind (emits_orThrow _ _) ?_
    intro inserted
    exact emits_bind (emits_persist _) fun _ => trivial

theorem stays_saveAssignment (userId : Id) (dto : AssignRoleDto Id) :
    Stays tenantId users (saveAssignment userId tenantId dto) := by
  refine emits_bind (stays_findAssignment _ _) ?_
  intro found
  cases found with
  | some existing =>
    apply emits_visible
    intro db
    apply emits_either
    · exact emits_bind (emits_persist _) fun _ => trivial
    · exact emits_bind (emits_persist _) fun _ => trivial
  | none =>
    apply emits_newId
    intro id
    exact emits_bind (emits_persist _) fun _ => trivial

omit [Identifier Id] in
theorem stays_saveUser (user : UserEntity) : Stays tenantId users (saveUser user) := by
  apply emits_visible
  intro db
  split
  · exact emits_persist _
  · exact emits_persist _

theorem stays_createCustomRole (now : Time) (dto : CreateRoleDto) (actorId : Id) :
    Stays tenantId users (createCustomRole now tenantId dto actorId) := by
  apply emits_newId
  intro id
  refine emits_bind (emits_persist _) ?_
  intro _
  exact emits_bind (emits_emit (addressed_audit _)) fun _ => trivial

theorem stays_updateCustomRole (driver : Driver) (now : Time) (id : Id) (body : Json) (actorId : Id) :
    Stays tenantId users (updateCustomRole driver now id tenantId body actorId) := by
  refine emits_bind (stays_findOneForTenant id) ?_
  intro role
  refine emits_bind (emits_refuseIf _ _) ?_
  intro _
  refine emits_bind (stays_saveRole driver now _) ?_
  intro saved
  exact emits_bind (emits_emit (addressed_audit _)) fun _ => trivial

theorem stays_deleteCustomRole (id actorId : Id) :
    Stays tenantId users (deleteCustomRole id tenantId actorId) := by
  refine emits_bind (stays_findOneForTenant id) ?_
  intro role
  refine emits_bind (emits_refuseIf _ _) ?_
  intro _
  apply emits_visible
  intro db
  refine emits_bind (emits_refuseIf _ _) ?_
  intro _
  exact emits_bind (emits_persist _) fun _ => emits_emit (addressed_audit _)

theorem stays_addMapping (roleId actorId : Id) (permission : PermissionEntity) :
    Stays tenantId users (addMapping roleId tenantId actorId permission) := by
  refine emits_bind (stays_findMapping _ _) ?_
  intro found
  cases found with
  | some mapping => trivial
  | none =>
    apply emits_newId
    intro id
    exact emits_bind (emits_persist _) fun _ => emits_emit (addressed_audit _)

theorem stays_removeMapping (roleId actorId : Id) (permission : PermissionEntity) :
    Stays tenantId users (removeMapping roleId tenantId actorId permission) := by
  refine emits_bind (stays_findMapping _ _) ?_
  intro found
  cases found with
  | none => trivial
  | some mapping => exact emits_bind (emits_persist _) fun _ => emits_emit (addressed_audit _)

theorem stays_updateRolePermissions (roleId : Id) (dto : UpdateRolePermissionsDto Id) (actorId : Id) :
    Stays tenantId users (updateRolePermissions roleId tenantId dto actorId) := by
  refine emits_bind (stays_findOneForTenant roleId) ?_
  intro role
  refine emits_bind (emits_refuseIf _ _) ?_
  intro _
  apply emits_visible
  intro db
  refine emits_bind (emits_forEach fun permission => stays_addMapping roleId actorId permission) ?_
  intro _
  apply emits_visible
  intro db
  refine emits_bind (emits_forEach fun permission => stays_removeMapping roleId actorId permission) ?_
  intro _
  exact emits_emit (addressed_rolePermissionsChanged roleId)

theorem stays_assignToUser {userId : Id} (dto : AssignRoleDto Id) (actorId : Id)
    (named : users userId) :
    Stays tenantId users (assignToUser userId tenantId dto actorId) := by
  refine emits_bind (stays_requireUser userId) ?_
  intro user
  refine emits_bind (stays_findOneForTenant dto.roleId) ?_
  intro role
  refine emits_bind (stays_saveAssignment userId dto) ?_
  intro assignment
  refine emits_bind (emits_emit (addressed_audit _)) ?_
  intro _
  exact emits_bind (emits_emit (addressed_permissionChanged named)) fun _ => trivial

theorem stays_addRole (userId actorId : Id) (item : AssignRoleDto Id) :
    Stays tenantId users (addRole userId tenantId actorId item) := by
  refine emits_bind (stays_findOneForTenant item.roleId) ?_
  intro role
  refine emits_bind (stays_saveAssignment userId item) ?_
  intro assignment
  exact emits_emit (addressed_audit _)

theorem stays_removeRole (userId actorId roleId : Id) :
    Stays tenantId users (removeRole userId tenantId actorId roleId) := by
  refine emits_bind (stays_findAssignment _ _) ?_
  intro found
  cases found with
  | none => trivial
  | some assignment => exact emits_bind (emits_persist _) fun _ => emits_emit (addressed_audit _)

theorem stays_updateUserRoles {userId : Id} (dto : UpdateUserRolesDto Id) (actorId : Id)
    (named : users userId) :
    Stays tenantId users (updateUserRoles userId tenantId dto actorId) := by
  refine emits_bind (stays_requireUser userId) ?_
  intro user
  refine emits_bind (emits_forEach fun item => stays_addRole userId actorId item) ?_
  intro _
  refine emits_bind (emits_forEach fun roleId => stays_removeRole userId actorId roleId) ?_
  intro _
  exact emits_emit (addressed_permissionChanged named)

omit [Identifier Id] in
theorem stays_emitOverrideEvent {userId : Id} (actorId : Id) (dto : CreateOverrideDto Id)
    (named : users userId) :
    Stays tenantId users (emitOverrideEvent userId tenantId actorId dto) :=
  emits_bind (emits_emit (addressed_audit _)) fun _ => emits_emit (addressed_permissionChanged named)

theorem stays_addOverride {userId : Id} (dto : CreateOverrideDto Id) (actorId : Id)
    (named : users userId) :
    Stays tenantId users (addOverride userId tenantId dto actorId) := by
  apply emits_visible
  intro db
  refine emits_bind (emits_orThrow _ _) ?_
  intro permission
  apply emits_visible
  intro db
  dsimp only
  split
  · apply emits_either
    · trivial
    · refine emits_bind (emits_persist _) ?_
      intro _
      exact emits_bind (stays_emitOverrideEvent actorId dto named) fun _ => trivial
  · apply emits_newId
    intro id
    refine emits_bind (emits_persist _) ?_
    intro _
    exact emits_bind (stays_emitOverrideEvent actorId dto named) fun _ => trivial

theorem stays_removeOverride {userId : Id} (overrideId actorId : Id) (named : users userId) :
    Stays tenantId users (removeOverride overrideId userId tenantId actorId) := by
  apply emits_visible
  intro db
  dsimp only
  split
  · trivial
  · refine emits_bind (emits_persist _) ?_
    intro _
    exact emits_bind (emits_emit (addressed_audit _)) fun _ =>
      emits_emit (addressed_permissionChanged named)

theorem stays_createAcl (dto : CreateAclDto Id) (actorId : Id) (named : users dto.userId) :
    Stays tenantId users (createAcl tenantId dto actorId) := by
  apply emits_visible
  intro db
  dsimp only
  split
  · trivial
  · apply emits_newId
    intro id
    apply emits_attempt
    intro refused
    split
    · trivial
    · trivial
    · trivial
    · refine emits_bind (emits_emit (addressed_aclChanged _ _ _ _ named)) ?_
      intro _
      exact emits_bind (emits_emit (addressed_audit _)) fun _ => trivial

theorem stays_deleteAcl (id actorId : Id) (named : ∀ stored, users (canonical stored)) :
    Stays tenantId users (deleteAcl id tenantId actorId) := by
  apply emits_visible
  intro db
  refine emits_bind (emits_orThrow _ _) ?_
  intro acl
  refine emits_bind (emits_persist _) ?_
  intro _
  exact emits_bind (emits_emit (addressed_aclChanged _ _ _ _ (named _))) fun _ =>
    emits_emit (addressed_audit _)

theorem stays_createUser (hashPassword : String → String) (dto : CreateUserDto Id) (actorId : Id)
    (named : ∀ stored, users (canonical stored)) :
    Stays tenantId users (createUser hashPassword tenantId dto actorId) := by
  apply emits_visible
  intro db
  refine emits_bind (emits_refuseIf _ _) ?_
  intro _
  apply emits_newId
  intro id
  refine emits_bind (emits_persist _) ?_
  intro _
  refine emits_bind (emits_visible fun _ => trivial) ?_
  intro defaultRole
  split
  · exact emits_bind (emits_emit (addressed_audit _)) fun _ => trivial
  · refine emits_bind (stays_assignToUser _ _ (named _)) ?_
    intro assignment
    exact emits_bind (emits_emit (addressed_audit _)) fun _ => trivial

theorem stays_findUser (id : Id) : Stays tenantId users (findUser id) :=
  emits_visible fun _ => emits_orThrow _ _

theorem stays_updateUser [DecidableEq Id] (id : Id) (dto : UpdateUserDto Id) (actorId : Id) :
    Stays tenantId users (updateUser id dto tenantId actorId) := by
  refine emits_bind (stays_findUser id) ?_
  intro user
  refine emits_bind (emits_refuseIf _ _) ?_
  intro _
  refine emits_bind (emits_refuseIf _ _) ?_
  intro _
  refine emits_bind (stays_saveUser _) ?_
  intro _
  exact emits_bind (emits_emit (addressed_audit _)) fun _ => trivial

theorem stays_setActivation [DecidableEq Id] {id : Id} (isActive : Bool) (actorId : Id)
    (named : users id) :
    Stays tenantId users (setActivation id tenantId isActive actorId) := by
  refine emits_bind (stays_findUser id) ?_
  intro user
  refine emits_bind (emits_refuseIf _ _) ?_
  intro _
  refine emits_bind (stays_saveUser _) ?_
  intro _
  have announced : ∀ eventType, Stays tenantId users (do
      emit (.userChanged { tenantId := some tenantId, userId := some id, eventType })
      emit (userAudit eventType tenantId actorId id)) :=
    fun eventType => emits_bind (emits_emit (addressed_userChanged eventType named)) fun _ =>
      emits_emit (addressed_audit _)
  cases isActive with
  | true => exact announced .USER_ACTIVATED
  | false =>
    intro refused
    cases refused with
    | none => exact announced .USER_DEACTIVATED
    | some why => trivial

def Told (users : Id → Prop) : Operation Id → Prop
  | .assignToUser userId _ | .updateUserRoles userId _ | .addOverride userId _
  | .removeOverride _ userId | .setActivation userId _ =>
      users userId
  | .createAcl dto => users dto.userId
  | .deleteAcl _ | .createUser _ => ∀ stored, users (canonical stored)
  | _ => True

/-- Whatever a tenant principal asks for, handling the events of the request deletes
entries of that tenant only. -/
theorem stays_operation [DecidableEq Id] (env : Environment) (actorId : Id)
    {operation : Operation Id} (told : Told users operation) :
    Stays tenantId users (operation.handler env tenantId actorId) := by
  cases operation with
  | createCustomRole now dto =>
    exact emits_bind (stays_createCustomRole now dto actorId) fun _ => trivial
  | updateCustomRole now id body =>
    exact emits_bind (stays_updateCustomRole env.driver now id body actorId) fun _ => trivial
  | deleteCustomRole id => exact stays_deleteCustomRole id actorId
  | updateRolePermissions roleId dto => exact stays_updateRolePermissions roleId dto actorId
  | assignToUser userId dto => exact emits_bind (stays_assignToUser dto actorId told) fun _ => trivial
  | updateUserRoles userId dto => exact stays_updateUserRoles dto actorId told
  | addOverride userId dto => exact emits_bind (stays_addOverride dto actorId told) fun _ => trivial
  | removeOverride overrideId userId => exact stays_removeOverride overrideId actorId told
  | createAcl dto => exact emits_bind (stays_createAcl dto actorId told) fun _ => trivial
  | deleteAcl id => exact stays_deleteAcl id actorId told
  | createUser dto =>
    exact emits_bind (stays_createUser env.hashPassword dto actorId told) fun _ => trivial
  | updateUser id dto => exact emits_bind (stays_updateUser id dto actorId) fun _ => trivial
  | setActivation id isActive => exact stays_setActivation isActive actorId told

theorem told_all (operation : Operation Id) : Told (fun _ => True) operation := by
  cases operation <;> simp [Told]

end Requests
end GenericIam.TenantEvents
