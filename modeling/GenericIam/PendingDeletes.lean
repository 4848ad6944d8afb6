import GenericIam.Interleaving
import GenericIam.Races

/-! What a check holds or has written is right, or a delete is still to come that reaches it. -/

namespace GenericIam.PendingDeletes
open Table Database EffectivePermissions Identifiers CacheKeys AuthorizationCheck Events
open Transaction Handlers TenantWrites Footprint Coherence SuperAdminRequests Registers Races
open ReadCommitted (Request Moves)

/-! What is still to be deleted. -/

/-- A delete of the layer is due that reaches the entry, for a request that committed later. -/
def Due (jobs : List Job) (about : Layer) (since : Nat) (key : CacheKey) : Prop :=
  ∃ job ∈ jobs, ∃ commit, job.committedAt = some commit ∧ since < commit ∧
    ∃ rest ∈ job.due, ∃ deletion ∈ rest, layer deletion = about ∧ deletion.reaches tupleKeys key = true

section Events
variable {event : Event Uuid} {rest : List (Invalidation Uuid)} {deletion : Invalidation Uuid}
  {tenantId userId : Uuid}

theorem handle_cases (event : Event Uuid) :
    handle event = [] ∨ (∃ t u, handle event = invalidateUserPermissionCache t u) ∨
    (∃ t, handle event = invalidateTenantPermissionCache t) ∨
      ∃ t u resourceType resourceId permission, resourceType ≠ "" ∧ resourceId ≠ "" ∧
        handle event = invalidateAclCache t u resourceType resourceId permission ++
          invalidateAuthzDecision t u permission resourceType resourceId := by
  cases event with
  | audit event => exact .inl rfl
  | permissionChanged message =>
    simp only [handle, handlePermissionChanged]
    split
    · exact .inl rfl
    · split
      · exact .inr (.inl ⟨_, _, rfl⟩)
      · exact .inr (.inr (.inl ⟨_, rfl⟩))
  | userChanged message =>
    simp only [handle, handleUserChanged]
    split
    · exact .inr (.inl ⟨_, _, rfl⟩)
    · exact .inl rfl
  | aclChanged message =>
    simp only [handle, handleAclChanged]
    split
    · next resourceType resourceId permission type id _ =>
      exact .inr (.inr (.inr ⟨_, _, _, _, _, truthy_ne type, truthy_ne id, rfl⟩))
    · exact .inl rfl

/-- Decisions are deleted after the permissions that they were taken from. -/
theorem authz_follows_perms (suffix : rest <:+ handle event) (member : deletion ∈ rest)
    (reaches : deletion.reaches tupleKeys (tupleKeys.perms tenantId userId) = true)
    {dto : CheckAuthzDto Uuid} (tenant : dto.tenantId = tenantId) (user : dto.userId = userId) :
    ∃ later ∈ rest, layer later = .perms ∧ later.reaches tupleKeys (tupleKeys.authz dto) = true := by
  subst tenant user
  rcases handle_cases event with none_ | ⟨t, u, some_⟩ | ⟨t, some_⟩ | ⟨t, u, rt, ri, p, _, _, some_⟩
  · rw [none_, List.suffix_nil] at suffix
    rw [suffix] at member
    cases member
  · rw [some_] at suffix
    simp only [invalidateUserPermissionCache, List.suffix_cons_iff, List.suffix_nil] at suffix
    rcases suffix with rfl | rfl | rfl
    · simp only [List.mem_cons, List.not_mem_nil, or_false] at member
      rcases member with rfl | rfl
      · simp only [Invalidation.reaches, beq_iff_eq] at reaches
        obtain ⟨rfl, rfl⟩ := tupleKeys.perms_inj reaches
        exact ⟨_, List.mem_cons_of_mem _ List.mem_cons_self,
          rfl, by simp [Invalidation.reaches, tupleKeys]⟩
      · cases reaches
    · rw [List.mem_singleton] at member
      subst member
      cases reaches
    · cases member
  · rw [some_] at suffix
    simp only [invalidateTenantPermissionCache, List.suffix_cons_iff, List.suffix_nil] at suffix
    rcases suffix with rfl | rfl | rfl
    · simp only [List.mem_cons, List.not_mem_nil, or_false] at member
      rcases member with rfl | rfl
      · have same : dto.tenantId = t := by simpa [Invalidation.reaches, tupleKeys] using reaches
        exact ⟨_, List.mem_cons_of_mem _ List.mem_cons_self,
          rfl, by simp [Invalidation.reaches, tupleKeys, same]⟩
      · cases reaches
    · rw [List.mem_singleton] at member
      subst member
      cases reaches
    · cases member
  · rw [some_] at suffix
    have among := suffix.subset member
    simp only [invalidateAclCache, invalidateAuthzDecision, List.cons_append,
      List.nil_append, List.mem_cons,
      List.not_mem_nil, or_false] at among
    rcases among with rfl | rfl
    · simp [Invalidation.reaches, tupleKeys] at reaches
    · simp [Invalidation.reaches, tupleKeys] at reaches

/-- So are they after the entry of the access list. -/
theorem authz_follows_acl {dto : CheckAclDto Uuid} {key : CacheKey} (suffix : rest <:+ handle event)
    (member : deletion ∈ rest)
    (reaches : deletion.reaches tupleKeys (tupleKeys.acl tenantId dto) = true)
    (lists : Lists tupleKeys tenantId dto key) :
    ∃ later ∈ rest, layer later = .acl ∧ later.reaches tupleKeys key = true := by
  rcases handle_cases event with none_ | ⟨t, u, some_⟩ | ⟨t, some_⟩ | ⟨t, u, rt, ri, p, type, id, some_⟩
  · rw [none_, List.suffix_nil] at suffix
    rw [suffix] at member
    cases member
  · have among := suffix.subset member
    rw [some_] at among
    simp only [invalidateUserPermissionCache, List.mem_cons, List.not_mem_nil, or_false] at among
    rcases among with rfl | rfl
    · simp [Invalidation.reaches, tupleKeys] at reaches
    · cases reaches
  · have among := suffix.subset member
    rw [some_] at among
    simp only [invalidateTenantPermissionCache, List.mem_cons, List.not_mem_nil, or_false] at among
    rcases among with rfl | rfl
    · cases reaches
    · cases reaches
  · rw [some_] at suffix
    simp only [invalidateAclCache, invalidateAuthzDecision, List.cons_append, List.nil_append,
      List.suffix_cons_iff,
      List.suffix_nil] at suffix
    rcases suffix with rfl | rfl | rfl
    · simp only [List.mem_cons, List.not_mem_nil, or_false] at member
      rcases member with rfl | rfl
      · rcases lists with rfl | rfl
        · exact ⟨_, List.mem_cons_self, rfl, reaches⟩
        · simp only [Invalidation.reaches, beq_iff_eq] at reaches
          injection reaches with tenant user resourceType resourceId permission
          subst tenant
          refine ⟨_, List.mem_cons_of_mem _ List.mem_cons_self, rfl, ?_⟩
          simp [Invalidation.reaches, tupleKeys, user, resourceType, resourceId, permission,
            truthy_some type, truthy_some id]
      · simp [Invalidation.reaches, tupleKeys] at reaches
    · rw [List.mem_singleton] at member
      subst member
      simp [Invalidation.reaches, tupleKeys] at reaches
    · cases member

end Events

/-! When what is held of a layer is right. -/

def CodesRight (db : Db) (now : Time) (tenantId userId : Uuid) (codes : List String) : Prop :=
  ∀ code, code ∈ codes ↔ code ∈ effectiveCodes db now userId tenantId

def PermsRight (db : Db) (now : Time) : Point Uuid → Prop
  | .readRolePermissions dto roleIds => ∀ roleId, roleId ∈ roleIds ↔
      roleId ∈ (getUserRoles db now dto.userId dto.tenantId).map (·.roleId)
  | .readOverrides dto rolePermissions => ∀ p, p ∈ rolePermissions ↔ p ∈ db.permissions ∧
      RoleGrants db now dto.userId dto.tenantId p
  | .writePerms dto effectiveSet => CodesRight db now dto.tenantId dto.userId effectiveSet
  | .readAcl caller _ _ | .countAcl caller _ _
  | .writeAcl caller _ _ _ => ∀ asker, caller = some asker →
      PermissionMatcher.hasPermission
        (effectiveCodes db now asker.userId asker.tenantId) asker.permission = false
  | .writeAuthz dto allowed source =>
      PermissionMatcher.hasPermission (effectiveCodes db now dto.userId dto.tenantId) dto.permission =
        if source = "acl" then false else allowed
  | _ => True

def AclRight (db : Db) : Point Uuid → Prop
  | .writeAcl _ tenantId dto allowed => allowed = aclExists db tenantId dto
  | .writeAuthz dto allowed _ =>
      ∀ resource, dto.resource = some resource →
        allowed = aclExists db dto.tenantId (aclDto dto resource)
  | _ => True

/-- A lookup is the one that its check asks for, and a decision without one needs none. -/
def Formed : Point Uuid → Prop
  | .readAcl caller tenantId dto | .countAcl caller tenantId dto | .writeAcl caller tenantId dto _ =>
      ∀ asker, caller = some asker → ∃ resource, asker.resource = some resource ∧
        tenantId = asker.tenantId ∧
      dto = aclDto asker resource
  | .writeAuthz dto allowed source => (source = "acl" ∧ ∃ resource, dto.resource = some resource) ∨
      (source = "rbac" ∧ (allowed = true ∨ dto.resource = none))
  | _ => True

structure CheckSound (now : Time) (world : World) (jobs : List Job) (asking : Asking) : Prop where
  formed : Formed asking.point
  past : ∀ about, asking.since about ≤ world.commits
  perms : ∀ key, Owes asking.point .perms key → PermsRight world.db now asking.point ∨
    Due jobs .perms asking.permsAt key
  acl : ∀ key, Owes asking.point .acl key → AclRight world.db asking.point ∨
    Due jobs .acl asking.aclAt key

structure CacheSound (now : Time) (world : World) (jobs : List Job) : Prop where
  past : ∀ key, world.filledAt key ≤ world.commits
  perms : ∀ tenantId userId cached, world.cache (tupleKeys.perms tenantId userId) = some cached →
    ∃ codes, cached = .codes codes ∧
    (CodesRight world.db now tenantId userId codes ∨
      Due jobs .perms (world.filledAt (tupleKeys.perms tenantId userId))
        (tupleKeys.perms tenantId userId))
  acl : ∀ tenantId dto cached, world.cache (tupleKeys.acl tenantId dto) = some cached →
    ∃ allowed, cached = .decision allowed ∧
    (allowed = aclExists world.db tenantId dto ∨
      Due jobs .acl (world.filledAt (tupleKeys.acl tenantId dto)) (tupleKeys.acl tenantId dto))
  authz : ∀ dto cached, world.cache (tupleKeys.authz dto) = some cached →
    ∃ allowed, cached = .decision allowed ∧
    (allowed = decision world.db now dto ∨ ∃ about since, Due jobs about since (tupleKeys.authz dto))

section Values
variable {db db' : Db} {now : Time} {point : Point Uuid} {key : CacheKey} {jobs jobs' : List Job}

/-- The permissions that a check goes by are those of the user whose entries it writes. -/
theorem permsRight_stable (owes : Owes point .perms key) :
    ∃ tenantId userId, Holds tupleKeys tenantId userId key ∧
    ∀ {db db'}, SameReads now tenantId userId db db' → PermsRight db now point →
      PermsRight db' now point := by
  have decided : ∀ {dto : CheckAuthzDto Uuid} {db db' : Db},
    SameReads now dto.tenantId dto.userId db db' →
      PermissionMatcher.hasPermission (effectiveCodes db' now dto.userId dto.tenantId) dto.permission =
        PermissionMatcher.hasPermission
          (effectiveCodes db now dto.userId dto.tenantId) dto.permission :=
    fun same => PermissionMatcher.hasPermission_congr same.codes _
  cases point with
  | readRolePermissions dto roleIds =>
    refine ⟨dto.tenantId, dto.userId, owes.imp_right fun same => ⟨dto, same, rfl, rfl⟩,
      fun same right roleId => ?_⟩
    exact (right roleId).trans (same.roles roleId).symm
  | readOverrides dto rolePermissions =>
    refine ⟨dto.tenantId, dto.userId, owes.imp_right fun same => ⟨dto, same, rfl, rfl⟩,
      fun same right p => ?_⟩
    rw [same.permissions, same.grants]
    exact right p
  | writePerms dto effectiveSet =>
    refine ⟨dto.tenantId, dto.userId, owes.imp_right fun same => ⟨dto, same, rfl, rfl⟩,
      fun same right code => ?_⟩
    exact (right code).trans (same.codes code).symm
  | readAcl caller tenantId dto | countAcl caller tenantId dto | writeAcl caller tenantId dto allowed =>
    obtain ⟨asker, rfl, is⟩ := owes
    refine ⟨asker.tenantId, asker.userId, .inr ⟨asker, is, rfl, rfl⟩,
      fun same right other someone => ?_⟩
    cases someone
    exact (decided same).trans (right asker rfl)
  | writeAuthz dto allowed source =>
    exact ⟨dto.tenantId, dto.userId, .inr ⟨dto, owes, rfl, rfl⟩, fun same right =>
      (decided same).trans right⟩
  | readAuthz _ | readPerms _ | readRoles _ | done _ => exact owes.elim

theorem aclRight_stable (formed : Formed point) (owes : Owes point .acl key) :
    ∃ tenantId dto, Lists tupleKeys tenantId dto key ∧
    ∀ {db db'}, aclExists db' tenantId dto = aclExists db tenantId dto → AclRight db point →
      AclRight db' point := by
  cases point with
  | writeAcl caller tenantId dto allowed =>
    refine ⟨tenantId, dto, ?_, fun same right => right.trans same.symm⟩
    rcases owes with same | ⟨asker, someone, same⟩
    · exact .inl same
    · obtain ⟨resource, asked, rfl, rfl⟩ := formed asker someone
      rw [same]
      exact lists_of_resource asked
  | writeAuthz dto allowed source =>
    obtain ⟨acl, rfl⟩ := owes
    rcases formed with ⟨_, resource, asked⟩ | ⟨rbac, _⟩
    · refine ⟨dto.tenantId, aclDto dto resource, lists_of_resource asked,
        fun same right other asks => ?_⟩
      cases asked.symm.trans asks
      exact (right resource asked).trans same.symm
    · exact absurd (acl.symm.trans rbac) (by decide)
  | readAcl _ _ _ | countAcl _ _ _ | readAuthz _ | readPerms _ | readRoles _ | readRolePermissions _ _
  | readOverrides _ _ | writePerms _ _ | done _ => exact owes.elim

/-- Requests with one key are one request to the cache and to the database. -/
theorem decision_of_key {dto other : CheckAuthzDto Uuid}
    (same : tupleKeys.authz dto = tupleKeys.authz other) :
    decision db now dto = decision db now other := by
  obtain ⟨userId, tenantId, permission, resourceType, resourceId⟩ := dto
  obtain ⟨userId', tenantId', permission', resourceType', resourceId'⟩ := other
  injection same with tenant user permission type id
  subst tenant user permission
  simp only at type id
  have resource : CheckAuthzDto.resource ⟨userId, tenantId, permission, resourceType, resourceId⟩ =
      CheckAuthzDto.resource ⟨userId, tenantId, permission, resourceType', resourceId'⟩ := by
    simp only [CheckAuthzDto.resource, type, id]
  unfold decision
  rw [resource]
  rfl

/-- What is deleted after a delete that is due is due itself. -/
theorem Due.follows {about : Layer} {since : Nat} {later : CacheKey}
    (due : Due jobs about since key)
    (ordered : ∀ job ∈ jobs, ∀ rest ∈ job.due, ∃ event, rest <:+ handle event)
    (follows : ∀ {event : Event Uuid} {rest : List (Invalidation Uuid)} {deletion : Invalidation Uuid},
      rest <:+ handle event →
      deletion ∈ rest → deletion.reaches tupleKeys key = true →
        ∃ deletion ∈ rest, layer deletion = about ∧
      deletion.reaches tupleKeys later = true) :
    Due jobs about since later := by
  obtain ⟨job, member, commit, committed, after, rest, among, deletion, present, _, reaches⟩ := due
  obtain ⟨event, suffix⟩ := ordered job member rest among
  exact ⟨job, member, commit, committed, after, rest, among, follows suffix present reaches⟩

theorem acl_inj {t t' : Uuid} {dto dto' : CheckAclDto Uuid}
    (same : tupleKeys.acl t dto = tupleKeys.acl t' dto') :
    t = t' ∧ dto = dto' := by
  obtain ⟨userId, resourceType, resourceId, permission⟩ := dto
  obtain ⟨userId', resourceType', resourceId', permission'⟩ := dto'
  injection same with tenant user type id permission
  subst tenant user type id permission
  exact ⟨rfl, rfl⟩

end Values

/-! A step of a check. -/

section Checks
variable {now : Time} {world : World} {jobs : List Job} {asking : Asking} {dto : CheckAuthzDto Uuid}
  {permsAt aclAt : Nat}

/-- A check that has read nothing it will write. -/
theorem checkSound_idle (formed : Formed asking.point)
    (past : ∀ about, asking.since about ≤ world.commits)
    (idle : ∀ about key, ¬Owes asking.point about key) : CheckSound now world jobs asking :=
  ⟨formed, past, fun key owes => absurd owes (idle _ key), fun key owes => absurd owes (idle _ key)⟩

theorem past_of {point : Point Uuid} (perms : permsAt ≤ world.commits) (acl : aclAt ≤ world.commits) :
    ∀ about, Asking.since ⟨point, permsAt, aclAt⟩ about ≤ world.commits := by
  intro about
  cases about with
  | perms => exact perms
  | acl => exact acl

theorem codesRight_of_reads {rolePermissions : List PermissionEntity}
    (right : PermsRight world.db now (.readOverrides dto rolePermissions)) :
    CodesRight world.db now dto.tenantId dto.userId
      (codesOf world.db rolePermissions (getOverridesForUser world.db dto.userId dto.tenantId)) := by
  have known :
    ∀ p ∈ rolePermissions ++ grantsOf world.db (getOverridesForUser world.db dto.userId dto.tenantId),
      p ∈ world.db.permissions := by
    intro p member
    rcases List.mem_append.mp member with role | grant
    · exact ((right p).mp role).1
    · exact (mem_grantsOf.mp grant).1
  intro code
  simp only [codesOf, effectiveCodes, List.mem_eraseDups, List.mem_map]
  refine exists_congr fun p => and_congr_left fun _ => ?_
  rw [mem_combine known, mem_getEffectivePermissions, right p, mem_grantsOf,
    mem_denyIdsOf, ← and_or_left, and_assoc]

/-- From the permission set on. -/
theorem checkSound_afterPermissions {codes : List String} (perms : permsAt ≤ world.commits)
    (acl : aclAt ≤ world.commits)
    (right : CodesRight world.db now dto.tenantId dto.userId codes ∨
      Due jobs .perms permsAt (tupleKeys.authz dto)) :
    CheckSound now world jobs ⟨afterPermissions dto codes, permsAt, aclAt⟩ := by
  have decided : CodesRight world.db now dto.tenantId dto.userId codes →
      PermissionMatcher.hasPermission
        (effectiveCodes world.db now dto.userId dto.tenantId) dto.permission =
        PermissionMatcher.hasPermission codes dto.permission :=
    fun same => PermissionMatcher.hasPermission_congr (fun {code} => (same code).symm) _
  unfold afterPermissions
  split
  next granted =>
    refine ⟨.inr ⟨rfl, .inl rfl⟩, past_of perms acl, ?_, fun key owes => absurd owes.1 (by decide)⟩
    intro key same
    obtain rfl := same
    exact right.imp_left fun same => (decided same).trans granted
  next refused =>
    rw [Bool.not_eq_true] at refused
    cases asked : dto.resource with
    | none =>
      refine ⟨.inr ⟨rfl, .inr asked⟩, past_of perms acl, ?_, fun key owes => absurd owes.1 (by decide)⟩
      intro key same
      obtain rfl := same
      exact right.imp_left fun same => (decided same).trans refused
    | some resource =>
      refine ⟨?_, past_of perms acl, ?_, fun key owes => owes.elim⟩
      · intro asker someone
        cases someone
        exact ⟨resource, asked, rfl, rfl⟩
      · intro key holds
        obtain ⟨asker, someone, rfl⟩ := holds
        cases someone
        refine right.imp_left fun same other someone => ?_
        cases someone
        exact (decided same).trans refused

/-- From the access list on. -/
theorem checkSound_afterAcl {caller : Option (CheckAuthzDto Uuid)} {tenantId : Uuid}
    {aclDto : CheckAclDto Uuid} {result : CheckResult}
    (formed : Formed (.countAcl caller tenantId aclDto)) (past : permsAt ≤ world.commits)
    (past' : aclAt ≤ world.commits)
    (perms : ∀ key, Awaited caller key → PermsRight world.db now (.countAcl caller tenantId aclDto) ∨
      Due jobs .perms permsAt key)
    (acl : ∀ key, Awaited caller key → result.allowed = aclExists world.db tenantId aclDto ∨
      Due jobs .acl aclAt key) :
    CheckSound now world jobs ⟨afterAcl caller result, permsAt, aclAt⟩ := by
  cases caller with
  | none => exact checkSound_idle trivial (past_of past past') fun about key owes => owes.elim
  | some asker =>
    obtain ⟨resource, asked, rfl, rfl⟩ := formed asker rfl
    refine ⟨.inl ⟨rfl, resource, asked⟩, past_of past past', ?_, ?_⟩
    · intro key same
      obtain rfl := same
      exact (perms _ ⟨asker, rfl, rfl⟩).imp_left fun refused => refused asker rfl
    · intro key holds
      obtain ⟨_, rfl⟩ := holds
      refine (acl _ ⟨asker, rfl, rfl⟩).imp_left fun same other asks => ?_
      cases asked.symm.trans asks
      exact same

/-- What a check has read of a sound cache is right or due to be deleted wherever it goes. -/
theorem CheckSound.next (sound : CheckSound now world jobs asking) (cache : CacheSound now world jobs)
    (ordered : ∀ job ∈ jobs, ∀ rest ∈ job.due, ∃ event, rest <:+ handle event) :
    CheckSound now world jobs (asking.next now world).2 := by
  obtain ⟨point, permsAt, aclAt⟩ := asking
  obtain ⟨formed, past, perms, acl⟩ := sound
  have past_perms : permsAt ≤ world.commits := past .perms
  have past_acl : aclAt ≤ world.commits := past .acl
  have idle : ∀ {point permsAt}, Formed point → permsAt ≤ world.commits →
    (∀ about key, ¬Owes point about key) →
      CheckSound now world jobs ⟨point, permsAt, aclAt⟩ :=
    fun formed past idle => checkSound_idle formed (past_of past past_acl) idle
  cases point with
  | readAuthz dto =>
    simp only [Asking.next, step, Asking.back]
    split
    next => exact idle trivial past_perms fun _ _ owes => owes.elim
    next => exact idle trivial past_perms fun _ _ owes => owes.elim
  | readPerms dto =>
    simp only [Asking.next, step, Asking.back]
    split
    next effectiveSet held =>
      obtain ⟨cached, stored, read⟩ := Option.bind_eq_some_iff.mp held
      obtain ⟨codes, rfl, right⟩ := cache.perms dto.tenantId dto.userId cached stored
      cases read
      refine checkSound_afterPermissions (cache.past _) past_acl (right.imp_right fun due => ?_)
      exact due.follows ordered fun suffix member reaches =>
        authz_follows_perms suffix member reaches rfl rfl
    next => exact idle trivial (cache.past _) fun _ _ owes => owes.elim
  | readRoles dto =>
    exact ⟨trivial, past_of le_rfl past_acl, fun _ _ => .inl fun _ => Iff.rfl, fun _ owes => owes.elim⟩
  | readRolePermissions dto roleIds =>
    refine ⟨trivial, past, fun key owes => (perms key owes).imp_left fun right p => ?_,
      fun _ owes => owes.elim⟩
    rw [mem_rolePermissionsOf, ← mem_activeRolePermissions, mem_rolePermissionsOf]
    simp only [right _]
  | readOverrides dto rolePermissions =>
    exact ⟨trivial, past, fun key owes => (perms key owes).imp_left codesRight_of_reads,
      fun _ owes => owes.elim⟩
  | writePerms dto effectiveSet =>
    exact checkSound_afterPermissions past_perms past_acl (perms _ (.inr rfl))
  | readAcl caller tenantId dto =>
    simp only [Asking.next, step, Asking.back]
    split
    next cached held =>
      obtain ⟨allowed, rfl, right⟩ := cache.acl tenantId dto cached held
      refine checkSound_afterAcl formed past_perms (cache.past _) perms ?_
      intro key holds
      obtain ⟨asker, someone, rfl⟩ := holds
      obtain ⟨resource, asked, rfl, rfl⟩ := formed asker someone
      refine right.imp_right fun due => ?_
      exact due.follows ordered fun suffix member reaches =>
        authz_follows_acl suffix member reaches (lists_of_resource asked)
    next => exact ⟨formed, past_of past_perms (cache.past _), perms, fun _ owes => owes.elim⟩
  | countAcl caller tenantId dto =>
    exact ⟨formed, past_of past_perms le_rfl, perms, fun _ _ => .inl rfl⟩
  | writeAcl caller tenantId dto allowed =>
    exact checkSound_afterAcl formed past_perms past_acl perms fun key awaited => acl key (.inr awaited)
  | writeAuthz dto allowed source => exact idle trivial past_perms fun _ _ owes => owes.elim
  | done result => exact idle trivial past_perms fun _ _ owes => owes.elim

theorem CheckSound.elsewhere {asking : Asking} {world' : World}
    (sound : CheckSound now world jobs asking) (db : world'.db = world.db)
    (commits : world'.commits = world.commits) : CheckSound now world' jobs asking := by
  refine ⟨sound.formed, ?_, ?_, ?_⟩
  · rw [commits]
    exact sound.past
  · rw [db]
    exact sound.perms
  · rw [db]
    exact sound.acl

/-! What it writes. -/

theorem CacheSound.fillPerms {tenantId userId : Uuid} {codes : List String}
    (sound : CacheSound now world jobs) (past : permsAt ≤ world.commits)
    (right : CodesRight world.db now tenantId userId codes ∨
      Due jobs .perms permsAt (tupleKeys.perms tenantId userId)) :
    CacheSound now
      { world with cache := world.cache.put (tupleKeys.perms tenantId userId) (.codes codes),
                                filledAt :=
                                  Function.update world.filledAt
                                  (tupleKeys.perms tenantId userId) permsAt } jobs where
  past key := by
    by_cases same : key = tupleKeys.perms tenantId userId
    · subst same
      simpa only [Function.update_self] using past
    · simpa only [Function.update_of_ne same] using sound.past key
  perms t u cached stored := by
    by_cases same : tupleKeys.perms t u = tupleKeys.perms tenantId userId
    · obtain ⟨rfl, rfl⟩ := tupleKeys.perms_inj same
      simp only [Store.put_self] at stored
      cases stored
      exact ⟨codes, rfl, by simpa only [Function.update_self] using right⟩
    · simp only [Store.put_other _ _ same] at stored
      simpa only [Function.update_of_ne same] using sound.perms t u cached stored
  acl t dto cached stored := by
    have differ : tupleKeys.acl t dto ≠ tupleKeys.perms tenantId userId := tupleKeys.perms_ne_acl.symm
    simp only [Store.put_other _ _ differ] at stored
    simpa only [Function.update_of_ne differ] using sound.acl t dto cached stored
  authz dto cached stored := by
    simp only [Store.put_other _ _ tupleKeys.perms_ne_authz.symm] at stored
    exact sound.authz dto cached stored

theorem CacheSound.fillAcl {tenantId : Uuid} {aclDto : CheckAclDto Uuid} {allowed : Bool}
    (sound : CacheSound now world jobs) (past : aclAt ≤ world.commits)
    (right : allowed = aclExists world.db tenantId aclDto ∨
      Due jobs .acl aclAt (tupleKeys.acl tenantId aclDto)) :
    CacheSound now
      { world with cache := world.cache.put (tupleKeys.acl tenantId aclDto) (.decision allowed),
                                filledAt :=
                                  Function.update world.filledAt (tupleKeys.acl tenantId aclDto) aclAt }
                                  jobs where
  past key := by
    by_cases same : key = tupleKeys.acl tenantId aclDto
    · subst same
      simpa only [Function.update_self] using past
    · simpa only [Function.update_of_ne same] using sound.past key
  perms t u cached stored := by
    have differ : tupleKeys.perms t u ≠ tupleKeys.acl tenantId aclDto := tupleKeys.perms_ne_acl
    simp only [Store.put_other _ _ differ] at stored
    simpa only [Function.update_of_ne differ] using sound.perms t u cached stored
  acl t dto cached stored := by
    by_cases same : tupleKeys.acl t dto = tupleKeys.acl tenantId aclDto
    · obtain ⟨rfl, rfl⟩ := acl_inj same
      simp only [Store.put_self] at stored
      cases stored
      exact ⟨allowed, rfl, by simpa only [Function.update_self] using right⟩
    · simp only [Store.put_other _ _ same] at stored
      simpa only [Function.update_of_ne same] using sound.acl t dto cached stored
  authz dto cached stored := by
    simp only [Store.put_other _ _ tupleKeys.authz_ne_acl] at stored
    exact sound.authz dto cached stored

theorem CacheSound.fillAuthz {allowed : Bool} (sound : CacheSound now world jobs)
    (right : allowed = decision world.db now dto ∨
      ∃ about since, Due jobs about since (tupleKeys.authz dto)) :
    CacheSound now
      { world with cache := world.cache.put (tupleKeys.authz dto) (.decision allowed) } jobs where
  past := sound.past
  perms t u cached stored := by
    simp only [Store.put_other _ _ tupleKeys.perms_ne_authz] at stored
    exact sound.perms t u cached stored
  acl t dto cached stored := by
    simp only [Store.put_other _ _ tupleKeys.authz_ne_acl.symm] at stored
    exact sound.acl t dto cached stored
  authz other cached stored := by
    by_cases same : tupleKeys.authz other = tupleKeys.authz dto
    · rw [same] at stored
      simp only [Store.put_self] at stored
      cases stored
      rw [decision_of_key same, same]
      exact ⟨allowed, rfl, right⟩
    · simp only [Store.put_other _ _ same] at stored
      exact sound.authz other cached stored

/-- A decision is right when all of what it is taken from is. -/
theorem decision_right {allowed : Bool} {source : String}
    (formed : Formed (.writeAuthz dto allowed source))
    (perms : PermsRight world.db now (.writeAuthz dto allowed source))
    (acl : source = "acl" → AclRight world.db (.writeAuthz dto allowed source)) :
    allowed = decision world.db now dto := by
  unfold decision
  change allowed =
    (PermissionMatcher.hasPermission
    (effectiveCodes world.db now dto.userId dto.tenantId) dto.permission || _)
  simp only [PermsRight] at perms
  rcases formed with ⟨rfl, resource, asked⟩ | ⟨rfl, either⟩
  · rw [if_pos rfl] at perms
    rw [perms, asked, Bool.false_or]
    exact acl rfl resource asked
  · rw [if_neg (by decide)] at perms
    rw [perms]
    rcases either with rfl | asked
    · rfl
    · rw [asked, Bool.or_false]

/-- A check writes only what is right or due to be deleted. -/
theorem CacheSound.next (cache : CacheSound now world jobs) (sound : CheckSound now world jobs asking) :
    CacheSound now (asking.next now world).1 jobs := by
  obtain ⟨point, permsAt, aclAt⟩ := asking
  obtain ⟨formed, past, perms, acl⟩ := sound
  cases point with
  | writePerms dto effectiveSet => exact cache.fillPerms (past .perms) (perms _ (.inl rfl))
  | writeAcl caller tenantId dto allowed => exact cache.fillAcl (past .acl) (acl _ (.inl rfl))
  | writeAuthz dto allowed source =>
    refine cache.fillAuthz ?_
    rcases perms _ rfl with right | due
    · by_cases list : source = "acl"
      · rcases acl _ ⟨list, rfl⟩ with looked | due
        · exact .inl (decision_right formed right fun _ => looked)
        · exact .inr ⟨_, _, due⟩
      · exact .inl (decision_right formed right fun is => absurd is list)
    · exact .inr ⟨_, _, due⟩
  | readAuthz dto | readPerms dto | readAcl caller tenantId dto =>
    simp only [Asking.next, step]
    split
    next => exact cache
    next => exact cache
  | _ => exact cache

end Checks

/-! A step of a request. -/

section Requests
variable {now : Time} {world : World} {checks : List Asking}
  {jobs jobs' before after : List Job} {job job' : Job}
  {db' : Db} {about : Layer}
  {since : Nat} {key : CacheKey} {owner : Uuid} {write : Write} {tenantId userId : Uuid}

theorem Due.replace (owed : Due (before ++ job :: after) about since key)
    (kept : ∀ commit, job.committedAt = some commit → job'.committedAt = some commit ∧
      ∀ rest ∈ job.due, rest ∈ job'.due) :
    Due (before ++ job' :: after) about since key := by
  obtain ⟨other, member, commit, committed, later, rest, among, deletion, present, reaches⟩ := owed
  rcases Interleaving.System.mem_moved member with rfl | stays
  · obtain ⟨committed', still⟩ := kept commit committed
    exact ⟨job', List.mem_append_right _ List.mem_cons_self, commit, committed', later,
      rest, still rest among,
      deletion, present, reaches⟩
  · exact ⟨other, stays, commit, committed, later, rest, among, deletion, present, reaches⟩

/-- What becomes of the database and of the deletes: whatever is held or about to be written is
about something that has not changed, or is due to be deleted. -/
structure Follows (now : Time) (world : World) (checks : List Asking) (jobs : List Job) (db' : Db)
    (jobs' : List Job) : Prop where
  due : ∀ {about since key}, Due jobs about since key → Due jobs' about since key
  perms : ∀ {tenantId userId key}, Holds tupleKeys tenantId userId key →
    ¬Absent world checks .perms key →
    SameReads now tenantId userId world.db db' ∨ ∀ since ≤ world.commits, Due jobs' .perms since key
  acl : ∀ {tenantId dto key}, Lists tupleKeys tenantId dto key → ¬Absent world checks .acl key →
    aclExists db' tenantId dto = aclExists world.db tenantId dto ∨ ∀ since ≤ world.commits,
      Due jobs' .acl since key

theorem CacheSound.follows (sound : CacheSound now world jobs)
    (follows : Follows now world checks jobs db' jobs') {commits : Nat}
    (more : world.commits ≤ commits) :
    CacheSound now { world with db := db', commits := commits } jobs' where
  past key := (sound.past key).trans more
  perms t u cached stored := by
    obtain ⟨codes, rfl, right⟩ := sound.perms t u cached stored
    refine ⟨codes, rfl, ?_⟩
    rcases right with right | due
    · have present : ¬Absent world checks .perms (tupleKeys.perms t u) := fun absent => by
        rw [absent.1] at stored
        cases stored
      rcases follows.perms (.inl rfl) present with same | due
      · exact .inl fun code => (right code).trans (same.codes code).symm
      · exact .inr (due _ (sound.past _))
    · exact .inr (follows.due due)
  acl t dto cached stored := by
    obtain ⟨allowed, rfl, right⟩ := sound.acl t dto cached stored
    refine ⟨allowed, rfl, ?_⟩
    rcases right with right | due
    · have present : ¬Absent world checks .acl (tupleKeys.acl t dto) := fun absent => by
        rw [absent.1] at stored
        cases stored
      rcases follows.acl (.inl rfl) present with same | due
      · exact .inl (right.trans same.symm)
      · exact .inr (due _ (sound.past _))
    · exact .inr (follows.due due)
  authz dto cached stored := by
    obtain ⟨allowed, rfl, right⟩ := sound.authz dto cached stored
    refine ⟨allowed, rfl, ?_⟩
    have present : ∀ {about}, ¬Absent world checks about (tupleKeys.authz dto) := fun absent => by
      rw [absent.1] at stored
      cases stored
    rcases right with right | ⟨about, since, due⟩
    · rcases follows.perms (.inr ⟨dto, rfl, rfl, rfl⟩) present with same | due
      · have decided : (∀ resource, dto.resource = some resource →
            aclExists db' dto.tenantId (aclDto dto resource) =
              aclExists world.db dto.tenantId (aclDto dto resource)) →
              decision db' now dto = decision world.db now dto := decision_congr same.codes
        cases asked : dto.resource with
        | none =>
          have nothing : ∀ resource, dto.resource ≠ some resource := fun resource asks =>
            Option.some_ne_none _ (asks.symm.trans asked)
          exact .inl (right.trans (decided fun resource asks => absurd asks (nothing resource)).symm)
        | some resource =>
          rcases follows.acl (lists_of_resource asked) present with looked | due
          · refine .inl (right.trans (decided fun other asks => ?_).symm)
            cases asked.symm.trans asks
            exact looked
          · exact .inr ⟨_, 0, due 0 (Nat.zero_le _)⟩
      · exact .inr ⟨_, 0, due 0 (Nat.zero_le _)⟩
    · exact .inr ⟨about, since, follows.due due⟩

theorem CheckSound.follows {asking : Asking} (sound : CheckSound now world jobs asking)
    (member : asking ∈ checks) (follows : Follows now world checks jobs db' jobs') {commits : Nat}
    (more : world.commits ≤ commits) :
    CheckSound now { world with db := db', commits := commits } jobs' asking where
  formed := sound.formed
  past about := (sound.past about).trans more
  perms key owes := by
    rcases sound.perms key owes with right | due
    · obtain ⟨t, u, holds, stable⟩ := permsRight_stable owes
      rcases follows.perms holds fun absent => absent.2 asking member owes with same | due
      · exact .inl (stable same right)
      · exact .inr (due _ (sound.past .perms))
    · exact .inr (follows.due due)
  acl key owes := by
    rcases sound.acl key owes with right | due
    · obtain ⟨t, dto, lists, stable⟩ := aclRight_stable sound.formed owes
      rcases follows.acl lists fun absent => absent.2 asking member owes with same | due
      · exact .inl (stable same right)
      · exact .inr (due _ (sound.past .acl))
    · exact .inr (follows.due due)

/-- As long as the tables that are read stay as they are. -/
theorem follows_due (same : ∀ tenantId userId, SameReads now tenantId userId world.db db')
    (acls : ∀ (tenantId : Uuid) dto, aclExists db' tenantId dto = aclExists world.db tenantId dto)
    (due : ∀ {about since key}, Due jobs about since key → Due jobs' about since key) :
    Follows now world checks jobs db' jobs' :=
  ⟨due, fun _ _ => .inl (same _ _), fun _ _ => .inl (acls _ _)⟩

theorem reached_of_coversUser {event : Event Uuid} (covers : CoversUser tenantId userId event)
    (holds : Holds tupleKeys tenantId userId key) :
    ∃ deletion ∈ handle event, layer deletion = .perms ∧ deletion.reaches tupleKeys key = true := by
  obtain ⟨t, u, ofTenant, ofUser, handled⟩ := covers
  obtain rfl : t = tenantId := ofTenant
  obtain rfl : u = userId := ofUser
  rw [handled]
  rcases holds with rfl | ⟨dto, rfl, tenant, user⟩
  · exact ⟨.perms t u, by simp [invalidateUserPermissionCache], rfl, by simp [Invalidation.reaches]⟩
  · exact ⟨.authzOfUser t
      u, by simp [invalidateUserPermissionCache], rfl, tupleKeys.authzOfUser_authz.mpr ⟨tenant, user⟩⟩

theorem reached_of_coversTenant {event : Event Uuid} (covers : CoversTenant tenantId event)
    (holds : Holds tupleKeys tenantId userId key) :
    ∃ deletion ∈ handle event, layer deletion = .perms ∧ deletion.reaches tupleKeys key = true := by
  obtain ⟨t, ofTenant, handled⟩ := covers
  obtain rfl : t = tenantId := ofTenant
  rw [handled]
  rcases holds with rfl | ⟨dto, rfl, tenant, user⟩
  · exact ⟨.permsOfTenant
      t, by simp [invalidateTenantPermissionCache], rfl, tupleKeys.permsOfTenant_perms.mpr rfl⟩
  · exact ⟨.authzOfTenant
      t, by simp [invalidateTenantPermissionCache], rfl, tupleKeys.authzOfTenant_authz.mpr tenant⟩

theorem reached_of_coversAcl {event : Event Uuid} {row : ResourceAclEntity} {dto : CheckAclDto Uuid}
    (covers : CoversAcl row event) (filled : Filled row)
    (answers : Answers tenantId dto row) (lists : Lists tupleKeys tenantId dto key) :
    ∃ deletion ∈ handle event, layer deletion = .acl ∧ deletion.reaches tupleKeys key = true := by
  obtain ⟨t, u, tenant, user, handled⟩ := covers filled.1 filled.2.1 filled.2.2
  obtain ⟨userId, resourceType, resourceId, permission⟩ := dto
  obtain ⟨ofTenant, ofUser, rfl, rfl, rfl⟩ := answers
  obtain rfl : t = tenantId := tenant.trans ofTenant
  obtain rfl : u = userId := user.trans ofUser
  rw [handled]
  rcases lists with rfl | rfl
  · exact ⟨.acl t ⟨u, row.resourceType, row.resourceId, row.permission⟩,
      by simp [invalidateAclCache], rfl, by simp [Invalidation.reaches]⟩
  · refine ⟨.authzDecision t u row.permission row.resourceType
      row.resourceId, by simp [invalidateAuthzDecision], rfl, ?_⟩
    simp [Invalidation.reaches, tupleKeys.authzDecision_eq filled.1 filled.2.1]

/-- A statement that affects a user is announced by a delete that reaches its entries. -/
theorem reached_of_affects {events : List (Event Uuid)} (announced : Announced owner events write)
    (affects : Affects owner tenantId userId write)
    (holds : Holds tupleKeys tenantId userId key) :
    ∃ event ∈ events, ∃ deletion ∈ handle event, layer deletion = .perms ∧
      deletion.reaches tupleKeys key = true := by
  cases write with
  | insertUserRole row | updateUserRole row | deleteUserRole row | insertOverride row
  | updateOverride row
  | deleteOverride row =>
    obtain ⟨rfl, rfl⟩ := affects
    obtain ⟨event, emitted, covers⟩ := announced
    exact ⟨event, emitted, reached_of_coversUser covers holds⟩
  | insertRolePermission row | deleteRolePermission row =>
    obtain rfl : owner = tenantId := affects
    obtain ⟨event, emitted, covers⟩ := announced
    exact ⟨event, emitted, reached_of_coversTenant covers holds⟩
  | _ => exact affects.elim

theorem reached_of_affectsAcl {events : List (Event Uuid)} {registry : Registry}
    {dto : CheckAclDto Uuid} (announced : Announced owner events write)
    (lawful : Lawful registry now owner write) (affects : AffectsAcl tenantId dto write)
    (lists : Lists tupleKeys tenantId dto key) :
    ∃ event ∈ events, ∃ deletion ∈ handle event, layer deletion = .acl ∧
      deletion.reaches tupleKeys key = true := by
  cases write with
  | insertAcl row =>
    obtain ⟨event, emitted, covers⟩ := announced
    exact ⟨event, emitted, reached_of_coversAcl covers lawful affects lists⟩
  | deleteAcl row =>
    obtain ⟨event, emitted, covers⟩ := announced
    exact ⟨event, emitted, reached_of_coversAcl covers lawful.2 affects lists⟩
  | _ => exact affects.elim

/-- A request that commits in time: what it changes is due to be deleted, unless it has been
deleted for good. -/
theorem follows_commit {registry : Registry} (running : job.committedAt = none)
    (whole : ∀ event ∈ job.emitted, ∀ deletion ∈ handle event, deletion ∈ job.handled ∨
      ∃ rest ∈ job.due, deletion ∈ rest)
    (announcing : Announcing owner job.emitted job.request.log)
    (lawful : ∀ write ∈ job.request.log, Lawful registry now owner write ∨
      ∃ row, write = .deleteRole row)
    (carried : Carried registry now owner job.request.log world.db db')
    (inTime : InTime world checks job) :
    Follows now world checks (before ++ job :: after) db'
      (before ++ job.commits (world.commits + 1) :: after) := by
  have overdue : ∀ {about key},
    (∃ event ∈ job.emitted, ∃ deletion ∈ handle event, layer deletion = about ∧
    deletion.reaches tupleKeys key = true) →
      ¬Absent world checks about key → ∀ since ≤ world.commits,
        Due (before ++ job.commits (world.commits + 1) :: after) about since key := by
    rintro about key ⟨event, emitted, deletion, present, rfl, reaches⟩ filled since earlier
    rcases whole event emitted deletion present with handled | ⟨rest, among, member⟩
    · exact absurd (inTime.handled deletion handled key reaches) filled
    · exact ⟨_, List.mem_append_right _ List.mem_cons_self, _, rfl, Nat.lt_succ_of_le earlier,
        rest, among, deletion,
        member, rfl, reaches⟩
  refine ⟨fun due => due.replace fun commit committed => ?_, fun {t u key} holds filled => ?_,
    fun {t dto key} lists filled => ?_⟩
  · rw [running] at committed
    cases committed
  · by_cases away : ∀ write ∈ job.request.log, ¬Affects owner t u write
    · exact .inl (carried.reads t u away)
    · push Not at away
      obtain ⟨write, sent, affects⟩ := away
      refine .inr (overdue ?_ filled)
      rcases announcing write sent with ⟨row, rfl⟩ | announced
      · obtain ⟨rfl, rfl⟩ := affects
        rcases inTime.newcomers row sent with ⟨event, emitted, covers⟩ | absent
        · exact ⟨event, emitted, reached_of_coversUser covers holds⟩
        · exact absurd (absent key holds) filled
      · exact reached_of_affects announced affects holds
  · by_cases away : ∀ write ∈ job.request.log, ¬AffectsAcl t dto write
    · exact .inl (carried.acls t dto away)
    · push Not at away
      obtain ⟨write, sent, affects⟩ := away
      refine .inr (overdue ?_ filled)
      rcases announcing write sent with ⟨row, rfl⟩ | announced
      · exact affects.elim
      · rcases lawful write sent with allowed | ⟨row, rfl⟩
        · exact reached_of_affectsAcl announced allowed affects lists
        · exact affects.elim

end Requests

/-! A delete. -/

section Deletes
variable {now : Time} {world : World} {checks : List Asking} {before after : List Job}
  {job : Job} {about : Layer}
  {since : Nat} {key : CacheKey}
  {earlier later : List (List (Invalidation Uuid))} {deletion : Invalidation Uuid}
    {rest : List (Invalidation Uuid)}

theorem Due.delete (due : job.due = earlier ++ (deletion :: rest) :: later)
    (owed : Due (before ++ job :: after) about since key) :
    (deletion.reaches tupleKeys key = true ∧ layer deletion = about ∧
      ∃ commit, job.committedAt = some commit ∧ since < commit) ∨
      Due (before ++ job.deletes earlier deletion rest later :: after) about since key := by
  obtain ⟨other, member, commit, committed, overdue, list, among, last, present, is, reaches⟩ := owed
  rcases Interleaving.System.mem_moved member with rfl | elsewhere
  · have stays : ∀ list ∈ earlier ++ rest :: later, last ∈ list →
      Due (before ++ other.deletes earlier deletion rest later :: after) about since key :=
          fun list among present =>
      ⟨_, List.mem_append_right _ List.mem_cons_self, commit, committed, overdue, list, among, last,
        present, is, reaches⟩
    rw [due] at among
    rcases Interleaving.System.mem_moved among with rfl | old
    · rcases List.mem_cons.mp present with rfl | still
      · exact .inl ⟨reaches, is, commit, committed, overdue⟩
      · exact .inr (stays rest (List.mem_append_right _ List.mem_cons_self) still)
    · exact .inr (stays list old present)
  · exact .inr ⟨other, elsewhere, commit, committed, overdue, list, among, last, present, is, reaches⟩

theorem CacheSound.delete (sound : CacheSound now world (before ++ job :: after))
    (due : job.due = earlier ++ (deletion :: rest) :: later) :
    CacheSound now (world.without deletion)
      (before ++ job.deletes earlier deletion rest later :: after) := by
  have spared : ∀ {about since key cached}, (deletion.apply tupleKeys world.cache) key = some cached →
    Due (before ++ job :: after) about since key →
      Due (before ++ job.deletes earlier deletion rest later :: after) about since key := by
    intro about since key cached stored owed
    rcases owed.delete due with ⟨reaches, _⟩ | still
    · rw [(Store.removeWhere_some.mp stored).1] at reaches
      cases reaches
    · exact still
  refine ⟨sound.past, fun t u cached stored => ?_, fun t dto cached stored => ?_,
    fun dto cached stored => ?_⟩
  · obtain ⟨codes, is, right⟩ := sound.perms t u cached (Store.removeWhere_some.mp stored).2
    exact ⟨codes, is, right.imp_right (spared stored)⟩
  · obtain ⟨allowed, is, right⟩ := sound.acl t dto cached (Store.removeWhere_some.mp stored).2
    exact ⟨allowed, is, right.imp_right (spared stored)⟩
  · obtain ⟨allowed, is, right⟩ := sound.authz dto cached (Store.removeWhere_some.mp stored).2
    exact ⟨allowed, is, right.imp_right fun ⟨about, since, owed⟩ => ⟨about, since, spared stored owed⟩⟩

theorem CheckSound.delete {asking : Asking}
    (sound : CheckSound now world (before ++ job :: after) asking) (member : asking ∈ checks)
    (due : job.due = earlier ++ (deletion :: rest) :: later)
    (upToDate : UpToDate checks job deletion) :
    CheckSound now (world.without deletion)
      (before ++ job.deletes earlier deletion rest later :: after) asking := by
  have spared : ∀ {about key}, Owes asking.point about key →
    Due (before ++ job :: after) about (asking.since about) key →
      Due (before ++ job.deletes earlier deletion rest later :: after) about
          (asking.since about) key := by
    intro about key owes owed
    rcases owed.delete due with ⟨reaches, rfl, commit, committed, overdue⟩ | still
    · exact absurd (upToDate commit committed asking member key reaches owes) (Nat.not_le_of_lt overdue)
    · exact still
  exact ⟨sound.formed, sound.past, fun key owes => (sound.perms key owes).imp_right (spared owes),
    fun key owes => (sound.acl key owes).imp_right (spared owes)⟩

theorem CacheSound.forget {jobs : List Job} (sound : CacheSound now world jobs)
    (gone : CacheKey → Bool) :
    CacheSound now { world with cache := world.cache.removeWhere gone } jobs :=
  ⟨sound.past, fun t u cached stored => sound.perms t u cached (Store.removeWhere_some.mp stored).2,
    fun t dto cached stored => sound.acl t dto cached (Store.removeWhere_some.mp stored).2,
    fun dto cached stored => sound.authz dto cached (Store.removeWhere_some.mp stored).2⟩

end Deletes

end GenericIam.PendingDeletes
