import GenericIam.AuthorizationCheck

/-! The events that the services emit and what their consumer deletes from the cache. -/

namespace GenericIam.Events
open Database Identifiers CacheKeys AuthorizationCheck

inductive AuditEventType where
  | AUTH_LOGIN_SUCCESS | AUTH_LOGIN_FAILED | AUTH_LOGOUT | AUTH_TOKEN_REFRESHED | AUTH_SERVICE_LOGIN
  | AUTHZ_CHECK_ALLOWED | AUTHZ_CHECK_DENIED
  | USER_CREATED | USER_UPDATED | USER_ACTIVATED | USER_DEACTIVATED
  | ROLE_CREATED | ROLE_UPDATED | ROLE_DELETED | ROLE_ASSIGNED | ROLE_REVOKED
  | PERMISSION_ADDED_TO_ROLE | PERMISSION_REMOVED_FROM_ROLE
  | ACL_CREATED | ACL_DELETED
  | TENANT_CREATED | TENANT_UPDATED | TENANT_DEACTIVATED
  | IMPERSONATION_STARTED | IMPERSONATION_ENDED
  | PERMISSION_OVERRIDE_ADDED | PERMISSION_OVERRIDE_REMOVED
  deriving DecidableEq

inductive Resource (Id : Type) where
  | own (resourceType : String) (resourceId : Id)
  | client (resourceType resourceId : String)
  deriving DecidableEq

structure AuditEvent (Id : Type) where
  eventType : AuditEventType
  tenantId : Id
  actorId : Id
  resource : Resource Id
  payloadPermissionId : Option Id := none
  payloadRoleId : Option Id := none
  payloadAdminEmail : Option String := none
  deriving DecidableEq

structure PermissionChangedEvent (Id : Type) where
  tenantId : Option Id := none
  userId : Option Id := none
  payloadTenantId : Option Id := none
  payloadUserId : Option Id := none
  payloadRoleId : Option Id := none
  deriving DecidableEq

structure UserChangedEvent (Id : Type) where
  tenantId : Option Id := none
  userId : Option Id := none
  eventType : AuditEventType
  deriving DecidableEq

structure AclChangedEvent (Id : Type) where
  eventType : AuditEventType
  tenantId : Option Id := none
  userId : Option Id := none
  resourceType : Option String := none
  resourceId : Option String := none
  permission : Option String := none
  deriving DecidableEq

inductive Event (Id : Type) where
  | audit (event : AuditEvent Id)
  | permissionChanged (event : PermissionChangedEvent Id)
  | userChanged (event : UserChangedEvent Id)
  | aclChanged (event : AclChangedEvent Id)
  deriving DecidableEq

/-! `CacheService`: single deletes and pattern deletes. -/

inductive Invalidation (Id : Type) where
  | perms (tenantId userId : Id)
  | authzOfUser (tenantId userId : Id)
  | permsOfTenant (tenantId : Id)
  | authzOfTenant (tenantId : Id)
  | acl (tenantId : Id) (dto : CheckAclDto Id)
  | authzDecision (tenantId userId : Id) (permission resourceType resourceId : String)
  deriving DecidableEq

section CacheService
variable {Id : Type}

def invalidateAclCache (tenantId userId : Id) (resourceType resourceId permission : String) :
    List (Invalidation Id) := [.acl tenantId ⟨userId, resourceType, resourceId, permission⟩]

def invalidateUserPermissionCache (tenantId userId : Id) : List (Invalidation Id) :=
  [.perms tenantId userId, .authzOfUser tenantId userId]

def invalidateTenantPermissionCache (tenantId : Id) : List (Invalidation Id) :=
  [.permsOfTenant tenantId, .authzOfTenant tenantId]

def invalidateAuthzDecision (tenantId userId : Id) (permission resourceType resourceId : String) :
    List (Invalidation Id) := [.authzDecision tenantId userId permission resourceType resourceId]

end CacheService

/-! `EventConsumer`: the deletes of a message, in their order. -/

section EventConsumer
variable {Id : Type}

def handleUserChanged (message : UserChangedEvent Id) : List (Invalidation Id) :=
  match message.tenantId, message.userId with
  | some tenantId, some userId => invalidateUserPermissionCache tenantId userId
  | _, _ => []

def handleAclChanged (message : AclChangedEvent Id) : List (Invalidation Id) :=
  match message.tenantId, message.userId, truthy message.resourceType, truthy message.resourceId,
    truthy message.permission with
  | some tenantId, some userId, some resourceType, some resourceId, some permission =>
      invalidateAclCache tenantId userId resourceType resourceId permission ++
        invalidateAuthzDecision tenantId userId permission resourceType resourceId
  | _, _, _, _, _ => []

def handlePermissionChanged (message : PermissionChangedEvent Id) : List (Invalidation Id) :=
  match message.tenantId.or message.payloadTenantId with
  | none => []
  | some tenantId => match message.userId.or message.payloadUserId with
    | some userId => invalidateUserPermissionCache tenantId userId
    | none => invalidateTenantPermissionCache tenantId

/-- The audit topic has a consumer of its own, which leaves the cache alone. -/
def handle : Event Id → List (Invalidation Id)
  | .audit _ => []
  | .permissionChanged event => handlePermissionChanged event
  | .userChanged event => handleUserChanged event
  | .aclChanged event => handleAclChanged event

end EventConsumer

section Effect
variable {Id Key : Type} [DecidableEq Key]

def Invalidation.reaches (keys : KeyScheme Id Key) : Invalidation Id → Key → Bool
  | .perms tenantId userId, key => key == keys.perms tenantId userId
  | .authzOfUser tenantId userId, key => keys.authzOfUser tenantId userId key
  | .permsOfTenant tenantId, key => keys.permsOfTenant tenantId key
  | .authzOfTenant tenantId, key => keys.authzOfTenant tenantId key
  | .acl tenantId dto, key => key == keys.acl tenantId dto
  | .authzDecision tenantId userId permission resourceType resourceId, key =>
      key == keys.authzDecision tenantId userId permission resourceType resourceId

def Invalidation.apply (keys : KeyScheme Id Key) (deletion : Invalidation Id)
    (cache : Cache Key) : Cache Key :=
  cache.removeWhere (deletion.reaches keys)

def deliver (keys : KeyScheme Id Key) (events : List (Event Id)) (cache : Cache Key) : Cache Key :=
  (events.flatMap handle).foldl (fun cache deletion => deletion.apply keys cache) cache

theorem foldl_apply (keys : KeyScheme Id Key) (deletions : List (Invalidation Id)) (cache : Cache Key) :
    deletions.foldl (fun cache deletion => deletion.apply keys cache) cache =
      cache.removeWhere fun key => deletions.any fun deletion => deletion.reaches keys key := by
  induction deletions generalizing cache with
  | nil => exact (Store.removeWhere_none cache).symm
  | cons deletion rest ih =>
    rw [List.foldl_cons, ih, Invalidation.apply, Store.removeWhere_removeWhere]
    simp only [List.any_cons]

/-- The order of the messages and of their deletes does not matter. -/
theorem deliver_eq (keys : KeyScheme Id Key) (events : List (Event Id)) (cache : Cache Key) :
    deliver keys events cache =
      cache.removeWhere fun key => (events.flatMap handle).any fun deletion =>
        deletion.reaches keys key :=
  foldl_apply keys _ cache

theorem deliver_silent {keys : KeyScheme Id Key} {events : List (Event Id)}
    (silent : ∀ event ∈ events, handle event = []) (cache : Cache Key) :
    deliver keys events cache = cache := by
  have nothing : events.flatMap handle = [] := List.flatMap_eq_nil_iff.mpr silent
  rw [deliver, nothing]
  rfl

end Effect

end GenericIam.Events
