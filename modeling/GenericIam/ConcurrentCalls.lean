import GenericIam.Operations
import GenericIam.ReadCommitted
import GenericIam.Statements

/-! Requests of the service among each other, and the locks that their statements wait for. -/

namespace GenericIam.ConcurrentCalls
open Database Identifiers Transaction Handlers Operations ReadCommitted

structure Call (Id : Type) where
  session : Session
  tenantId : Id
  actorId : Id
  operation : Operation Id

section Calls
variable {Id : Type} [Identifier Id] [DecidableEq Id]

def Call.handler (env : Environment) (call : Call Id) : Handler Id Unit :=
  call.operation.handler env call.tenantId call.actorId

structure Asked (env : Environment) (request : Request (effects Id) Db (Call Id)) : Prop where
  fresh : Fresh request
  engine : request.engine = engine Id request.kind.session
  program : request.program = request.kind.handler env

def ask (env : Environment) (keys : Nat → Uuid) (call : Call Id) :
    Request (effects Id) Db (Call Id) where
  kind := call
  engine := Handlers.engine Id call.session
  keys := keys
  program := call.handler env

theorem asked_ask (env : Environment) (keys : Nat → Uuid) (call : Call Id) :
    Asked env (ask env keys call) := ⟨⟨rfl, rfl, rfl, rfl⟩, rfl, rfl⟩

end Calls

def lockedRow : Write → Option (Relation × Uuid)
  | .updateTenant id _ => some (.tenants, id)
  | .updateUser id _ => some (.users, id)
  | .updateRole row => some (.roles, row.id)
  | .deleteRole row => some (.roles, row.id)
  | .deleteRolePermission row => some (.rolePermissions, row.id)
  | .updateUserRole row => some (.userRoles, row.id)
  | .deleteUserRole row => some (.userRoles, row.id)
  | .updateOverride row => some (.userPermissionOverrides, row.id)
  | .deleteOverride row => some (.userPermissionOverrides, row.id)
  | .deleteAcl row => some (.resourceAcls, row.id)
  | .deleteRefreshToken id => some (.refreshTokens, id)
  | _ => none

/-- The role whose row a new row locks against removal, or whose removal takes the row. -/
def referencedRole : Write → Option Uuid
  | .insertRolePermission row => some row.roleId
  | .deleteRolePermission row => some row.roleId
  | .insertUserRole row => some row.roleId
  | .updateUserRole row => some row.roleId
  | .deleteUserRole row => some row.roleId
  | _ => none

def removedRole : Write → Option Uuid
  | .deleteRole row => some row.id
  | _ => none

/-- Two statements of which the second waits until the transaction of the first has ended:
on the same row, or on a role and on a row that references it. -/
def waitsFor (stmt held : Write) : Bool :=
  (lockedRow stmt).any (fun row => lockedRow held == some row) ||
    (removedRole stmt).any (fun role => referencedRole held == some role) ||
    (removedRole held).any fun role => referencedRole stmt == some role

end GenericIam.ConcurrentCalls
