import GenericIam.AccountServices

/-! What a request passes before its handler runs: the guards and the choice of the
database role. -/

namespace GenericIam.Guards
open Database Identifiers Handlers

inductive IdentityType where
  | USER
  | SUPER_ADMIN
  | IMPERSONATION
  deriving DecidableEq

def IdentityType.text : IdentityType → String
  | .USER => "USER"
  | .SUPER_ADMIN => "SUPER_ADMIN"
  | .IMPERSONATION => "IMPERSONATION"

structure JwtPayload (Id : Type) where
  sub : Id
  tenantId : Option Id := none
  identityType : IdentityType
  deriving DecidableEq

def identityTypeGuard {Id : Type} (requiredTypes : List IdentityType) (user : JwtPayload Id) :
    Except HttpException Unit :=
  if requiredTypes.isEmpty || requiredTypes.contains user.identityType then .ok ()
  else .error (.forbidden ("Identity type " ++ user.identityType.text ++ " not allowed"))

/-- `IamPermissionGuard` on a route without a self parameter. -/
def iamPermissionGuard {Id : Type} (allowed : String → Bool) (requiredPermissions : List String)
    (user : JwtPayload Id) :
    Except HttpException Unit :=
  if user.identityType = .SUPER_ADMIN || requiredPermissions.all allowed then .ok ()
  else .error (.forbidden "Insufficient permissions")

/-- `TenantTransactionInterceptor`: only a principal with a tenant that is no super
admin is subject to row level security. -/
def sessionOf {Id : Type} [Identifier Id] (user : JwtPayload Id) : Session :=
  match user.tenantId with
  | some tenantId => if user.identityType = .SUPER_ADMIN then .bypassRls
      else .tenantUser (value tenantId)
  | none => .bypassRls

end GenericIam.Guards
