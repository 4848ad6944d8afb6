import GenericIam.Guards

/-! The permission guard of the service and the one of the SDK: the same chain of ways
past the required permissions, written down twice. -/

namespace GenericIam.PermissionGuards
open Handlers Guards

structure Metadata where
  isPublic : Option Bool := none
  permissions : Option (List String) := none
  allowSelf : Option String := none

structure Context where
  handler : Metadata := {}
  class_ : Metadata := {}

def Context.getAllAndOverride {Value : Type} (context : Context)
    (entry : Metadata → Option Value) : Option Value :=
  (entry context.handler).or (entry context.class_)

structure Request where
  user : Option (JwtPayload String) := none
  params : Option (List (String × String)) := none

def Request.param (request : Request) (name : String) : Option String :=
  request.params.bind fun params => params.lookup name

def isSelf (context : Context) (request : Request) (user : JwtPayload String) : Bool :=
  match context.getAllAndOverride Metadata.allowSelf with
  | none => false
  | some selfParam => selfParam ≠ "" && match request.param selfParam with
    | none => false
    | some targetId => targetId ≠ "" && targetId == user.sub

abbrev Oracle := Option String → String → String → Bool

namespace Service

def checkBatch (allowed : Oracle) (user : JwtPayload String)
    (requiredPermissions : List String) : List Bool :=
  requiredPermissions.map fun perm => allowed user.tenantId user.sub perm

def canActivate (allowed : Oracle) (context : Context) (request : Request) :
    Except HttpException Bool :=
  if (context.getAllAndOverride Metadata.isPublic).getD false then .ok true
  else match context.getAllAndOverride Metadata.permissions with
    | none | some [] => .ok true
    | some requiredPermissions => match request.user with
      | none => .error (.forbidden "Authentication required")
      | some user =>
          if user.identityType = .SUPER_ADMIN then .ok true
          else if isSelf context request user then .ok true
          else if (checkBatch allowed user requiredPermissions).all id then .ok true
          else .error (.forbidden "Insufficient permissions")

end Service

namespace Sdk

def checkEach (allowed : Oracle) (user : JwtPayload String) : List String → Except HttpException Bool
  | [] => .ok true
  | perm :: rest =>
      if allowed user.tenantId user.sub perm then checkEach allowed user rest
      else .error (.forbidden "Insufficient permissions")

def canActivate (allowed : Oracle) (context : Context) (request : Request) :
    Except HttpException Bool :=
  match context.getAllAndOverride Metadata.permissions with
  | none | some [] => .ok true
  | some requiredPermissions => match request.user with
    | none => .error (.forbidden "Authentication required")
    | some user =>
        if user.identityType = .SUPER_ADMIN then .ok true
        else if isSelf context request user then .ok true
        else checkEach allowed user requiredPermissions

end Sdk

section Agreement
variable {allowed : Oracle} {context : Context} {request : Request}

theorem checkEach_eq (allowed : Oracle) (user : JwtPayload String) (requiredPermissions : List String) :
    Sdk.checkEach allowed user requiredPermissions =
      if (Service.checkBatch allowed user requiredPermissions).all id then .ok true
        else .error (.forbidden "Insufficient permissions") := by
  induction requiredPermissions with
  | nil => rfl
  | cons perm rest ih =>
    rw [Sdk.checkEach, ih]
    by_cases granted : allowed user.tenantId user.sub perm = true <;> simp [Service.checkBatch, granted]

def Context.IsPublic (context : Context) : Prop :=
  context.getAllAndOverride Metadata.isPublic = some true

/-- Off public routes the two guards answer alike, down to the errors. -/
theorem canActivate_eq (route : ¬context.IsPublic) :
    Service.canActivate allowed context request = Sdk.canActivate allowed context request := by
  have not_public : (context.getAllAndOverride Metadata.isPublic).getD false = false := by
    unfold Context.IsPublic at route
    cases found : context.getAllAndOverride Metadata.isPublic with
    | none => rfl
    | some isPublic =>
      rw [found] at route
      simpa using route
  unfold Service.canActivate Sdk.canActivate
  simp only [not_public, Bool.false_eq_true, if_false, checkEach_eq]

/-- What lets a request past the permissions of a route: no permission is required, or the
user is a super admin, the one the route is about, or holds them all. -/
def Passes (allowed : Oracle) (context : Context) (request : Request) : Prop :=
  ∀ requiredPermissions, context.getAllAndOverride Metadata.permissions = some requiredPermissions →
    requiredPermissions ≠ [] →
    ∃ user, request.user = some user ∧
      (user.identityType = .SUPER_ADMIN ∨ isSelf context request user = true ∨
      ∀ perm ∈ requiredPermissions, allowed user.tenantId user.sub perm = true)

theorem sdk_admits_iff :
    Sdk.canActivate allowed context request = .ok true ↔ Passes allowed context request := by
  unfold Sdk.canActivate Passes
  split
  next missing => simp [missing]
  next none_required => simp [none_required]
  next requiredPermissions some_required found =>
    simp only [found, Option.some.injEq, forall_eq']
    rw [forall_prop_of_true fun empty => some_required empty]
    cases sent : request.user with
    | none => simp
    | some user =>
      simp only [Option.some.injEq, exists_eq_left']
      by_cases admin : user.identityType = .SUPER_ADMIN
      · simp [admin]
      · by_cases self : isSelf context request user = true
        · simp [self]
        · simp [admin, self, checkEach_eq, Service.checkBatch]

/-- The guards admit the same requests exactly when no public route asks for permissions of
a request that does not pass them. -/
theorem same_admission_iff (allowed : Oracle) (context : Context) (request : Request) :
    (Service.canActivate allowed context request = .ok true ↔
      Sdk.canActivate allowed context request = .ok true) ↔
      (context.IsPublic → Passes allowed context request) := by
  by_cases route : context.IsPublic
  · have admitted : Service.canActivate allowed context request = .ok true := by
      have shown : context.getAllAndOverride Metadata.isPublic = some true := route
      simp [Service.canActivate, shown]
    simp only [admitted, true_iff, sdk_admits_iff, route, forall_true_left]
  · simp only [canActivate_eq route, route, false_implies]

/-- A public handler in a class that requires a permission, and a request without a user. -/
def publicHandler : Context where
  handler := { isPublic := some true }
  class_ := { permissions := some ["user.read"] }

theorem public_route_refused : ¬(Service.canActivate (fun _ _ _ => false) publicHandler {} = .ok true ↔
    Sdk.canActivate (fun _ _ _ => false) publicHandler {} = .ok true) := by
  intro same
  have admitted : Service.canActivate (fun _ _ _ => false) publicHandler {} = .ok true := rfl
  exact absurd (same.mp admitted) (by simp [Sdk.canActivate, publicHandler, Context.getAllAndOverride])

/-- The guard as the routes of the service use it. -/
theorem canActivate_route (allowed : Oracle) (requiredPermissions : List String)
    (user : JwtPayload String) (params : Option (List (String × String))) :
    Service.canActivate allowed { handler := { permissions := some requiredPermissions } }
      { user := some user, params } =
      if requiredPermissions = [] then .ok true
      else (iamPermissionGuard (allowed user.tenantId user.sub) requiredPermissions user).map fun _ =>
        true := by
  cases requiredPermissions with
  | nil => rfl
  | cons perm rest =>
    by_cases admin : user.identityType = .SUPER_ADMIN
    · simp [Service.canActivate, iamPermissionGuard, Context.getAllAndOverride, admin, Except.map]
    · have batch : (Service.checkBatch allowed user (perm :: rest)).all id =
        (perm :: rest).all (allowed user.tenantId user.sub) := by
        rw [Service.checkBatch, List.all_map]
        rfl
      cases held : (perm :: rest).all (allowed user.tenantId user.sub) with
      | false =>
        simp [Service.canActivate, iamPermissionGuard, Context.getAllAndOverride, isSelf, admin,
          batch, held, Except.map]
      | true =>
        simp [Service.canActivate, iamPermissionGuard, Context.getAllAndOverride, isSelf, admin,
          batch, held, Except.map]

end Agreement

end GenericIam.PermissionGuards
