import GenericIam.StaleEntries
import Mathlib.Order.Defs.PartialOrder

/-! Who may do what. Roles are assigned to users of tenants, for a time or for good, permissions
are mapped to roles, an override decides for one user before any role does, and single objects
are shared. -/

namespace GenericIam.AccessModel

inductive Verdict where
  | grant
  | deny
  deriving DecidableEq

structure Access (Tenant User Role Permission Object Time : Type) where
  assigned : Store (Tenant × User × Role) (Option Time)
  mapped : Store (Role × Permission) Unit
  overridden : Store (Tenant × User × Permission) Verdict
  shared : Store (Tenant × User × Object) Unit

inductive Command (Tenant User Role Permission Object Time : Type) where
  | assign (at_ : Tenant × User × Role) (expiresAt : Option Time)
  | revoke (at_ : Tenant × User × Role)
  | map (at_ : Role × Permission)
  | unmap (at_ : Role × Permission)
  | override (at_ : Tenant × User × Permission) (verdict : Verdict)
  | lift (at_ : Tenant × User × Permission)
  | share (at_ : Tenant × User × Object)
  | unshare (at_ : Tenant × User × Object)
  | drop (role : Role)
  | purge (now : Time)
  deriving DecidableEq

section
variable {Tenant User Role Permission Object Time : Type} [DecidableEq Tenant] [DecidableEq User]
  [DecidableEq Role]
  [DecidableEq Permission] [DecidableEq Object] [LT Time] [DecidableLT Time]

def gone (now : Time) (expiresAt : Option Time) : Bool :=
  expiresAt.any fun expiresAt => decide (expiresAt < now)

def lasts (now : Time) (expiresAt : Option Time) : Bool :=
  expiresAt.all fun expiresAt => decide (now < expiresAt)

def Command.apply (access : Access Tenant User Role Permission Object Time) :
    Command Tenant User Role Permission Object Time → Access Tenant User Role Permission Object Time
  | .assign at_ expiresAt => { access with assigned := access.assigned.put at_ expiresAt }
  | .revoke at_ =>
    { access with assigned := access.assigned.removeWhere fun other => decide (other = at_) }
  | .map at_ => { access with mapped := access.mapped.put at_ () }
  | .unmap at_ => { access with mapped := access.mapped.removeWhere fun other => decide (other = at_) }
  | .override at_ verdict => { access with overridden := access.overridden.put at_ verdict }
  | .lift at_ =>
    { access with overridden := access.overridden.removeWhere fun other => decide (other = at_) }
  | .share at_ => { access with shared := access.shared.put at_ () }
  | .unshare at_ =>
    { access with shared := access.shared.removeWhere fun other => decide (other = at_) }
  | .drop role => { access with
      assigned := access.assigned.removeWhere fun other => decide (other.2.2 = role)
      mapped := access.mapped.removeWhere fun other => decide (other.1 = role) }
  | .purge now => { access with assigned := access.assigned.sweep (gone now) }

def Access.after (access : Access Tenant User Role Permission Object Time)
    (commands : List (Command Tenant User Role Permission Object Time)) :
    Access Tenant User Role Permission Object Time :=
  commands.foldl Command.apply access

theorem Access.after_append (access : Access Tenant User Role Permission Object Time)
    (first second : List (Command Tenant User Role Permission Object Time)) :
    access.after (first ++ second) = (access.after first).after second := List.foldl_append

omit [DecidableEq Tenant] [DecidableEq User] [DecidableEq Role] [DecidableEq Permission]
    [DecidableEq Object] in
def Access.Permits (access : Access Tenant User Role Permission Object Time) (now : Time)
    (tenant : Tenant) (user : User) (permission : Permission) : Prop :=
  match access.overridden (tenant, user, permission) with
  | some .deny => False
  | some .grant => True
  | none => ∃ role expiresAt, access.assigned (tenant, user, role) = some expiresAt ∧
      lasts now expiresAt = true ∧
      access.mapped (role, permission) = some ()

end

/-! What a command leaves alone. -/

section
variable {Tenant User Role Permission Object Time : Type} [Preorder Time] [DecidableLT Time]
  {now : Time} {tenant : Tenant}
  {user : User} {first second : Access Tenant User Role Permission Object Time}

def Access.Holds (access : Access Tenant User Role Permission Object Time) (tenant : Tenant)
    (user : User) (role : Role) : Prop :=
  (access.assigned (tenant, user, role)).isSome = true

/-- It is about the user, or about a role that the user holds; a purge, if it is about later. -/
def Command.Concerns (access : Access Tenant User Role Permission Object Time) (now : Time)
    (tenant : Tenant) (user : User) :
    Command Tenant User Role Permission Object Time → Prop
  | .assign at_ _ | .revoke at_ => at_.1 = tenant ∧ at_.2.1 = user
  | .map at_ | .unmap at_ => access.Holds tenant user at_.1
  | .override at_ _ | .lift at_ => at_.1 = tenant ∧ at_.2.1 = user
  | .share at_ | .unshare at_ => at_.1 = tenant ∧ at_.2.1 = user
  | .drop role => access.Holds tenant user role
  | .purge time => now < time

/-- The second state is the first one as far as the user can tell now, whose roles are among
those held at first. -/
structure SameFor (now : Time) (tenant : Tenant) (user : User)
    (first second : Access Tenant User Role Permission Object Time) :
    Prop where
  assigned : ∀ role expiresAt, lasts now expiresAt = true →
    (second.assigned (tenant, user, role) = some expiresAt ↔
      first.assigned (tenant, user, role) = some expiresAt)
  mapped : ∀ role permission, first.Holds tenant user role →
    second.mapped (role, permission) = first.mapped (role, permission)
  overridden : ∀ permission,
    second.overridden (tenant, user, permission) = first.overridden (tenant, user, permission)
  shared : ∀ object, second.shared (tenant, user, object) = first.shared (tenant, user, object)

theorem SameFor.refl : SameFor now tenant user first first :=
  ⟨fun _ _ _ => Iff.rfl, fun _ _ _ => rfl, fun _ => rfl, fun _ => rfl⟩

theorem SameFor.permits (same : SameFor now tenant user first second) (permission : Permission) :
    second.Permits now tenant user permission ↔ first.Permits now tenant user permission := by
  unfold Access.Permits
  rw [same.overridden permission]
  cases first.overridden (tenant, user, permission) with
  | some verdict => cases verdict <;> exact Iff.rfl
  | none =>
    refine exists_congr fun role => exists_congr fun expiresAt => ?_
    constructor
    · intro holds
      obtain ⟨assigned, lasting, mapped⟩ := holds
      have held := (same.assigned role expiresAt lasting).mp assigned
      have holds : first.Holds tenant user role := by simp [Access.Holds, held]
      exact ⟨held, lasting, same.mapped role permission holds ▸ mapped⟩
    · intro holds
      obtain ⟨held, lasting, mapped⟩ := holds
      have holds : first.Holds tenant user role := by simp [Access.Holds, held]
      exact ⟨(same.assigned role expiresAt lasting).mpr held, lasting,
        (same.mapped role permission holds).trans mapped⟩

structure Access.Blank (access : Access Tenant User Role Permission Object Time) (tenant : Tenant)
    (user : User) : Prop where
  assigned : ∀ role, access.assigned (tenant, user, role) = none
  overridden : ∀ permission, access.overridden (tenant, user, permission) = none
  shared : ∀ object, access.shared (tenant, user, object) = none

/-- What lasts is gone after a purge only if that was about later. -/
theorem sweep_lasting {store : Store (Tenant × User × Role) (Option Time)} {time : Time}
    (past : ¬now < time) {at_ : Tenant × User × Role} {expiresAt : Option Time}
    (lasting : lasts now expiresAt = true) :
    store.sweep (gone time) at_ = some expiresAt ↔ store at_ = some expiresAt := by
  rw [Store.sweep_some]
  refine and_iff_left ?_
  cases expiresAt with
  | none => rfl
  | some expiresAt =>
    simp only [lasts, Option.all_some, decide_eq_true_eq] at lasting
    simp only [gone, Option.any_some, decide_eq_false_iff_not]
    exact fun ended => past (lt_trans lasting ended)

variable [DecidableEq Tenant] [DecidableEq User] [DecidableEq Role] [DecidableEq Permission]
  [DecidableEq Object]

/-- The first role of a user decides alone. -/
theorem Access.Blank.permits {access : Access Tenant User Role Permission Object Time}
    (blank : access.Blank tenant user) (role : Role) (permission : Permission) :
    ((Command.assign (tenant, user, role) none).apply access).Permits now tenant user permission ↔
      access.mapped (role, permission) = some () := by
  simp only [Access.Permits, Command.apply, blank.overridden permission]
  constructor
  · intro holds
    obtain ⟨other, expiresAt, assigned, _, mapped⟩ := holds
    by_cases same : other = role
    · rw [← same]
      exact mapped
    · have elsewhere : (tenant, user, other) ≠ (tenant, user, role) := by simp [same]
      rw [Store.put_other _ _ elsewhere, blank.assigned other] at assigned
      cases assigned
  · intro mapped
    exact ⟨role, none, Store.put_self _ _ _, rfl, mapped⟩

/-- One command that does not concern the user. -/
theorem SameFor.step (same : SameFor now tenant user first second)
    {command : Command Tenant User Role Permission Object Time}
    (away : ¬command.Concerns first now tenant user) :
    SameFor now tenant user first (command.apply second) := by
  have other : ∀ {Rest : Type} {at_ : Tenant × User × Rest} {rest : Rest},
      ¬(at_.1 = tenant ∧ at_.2.1 = user) → (tenant, user, rest) ≠ at_ := by
    intro Rest at_ rest elsewhere same
    obtain rfl := same
    exact elsewhere ⟨rfl, rfl⟩
  cases command with
  | assign at_ expiresAt =>
    refine ⟨fun role lasting long => ?_, same.mapped, same.overridden, same.shared⟩
    rw [← same.assigned role lasting long]
    simp only [Command.apply, Store.put_other _ _ (other away)]
  | revoke at_ =>
    refine ⟨fun role lasting long => ?_, same.mapped, same.overridden, same.shared⟩
    rw [← same.assigned role lasting long]
    simp [Command.apply, Store.removeWhere, other away]
  | map at_ =>
    refine ⟨same.assigned, fun role permission holds => ?_, same.overridden, same.shared⟩
    have elsewhere : (role, permission) ≠ at_ := by
      intro same
      obtain rfl := same
      exact away holds
    rw [← same.mapped role permission holds]
    simp only [Command.apply, Store.put_other _ _ elsewhere]
  | unmap at_ =>
    refine ⟨same.assigned, fun role permission holds => ?_, same.overridden, same.shared⟩
    have elsewhere : (role, permission) ≠ at_ := by
      intro same
      obtain rfl := same
      exact away holds
    rw [← same.mapped role permission holds]
    simp [Command.apply, Store.removeWhere, elsewhere]
  | override at_ verdict =>
    refine ⟨same.assigned, same.mapped, fun permission => ?_, same.shared⟩
    rw [← same.overridden permission]
    simp only [Command.apply, Store.put_other _ _ (other away)]
  | lift at_ =>
    refine ⟨same.assigned, same.mapped, fun permission => ?_, same.shared⟩
    rw [← same.overridden permission]
    simp [Command.apply, Store.removeWhere, other away]
  | share at_ =>
    refine ⟨same.assigned, same.mapped, same.overridden, fun object => ?_⟩
    rw [← same.shared object]
    simp only [Command.apply, Store.put_other _ _ (other away)]
  | unshare at_ =>
    refine ⟨same.assigned, same.mapped, same.overridden, fun object => ?_⟩
    rw [← same.shared object]
    simp [Command.apply, Store.removeWhere, other away]
  | drop dropped =>
    refine ⟨fun role expiresAt lasting => ?_, fun role permission holds => ?_,
      same.overridden, same.shared⟩
    · rw [← same.assigned role expiresAt lasting]
      simp only [Command.apply, Store.removeWhere_some, decide_eq_false_iff_not]
      refine and_iff_right_of_imp ?_
      intro held same
      obtain rfl := same
      have before := (same.assigned role expiresAt lasting).mp held
      exact away (by simp [Command.Concerns, Access.Holds, before])
    · have elsewhere : role ≠ dropped := by
        intro same
        obtain rfl := same
        exact away holds
      rw [← same.mapped role permission holds]
      simp [Command.apply, Store.removeWhere, elsewhere]
  | purge time =>
    refine ⟨fun role expiresAt lasting => ?_, same.mapped, same.overridden, same.shared⟩
    rw [← same.assigned role expiresAt lasting]
    exact sweep_lasting away lasting

/-- Commands that do not concern the user. -/
theorem sameFor_after {commands : List (Command Tenant User Role Permission Object Time)}
    (away : ∀ command ∈ commands, ¬command.Concerns first now tenant user) :
    SameFor now tenant user first (first.after commands) := by
  have later : ∀ {during}, SameFor now tenant user first during →
      SameFor now tenant user first (Access.after during commands) := by
    induction commands with
    | nil => exact fun same => same
    | cons command rest ih =>
      intro during same
      exact ih (fun other member => away other (List.mem_cons_of_mem _ member))
        (same.step (away command List.mem_cons_self))
  exact later .refl

end
end GenericIam.AccessModel
