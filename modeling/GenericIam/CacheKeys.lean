import GenericIam.Identifiers
import GenericIam.Separator
import GenericIam.Store
import Mathlib.Data.List.Infix
import Mathlib.Tactic.Common

/-! The keys of the three cache families. The service builds them by joining
strings; `textKeys` does the same. `tupleKeys` keeps the components apart, for the
results in which identifiers are opaque. Both obey the laws of `KeyScheme`. -/

namespace GenericIam.CacheKeys
open Database Identifiers

structure CheckAuthzDto (Id : Type) where
  userId : Id
  tenantId : Id
  permission : String
  resourceType : Option String := none
  resourceId : Option String := none
  deriving DecidableEq

structure CheckAclDto (Id : Type) where
  userId : Id
  resourceType : String
  resourceId : String
  permission : String
  deriving DecidableEq

/-- A string that is absent or empty is falsy. -/
def truthy (field : Option String) : Option String := field.filter fun text => text != ""

@[simp] theorem truthy_none : truthy none = none := rfl

theorem truthy_some {text : String} (present : text ≠ "") : truthy (some text) = some text := by
  simp [truthy, Option.filter, present]

theorem truthy_ne {field : Option String} {text : String} (filled : truthy field = some text) :
    text ≠ "" := by
  simpa using (Option.filter_eq_some_iff.mp filled).2

def CheckAuthzDto.resource {Id : Type} (dto : CheckAuthzDto Id) : Option (String × String) :=
  match truthy dto.resourceType, truthy dto.resourceId with
  | some resourceType, some resourceId => some (resourceType, resourceId)
  | _, _ => none

structure KeyScheme (Id Key : Type) where
  perms : (tenantId userId : Id) → Key
  authz : CheckAuthzDto Id → Key
  acl : (tenantId : Id) → CheckAclDto Id → Key
  authzDecision : (tenantId userId : Id) → (permission resourceType resourceId : String) → Key
  permsOfTenant : (tenantId : Id) → Key → Bool
  authzOfTenant : (tenantId : Id) → Key → Bool
  authzOfUser : (tenantId userId : Id) → Key → Bool
  perms_inj : ∀ {t u t' u'}, perms t u = perms t' u' → t = t' ∧ u = u'
  authz_ids : ∀ {d d'}, authz d = authz d' → d.tenantId = d'.tenantId ∧ d.userId = d'.userId
  acl_ids : ∀ {t t' d d'}, acl t d = acl t' d' → t = t' ∧ d.userId = d'.userId
  perms_ne_authz : ∀ {t u d}, perms t u ≠ authz d
  perms_ne_acl : ∀ {t u t' d}, perms t u ≠ acl t' d
  authz_ne_acl : ∀ {d t d'}, authz d ≠ acl t d'
  authzDecision_eq : ∀ {t u permission resourceType resourceId}, resourceType ≠ "" → resourceId ≠ "" →
    authzDecision t u permission resourceType resourceId =
      authz ⟨u, t, permission, some resourceType, some resourceId⟩
  permsOfTenant_perms : ∀ {t t' u}, permsOfTenant t (perms t' u) = true ↔ t' = t
  permsOfTenant_authz : ∀ {t d}, permsOfTenant t (authz d) = false
  permsOfTenant_acl : ∀ {t t' d}, permsOfTenant t (acl t' d) = false
  authzOfTenant_perms : ∀ {t t' u}, authzOfTenant t (perms t' u) = false
  authzOfTenant_authz : ∀ {t d}, authzOfTenant t (authz d) = true ↔ d.tenantId = t
  authzOfTenant_acl : ∀ {t t' d}, authzOfTenant t (acl t' d) = false
  authzOfUser_perms : ∀ {t u t' u'}, authzOfUser t u (perms t' u') = false
  authzOfUser_authz : ∀ {t u d}, authzOfUser t u (authz d) = true ↔ d.tenantId = t ∧ d.userId = u
  authzOfUser_acl : ∀ {t u t' d}, authzOfUser t u (acl t' d) = false

/-! Components kept apart. -/

inductive CacheKey where
  | perms (tenantId userId : Uuid)
  | authz (tenantId userId : Uuid) (permission : String) (resourceType resourceId : Option String)
  | acl (tenantId userId : Uuid) (resourceType resourceId permission : String)
  deriving DecidableEq

/-- Identifiers are opaque here, so the filler for an absent resource field is not
one of them. -/
def tupleKeys : KeyScheme Uuid CacheKey where
  perms := .perms
  authz dto :=
    .authz dto.tenantId dto.userId dto.permission (truthy dto.resourceType) (truthy dto.resourceId)
  acl tenantId dto := .acl tenantId dto.userId dto.resourceType dto.resourceId dto.permission
  authzDecision tenantId userId permission resourceType resourceId :=
    .authz tenantId userId permission (some resourceType) (some resourceId)
  permsOfTenant tenantId
    | .perms t _ => t == tenantId
    | _ => false
  authzOfTenant tenantId
    | .authz t _ _ _ _ => t == tenantId
    | _ => false
  authzOfUser tenantId userId
    | .authz t u _ _ _ => t == tenantId && u == userId
    | _ => false
  perms_inj same := by cases same; exact ⟨rfl, rfl⟩
  authz_ids same := by injection same with tenant user; exact ⟨tenant, user⟩
  acl_ids same := by injection same with tenant user; exact ⟨tenant, user⟩
  perms_ne_authz := by simp
  perms_ne_acl := by simp
  authz_ne_acl := by simp
  authzDecision_eq type id := by rw [truthy_some type, truthy_some id]
  permsOfTenant_perms := by simp
  permsOfTenant_authz := rfl
  permsOfTenant_acl := rfl
  authzOfTenant_perms := rfl
  authzOfTenant_authz := by simp
  authzOfTenant_acl := rfl
  authzOfUser_perms := rfl
  authzOfUser_authz := by simp
  authzOfUser_acl := rfl

/-! Components joined with `:`. -/

/-- Redis glob matching. Only `*` and `?` are special here: the patterns of the
service hold no bracket and no backslash. -/
def globMatch : List Char → List Char → Bool
  | [], text => text.isEmpty
  | '*' :: pattern, text => text.tails.any fun rest => globMatch pattern rest
  | '?' :: pattern, text => !text.isEmpty && globMatch pattern text.tail
  | letter :: pattern, text => text.head? == some letter && globMatch pattern text.tail

theorem globMatch_star (text : List Char) : globMatch ['*'] text = true := by
  simp only [globMatch, List.any_eq_true, List.mem_tails]
  exact ⟨[], List.nil_suffix, rfl⟩

/-- A literal text with a star behind it matches exactly its extensions. -/
theorem globMatch_prefix {pattern : List Char}
    (literal : ∀ letter ∈ pattern, letter ≠ '*' ∧ letter ≠ '?') (text : List Char) :
    globMatch (pattern ++ ['*']) text = true ↔ pattern <+: text := by
  induction pattern generalizing text with
  | nil => simp [globMatch_star]
  | cons letter pattern ih =>
    have plain := literal letter List.mem_cons_self
    have rest := ih fun other member => literal other (List.mem_cons_of_mem _ member)
    rw [List.cons_append, globMatch, Bool.and_eq_true, rest]
    · cases text with
      | nil => simp
      | cons first text =>
        simp only [List.head?_cons, beq_iff_eq, Option.some.injEq, List.tail_cons,
          List.cons_prefix_cons]
        exact and_congr_left fun _ => eq_comm
    · exact plain.1
    · exact plain.2

def orStar (field : Option String) : String := (truthy field).getD "*"

def permsKey (tenantId userId : UuidText) : String := "perms:" ++ tenantId.text ++ ":" ++ userId.text

def authzKey (dto : CheckAuthzDto UuidText) : String :=
  "authz:" ++ dto.tenantId.text ++ ":" ++ dto.userId.text ++ ":" ++ dto.permission ++ ":" ++
    orStar dto.resourceType ++ ":" ++ orStar dto.resourceId

def aclKey (tenantId : UuidText) (dto : CheckAclDto UuidText) : String :=
  "acl:" ++ tenantId.text ++ ":" ++ dto.userId.text ++ ":" ++ dto.resourceType ++ ":" ++
    dto.resourceId ++ ":" ++ dto.permission

def authzDecisionKey (tenantId userId : UuidText)
    (permission resourceType resourceId : String) : String :=
  "authz:" ++ tenantId.text ++ ":" ++ userId.text ++ ":" ++ permission ++ ":" ++ resourceType ++ ":" ++
    resourceId

def scanMatches (pattern key : String) : Bool := globMatch pattern.toList key.toList

theorem toList_colon : ":".toList = [':'] := rfl

theorem toList_colon_star : ":*".toList = [':'] ++ ['*'] := rfl

theorem permsKey_toList (t u : UuidText) :
    (permsKey t u).toList = "perms:".toList ++ (t.text.toList ++ ':' :: u.text.toList) := by
  delta permsKey
  simp only [String.toList_append, toList_colon, List.append_assoc, List.cons_append, List.nil_append]

theorem authzKey_toList (dto : CheckAuthzDto UuidText) :
    (authzKey dto).toList = "authz:".toList ++ (dto.tenantId.text.toList ++ ':' ::
      (dto.userId.text.toList ++ ':' :: (dto.permission.toList ++ ':' ::
        ((orStar dto.resourceType).toList ++ ':' :: (orStar dto.resourceId).toList)))) := by
  delta authzKey
  simp only [String.toList_append, toList_colon, List.append_assoc, List.cons_append, List.nil_append]

theorem aclKey_toList (t : UuidText) (dto : CheckAclDto UuidText) :
    (aclKey t dto).toList = "acl:".toList ++ (t.text.toList ++ ':' ::
      (dto.userId.text.toList ++ ':' :: (dto.resourceType.toList ++ ':' ::
        (dto.resourceId.toList ++ ':' :: dto.permission.toList)))) := by
  delta aclKey
  simp only [String.toList_append, toList_colon, List.append_assoc, List.cons_append, List.nil_append]

/-- Two identifiers in front of the rest of a key can be read back. -/
theorem ids_inj {t u t' u' : UuidText} {family rest rest' : List Char}
    (same : family ++ (t.text.toList ++ ':' :: (u.text.toList ++ ':' :: rest)) =
      family ++ (t'.text.toList ++ ':' :: (u'.text.toList ++ ':' :: rest'))) :
    t = t' ∧ u = u' ∧ rest = rest' := by
  obtain ⟨tenants, tail⟩ := Separator.head_inj t.colon_free t'.colon_free (List.append_cancel_left same)
  obtain ⟨users, rests⟩ := Separator.head_inj u.colon_free u'.colon_free tail
  exact ⟨UuidText.eq_of_text_eq (String.toList_inj.mp tenants),
    UuidText.eq_of_text_eq (String.toList_inj.mp users), rests⟩

def permsOfTenantPattern (tenantId : UuidText) : String := "perms:" ++ tenantId.text ++ ":*"
def authzOfTenantPattern (tenantId : UuidText) : String := "authz:" ++ tenantId.text ++ ":*"
def authzOfUserPattern (tenantId userId : UuidText) : String :=
  "authz:" ++ tenantId.text ++ ":" ++ userId.text ++ ":*"

def Literal (text : List Char) : Prop := ∀ letter ∈ text, letter ≠ '*' ∧ letter ≠ '?'

theorem literal_of_all {text : List Char}
    (checked : (text.all fun letter => letter != '*' && letter != '?') = true) : Literal text := by
  intro letter member
  simpa using List.all_eq_true.mp checked letter member

theorem uuid_literal (id : UuidText) : Literal id.text.toList := by
  intro letter member
  constructor
  · intro same
    obtain rfl := same
    exact id.not_mem (by decide) (by decide) member
  · intro same
    obtain rfl := same
    exact id.not_mem (by decide) (by decide) member

theorem Literal.append {first second : List Char} (left : Literal first) (right : Literal second) :
    Literal (first ++ second) := by
  intro letter member
  rcases List.mem_append.mp member with early | late
  · exact left letter early
  · exact right letter late

/-- A tenant pattern reaches the keys that start with its family and tenant. -/
theorem scan_tenant {family : List Char} (plain : Literal family) {pattern : String} {t : UuidText}
    (shape : pattern.toList = family ++ (t.text.toList ++ [':']) ++ ['*']) (key : String) :
    scanMatches pattern key = true ↔ ∃ rest, family ++ (t.text.toList ++ ':' :: rest) = key.toList := by
  rw [scanMatches, shape, globMatch_prefix (plain.append ((uuid_literal t).append (by simp [Literal])))]
  constructor
  · intro holds
    obtain ⟨rest, same⟩ := holds
    exact ⟨rest, by rw [← same]; simp⟩
  · intro holds
    obtain ⟨rest, same⟩ := holds
    exact ⟨rest, by rw [← same]; simp⟩

theorem scan_user {family : List Char} (plain : Literal family) {pattern : String} {t u : UuidText}
    (shape : pattern.toList = family ++ (t.text.toList ++ ':' :: (u.text.toList ++ [':'])) ++ ['*'])
    (key : String) : scanMatches pattern key = true ↔
      ∃ rest, family ++ (t.text.toList ++ ':' :: (u.text.toList ++ ':' :: rest)) = key.toList := by
  have separator : Literal [':'] := by simp [Literal]
  have literal : Literal (family ++ (t.text.toList ++ ':' :: (u.text.toList ++ [':']))) :=
    plain.append
      ((uuid_literal t).append (Literal.append separator ((uuid_literal u).append separator)))
  rw [scanMatches, shape, globMatch_prefix literal]
  constructor
  · intro holds
    obtain ⟨rest, same⟩ := holds
    exact ⟨rest, by rw [← same]; simp⟩
  · intro holds
    obtain ⟨rest, same⟩ := holds
    exact ⟨rest, by rw [← same]; simp⟩

/-- Keys of different families differ in one of their first two letters. -/
theorem family_ne {first second left right : List Char}
    (differ : first.take 2 ≠ second.take 2) (long : 2 ≤ first.length) (long' : 2 ≤ second.length) :
    first ++ left ≠ second ++ right := by
  intro same
  have heads := congrArg (List.take 2) same
  rw [List.take_append_of_le_length long, List.take_append_of_le_length long'] at heads
  exact differ heads

theorem perms_family_ne_authz {left right : List Char} :
    "perms:".toList ++ left ≠ "authz:".toList ++ right :=
  family_ne (by decide) (by decide) (by decide)

theorem perms_family_ne_acl {left right : List Char} :
    "perms:".toList ++ left ≠ "acl:".toList ++ right :=
  family_ne (by decide) (by decide) (by decide)

theorem authz_family_ne_acl {left right : List Char} :
    "authz:".toList ++ left ≠ "acl:".toList ++ right :=
  family_ne (by decide) (by decide) (by decide)

theorem permsOfTenant_iff (t : UuidText) (key : String) :
    scanMatches (permsOfTenantPattern t) key = true ↔
      ∃ rest, "perms:".toList ++ (t.text.toList ++ ':' :: rest) = key.toList :=
  scan_tenant (literal_of_all rfl)
    (by simp only [permsOfTenantPattern, String.toList_append, toList_colon_star, List.append_assoc]) key

theorem authzOfTenant_iff (t : UuidText) (key : String) :
    scanMatches (authzOfTenantPattern t) key = true ↔
      ∃ rest, "authz:".toList ++ (t.text.toList ++ ':' :: rest) = key.toList :=
  scan_tenant (literal_of_all rfl)
    (by simp only [authzOfTenantPattern, String.toList_append, toList_colon_star, List.append_assoc]) key

theorem authzOfUser_iff (t u : UuidText) (key : String) :
    scanMatches (authzOfUserPattern t u) key = true ↔
      ∃ rest, "authz:".toList ++
        (t.text.toList ++ ':' :: (u.text.toList ++ ':' :: rest)) = key.toList :=
  scan_user (literal_of_all rfl)
    (by simp only [authzOfUserPattern, String.toList_append, toList_colon, toList_colon_star,
    List.append_assoc,
    List.cons_append, List.nil_append]) key

theorem tenant_of_head {family rest rest' : List Char} {t t' : UuidText}
    (same : family ++ (t.text.toList ++ ':' :: rest) = family ++ (t'.text.toList ++ ':' :: rest')) :
    t = t' :=
  UuidText.eq_of_text_eq (String.toList_inj.mp
    (Separator.head_inj t.colon_free t'.colon_free (List.append_cancel_left same)).1)

def textKeys : KeyScheme UuidText String where
  perms := permsKey
  authz := authzKey
  acl := aclKey
  authzDecision := authzDecisionKey
  permsOfTenant tenantId := scanMatches (permsOfTenantPattern tenantId)
  authzOfTenant tenantId := scanMatches (authzOfTenantPattern tenantId)
  authzOfUser tenantId userId := scanMatches (authzOfUserPattern tenantId userId)
  perms_inj := by
    intro t u t' u' same
    have lists := congrArg String.toList same
    rw [permsKey_toList, permsKey_toList] at lists
    obtain ⟨tenants, users⟩ :=
      Separator.head_inj t.colon_free t'.colon_free (List.append_cancel_left lists)
    exact ⟨UuidText.eq_of_text_eq (String.toList_inj.mp tenants),
      UuidText.eq_of_text_eq (String.toList_inj.mp users)⟩
  authz_ids := by
    intro d d' same
    have lists := congrArg String.toList same
    rw [authzKey_toList, authzKey_toList] at lists
    obtain ⟨tenants, users, _⟩ := ids_inj lists
    exact ⟨tenants, users⟩
  acl_ids := by
    intro t t' d d' same
    have lists := congrArg String.toList same
    rw [aclKey_toList, aclKey_toList] at lists
    obtain ⟨tenants, users, _⟩ := ids_inj lists
    exact ⟨tenants, users⟩
  perms_ne_authz := by
    intro t u d same
    have lists := congrArg String.toList same
    rw [permsKey_toList, authzKey_toList] at lists
    exact perms_family_ne_authz lists
  perms_ne_acl := by
    intro t u t' d same
    have lists := congrArg String.toList same
    rw [permsKey_toList, aclKey_toList] at lists
    exact perms_family_ne_acl lists
  authz_ne_acl := by
    intro d t d' same
    have lists := congrArg String.toList same
    rw [authzKey_toList, aclKey_toList] at lists
    exact authz_family_ne_acl lists
  authzDecision_eq := by
    intro t u permission resourceType resourceId type id
    delta authzDecisionKey authzKey
    simp only [orStar, truthy_some type, truthy_some id, Option.getD_some]
  permsOfTenant_perms := by
    intro t t' u
    rw [permsOfTenant_iff, permsKey_toList]
    constructor
    · intro holds
      obtain ⟨rest, same⟩ := holds
      exact (tenant_of_head same).symm
    · intro same
      obtain rfl := same
      exact ⟨_, rfl⟩
  permsOfTenant_authz := by
    intro t d
    rw [← Bool.not_eq_true, permsOfTenant_iff, authzKey_toList]
    intro holds
    obtain ⟨rest, same⟩ := holds
    exact perms_family_ne_authz same
  permsOfTenant_acl := by
    intro t t' d
    rw [← Bool.not_eq_true, permsOfTenant_iff, aclKey_toList]
    intro holds
    obtain ⟨rest, same⟩ := holds
    exact perms_family_ne_acl same
  authzOfTenant_perms := by
    intro t t' u
    rw [← Bool.not_eq_true, authzOfTenant_iff, permsKey_toList]
    intro holds
    obtain ⟨rest, same⟩ := holds
    exact perms_family_ne_authz same.symm
  authzOfTenant_authz := by
    intro t d
    rw [authzOfTenant_iff, authzKey_toList]
    constructor
    · intro holds
      obtain ⟨rest, same⟩ := holds
      exact (tenant_of_head same).symm
    · intro same
      obtain rfl := same
      exact ⟨_, rfl⟩
  authzOfTenant_acl := by
    intro t t' d
    rw [← Bool.not_eq_true, authzOfTenant_iff, aclKey_toList]
    intro holds
    obtain ⟨rest, same⟩ := holds
    exact authz_family_ne_acl same
  authzOfUser_perms := by
    intro t u t' u'
    rw [← Bool.not_eq_true, authzOfUser_iff, permsKey_toList]
    intro holds
    obtain ⟨rest, same⟩ := holds
    exact perms_family_ne_authz same.symm
  authzOfUser_authz := by
    intro t u d
    rw [authzOfUser_iff, authzKey_toList]
    constructor
    · intro holds
      obtain ⟨rest, same⟩ := holds
      obtain ⟨tenants, users, _⟩ := ids_inj same
      exact ⟨tenants.symm, users.symm⟩
    · intro holds
      obtain ⟨rfl, rfl⟩ := holds
      exact ⟨_, rfl⟩
  authzOfUser_acl := by
    intro t u t' d
    rw [← Bool.not_eq_true, authzOfUser_iff, aclKey_toList]
    intro holds
    obtain ⟨rest, same⟩ := holds
    exact authz_family_ne_acl same

end GenericIam.CacheKeys
