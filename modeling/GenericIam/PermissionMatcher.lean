import GenericIam.Separator
import Mathlib.Data.List.Basic
import Mathlib.Tactic.Common

/-! Hierarchical permission codes and the matcher that the service and the SDK
share. -/

namespace GenericIam.PermissionMatcher

def splitDots (text : String) : List String := (text.toList.splitOn '.').map String.ofList

def wildcard (current : String) : String := if current = "" then "*" else current ++ ".*"

def extend (current part : String) : String := if current = "" then part else current ++ "." ++ part

/-- The loop over the parts: each round tries the wildcard of the prefix read so
far and then takes the next part into the prefix. -/
def matchesWildcard (effectivePermissions : List String) : String → List String → Bool
  | _, [] => false
  | current, part :: parts =>
      if effectivePermissions.contains (wildcard current) then true
      else matchesWildcard effectivePermissions (extend current part) parts

def hasPermission (effectivePermissions : List String) (required : String) : Bool :=
  if effectivePermissions.contains "*.*" then true
  else if matchesWildcard effectivePermissions "" (splitDots required) then true
  else if effectivePermissions.contains required then true
  else false

def wildcards : String → List String → List String
  | _, [] => []
  | current, part :: parts => wildcard current :: wildcards (extend current part) parts

theorem matchesWildcard_iff (effectivePermissions : List String) (current : String)
    (parts : List String) :
    matchesWildcard effectivePermissions current parts = true ↔
      ∃ code ∈ effectivePermissions, code ∈ wildcards current parts := by
  induction parts generalizing current with
  | nil => simp [matchesWildcard, wildcards]
  | cons part parts ih =>
    by_cases found : effectivePermissions.contains (wildcard current) = true
    · simp only [matchesWildcard, if_pos found, true_iff]
      exact ⟨wildcard current, by simpa using found, by simp [wildcards]⟩
    · simp only [matchesWildcard, if_neg found, ih, wildcards, List.mem_cons]
      constructor
      · intro holds
        obtain ⟨code, member, later⟩ := holds
        exact ⟨code, member, .inr later⟩
      · intro holds
        obtain ⟨code, member, rfl | later⟩ := holds
        · exact absurd (by simpa using member) found
        · exact ⟨code, member, later⟩

/-- Every code that answers a check of `required`. -/
def candidates (required : String) : List String :=
  "*.*" :: required :: wildcards "" (splitDots required)

/-- A check succeeds exactly when one of the held codes is among the candidates,
so the held codes act one by one and their order does not matter. -/
theorem hasPermission_iff (effectivePermissions : List String) (required : String) :
    hasPermission effectivePermissions required = true ↔
      ∃ code ∈ effectivePermissions, code ∈ candidates required := by
  simp only [hasPermission, candidates, List.mem_cons, Bool.if_true_left, Bool.or_eq_true,
    decide_eq_true_eq, Bool.if_false_right, Bool.and_true, matchesWildcard_iff, List.contains_iff_mem]
  constructor
  · intro holds
    rcases holds with global | ⟨code, member, matched⟩ | exact_
    · exact ⟨_, global, .inl rfl⟩
    · exact ⟨code, member, .inr (.inr matched)⟩
    · exact ⟨_, exact_, .inr (.inl rfl)⟩
  · intro holds
    obtain ⟨code, member, rfl | rfl | matched⟩ := holds
    · exact .inl member
    · exact .inr (.inr member)
    · exact .inr (.inl ⟨code, member, matched⟩)

/-- `code` alone answers a check of `required`: it is that code or a wildcard
that the matcher tries for it. -/
def covers (code required : String) : Bool := hasPermission [code] required

theorem covers_iff (code required : String) :
    covers code required = true ↔ code ∈ candidates required := by
  simp [covers, hasPermission_iff]

theorem hasPermission_iff_covers (effectivePermissions : List String) (required : String) :
    hasPermission effectivePermissions required = true ↔
      ∃ code ∈ effectivePermissions, covers code required = true := by
  simp only [hasPermission_iff, covers_iff]

theorem hasPermission_eq_false (effectivePermissions : List String) (required : String) :
    hasPermission effectivePermissions required = false ↔
      ∀ code ∈ effectivePermissions, covers code required = false := by
  rw [← Bool.not_eq_true, hasPermission_iff_covers]
  simp

@[simp] theorem hasPermission_nil (required : String) : hasPermission [] required = false := by
  simp [hasPermission_eq_false]

theorem hasPermission_congr {first second : List String} (same : ∀ code, code ∈ first ↔ code ∈ second)
    (required : String) : hasPermission first required = hasPermission second required := by
  rw [Bool.eq_iff_iff, hasPermission_iff, hasPermission_iff]
  simp only [same]

/-- More codes answer more checks. -/
theorem hasPermission_mono {first second : List String} (more : ∀ code ∈ first, code ∈ second)
    {required : String} (held : hasPermission first required = true) :
    hasPermission second required = true := by
  rw [hasPermission_iff] at held ⊢
  obtain ⟨code, member, matched⟩ := held
  exact ⟨code, more code member, matched⟩

theorem covers_self (code : String) : covers code code = true := by
  rw [covers_iff]
  simp [candidates]

def countColons (text : String) : Nat := text.toList.count ':'

theorem countColons_wildcard (current : String) :
    countColons (wildcard current) = countColons current := by
  unfold wildcard countColons
  split
  next empty => simp [empty]
  next => simp [String.toList_append]

theorem countColons_extend (current part : String) :
    countColons (extend current part) = countColons current + countColons part := by
  unfold extend countColons
  split
  next empty => simp [empty]
  next => simp [String.toList_append]

theorem countColons_of_mem_wildcards {current code : String} {parts : List String}
    (member : code ∈ wildcards current parts) :
    countColons code ≤ countColons current + (parts.flatMap String.toList).count ':' := by
  induction parts generalizing current with
  | nil => cases member
  | cons part parts ih =>
    simp only [wildcards, List.mem_cons] at member
    rw [List.flatMap_cons, List.count_append]
    rcases member with first | later
    · rw [first, countColons_wildcard]
      omega
    · have bound := ih later
      rw [countColons_extend] at bound
      have same : countColons part = part.toList.count ':' := rfl
      omega

theorem countColons_splitDots (text : String) :
    ((splitDots text).flatMap String.toList).count ':' = countColons text := by
  have parts : (splitDots text).flatMap String.toList = (text.toList.splitOn '.').flatten := by
    simp [splitDots, List.flatMap_map]
  rw [parts, Separator.count_splitOn (by decide)]
  rfl

/-- The matcher only drops letters from a code or adds a wildcard to it, so a code
with more colons than the required one never answers for it. -/
theorem covers_of_more_colons {code required : String}
    (more : countColons required < countColons code) :
    covers code required = false := by
  rw [← Bool.not_eq_true, covers_iff]
  intro member
  simp only [candidates, List.mem_cons] at member
  rcases member with rfl | rfl | matched
  · exact absurd more (by simp [countColons])
  · exact absurd more (Nat.lt_irrefl _)
  · have bound := countColons_of_mem_wildcards matched
    rw [countColons_splitDots] at bound
    have nothing : countColons "" = 0 := rfl
    omega

example : hasPermission ["expense.*"] "expense.claims.read" = true := by decide
example : hasPermission ["expense.departments"] "expense.departments.read" = false := by decide

end GenericIam.PermissionMatcher
