import GenericIam.PermissionMatcher

/-! Permission codes as segments joined by dots, and the law of the matcher on them. -/

namespace GenericIam.PermissionCodes
open PermissionMatcher

def joinDots (segments : List String) : String := ".".intercalate segments

structure PermissionCode where
  segments : List String
  some_segment : segments ≠ []
  filled : ∀ segment ∈ segments, segment ≠ ""
  undotted : ∀ segment ∈ segments, '.' ∉ segment.toList

def PermissionCode.text (code : PermissionCode) : String := joinDots code.segments

theorem joinDots_cons_cons (first second : String) (rest : List String) :
    joinDots (first :: second :: rest) = first ++ "." ++ joinDots (second :: rest) :=
  String.intercalate_cons_cons

/-- A segment that is taken into a prefix may as well be joined to the next one. -/
theorem joinDots_append_head (current part : String) (rest : List String) :
    joinDots ((current ++ "." ++ part) :: rest) = joinDots (current :: part :: rest) := by
  cases rest with
  | nil => simp [joinDots]
  | cons next rest => simp only [joinDots_cons_cons, String.append_assoc]

theorem splitDots_joinDots {segments : List String} (some_segment : segments ≠ [])
    (undotted : ∀ segment ∈ segments, '.' ∉ segment.toList) :
    splitDots (joinDots segments) = segments := by
  have pieces : (joinDots segments).toList.splitOn '.' = segments.map String.toList := by
    rw [joinDots, String.toList_intercalate]
    refine List.splitOn_intercalate '.' ?_ (by simpa using some_segment)
    intro letters member
    obtain ⟨segment, listed, rfl⟩ := List.mem_map.mp member
    exact undotted segment listed
  rw [splitDots, pieces, List.map_map]
  simp [Function.comp_def]

theorem joinDots_splitDots (text : String) : joinDots (splitDots text) = text := by
  rw [← String.toList_inj, joinDots, String.toList_intercalate, splitDots, List.map_map]
  have letters : String.toList ∘ String.ofList = id := funext fun _ => String.toList_ofList
  rw [letters, List.map_id]
  exact List.intercalate_splitOn '.'

/-- The wildcards of a prefix that has been read: the ones of all prefixes that end before
the last part. The induction is on the parts still to be read. -/
theorem mem_wildcards {current code : String} (filled : current ≠ "") (parts : List String) :
    code ∈ wildcards current parts ↔
      ∃ k < parts.length, code = joinDots (current :: parts.take k) ++ ".*" := by
  induction parts generalizing current with
  | nil => simp [wildcards]
  | cons part parts ih =>
    have longer : extend current part = current ++ "." ++ part := if_neg filled
    have stays : extend current part ≠ "" := by
      rw [longer]
      intro empty
      have letters := congrArg String.toList empty
      simp at letters
    have here : wildcard current = joinDots [current] ++ ".*" := by simp [wildcard, filled, joinDots]
    rw [wildcards, List.mem_cons, ih stays, longer, here]
    constructor
    · intro holds
      rcases holds with first | ⟨k, within, later⟩
      · exact ⟨0, Nat.zero_lt_succ _, first⟩
      · refine ⟨k + 1, Nat.succ_lt_succ within, ?_⟩
        rw [later, joinDots_append_head, List.take_succ_cons]
    · intro holds
      obtain ⟨k, within, same⟩ := holds
      cases k with
      | zero => exact .inl same
      | succ k =>
        refine .inr ⟨k, Nat.lt_of_succ_lt_succ within, ?_⟩
        rw [same, joinDots_append_head, List.take_succ_cons]

/-- The codes that answer a check of a well-formed code: the code itself, the two global
wildcards, and a wildcard for every proper prefix of its segments. -/
theorem mem_candidates (code : PermissionCode) (held : String) : held ∈ candidates code.text ↔
    held = code.text ∨ held = "*" ∨ held = "*.*" ∨
      ∃ k, 1 ≤ k ∧ k < code.segments.length ∧ held = joinDots (code.segments.take k) ++ ".*" := by
  obtain ⟨segments, some_segment, filled, undotted⟩ := code
  cases segments with
  | nil => exact absurd rfl some_segment
  | cons first rest =>
    have parts : splitDots (joinDots (first :: rest)) = first :: rest :=
      splitDots_joinDots some_segment undotted
    have begun : extend "" first = first := rfl
    simp only [candidates, PermissionCode.text, parts, wildcards, List.mem_cons, begun,
      mem_wildcards (filled first List.mem_cons_self) rest]
    have shifted : (∃ k < rest.length, held = joinDots (first :: rest.take k) ++ ".*") ↔
        ∃ k, 1 ≤ k ∧ k < (first :: rest).length ∧ held = joinDots ((first :: rest).take k) ++ ".*" := by
      constructor
      · intro holds
        obtain ⟨k, within, same⟩ := holds
        exact ⟨k + 1, by omega, Nat.succ_lt_succ within, same⟩
      · intro holds
        obtain ⟨k, positive, within, same⟩ := holds
        obtain ⟨j, rfl⟩ := Nat.exists_eq_succ_of_ne_zero (Nat.ne_of_gt positive)
        exact ⟨j, Nat.lt_of_succ_lt_succ within, same⟩
    have star : wildcard "" = "*" := rfl
    rw [shifted, star]
    tauto

theorem hasPermission_iff_prefix (effectivePermissions : List String) (required : PermissionCode) :
    hasPermission effectivePermissions required.text = true ↔
      required.text ∈ effectivePermissions ∨ "*" ∈ effectivePermissions ∨ "*.*" ∈ effectivePermissions ∨
        ∃ k, 1 ≤ k ∧ k < required.segments.length ∧
          joinDots (required.segments.take k) ++ ".*" ∈ effectivePermissions := by
  rw [hasPermission_iff]
  simp only [mem_candidates]
  constructor
  · intro holds
    obtain ⟨held, member, rfl | rfl | rfl | ⟨k, positive, within, rfl⟩⟩ := holds
    · exact .inl member
    · exact .inr (.inl member)
    · exact .inr (.inr (.inl member))
    · exact .inr (.inr (.inr ⟨k, positive, within, member⟩))
  · intro holds
    rcases holds with exact_ | global | both | ⟨k, positive, within, member⟩
    · exact ⟨_, exact_, .inl rfl⟩
    · exact ⟨_, global, .inr (.inl rfl)⟩
    · exact ⟨_, both, .inr (.inr (.inl rfl))⟩
    · exact ⟨_, member, .inr (.inr (.inr ⟨k, positive, within, rfl⟩))⟩

def claimsRead : PermissionCode := ⟨["expense", "claims", "read"], by decide, by decide, by decide⟩

example : claimsRead.text = "expense.claims.read" := by decide

end GenericIam.PermissionCodes
