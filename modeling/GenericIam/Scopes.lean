import GenericIam.PermissionMatcher

/-! The scope of a wildcard code, and what the matcher answers for arbitrary texts:
leading, trailing and doubled dots included. -/

namespace GenericIam.Scopes
open PermissionMatcher

def Within (scope required : String) : Prop := (scope ++ ".").toList <+: required.toList

instance (scope required : String) : Decidable (Within scope required) :=
  inferInstanceAs (Decidable (_ <+: _))

def InScope (held : List String) (required : String) : Prop :=
  ∃ scope, scope ++ ".*" ∈ held ∧ Within scope required

def Granted (held : List String) (required : String) : Prop := required ∈ held ∨ InScope held required

def withoutLeadingDots (text : String) : String := String.ofList (text.toList.dropWhile (· = '.'))

theorem splitDots_free {text : List Char} (free : '.' ∉ text) :
    splitDots (String.ofList text) = [String.ofList text] := by
  rw [splitDots, String.toList_ofList, List.splitOn_eq_singleton free, List.map_singleton]

theorem splitDots_cons {first : List Char} (free : '.' ∉ first) (rest : List Char) :
    splitDots (String.ofList (first ++ '.' :: rest)) =
      String.ofList first :: splitDots (String.ofList rest) := by
  rw [splitDots, String.toList_ofList, List.splitOn_append_cons_self_of_not_mem free, List.map_cons]
  simp only [splitDots, String.toList_ofList]

/-- A loop that has read a prefix tries the wildcards of the scopes that go on from it. -/
theorem mem_wildcards_from {current : String} (filled : current ≠ "") (text : List Char)
    (code : String) :
    code ∈ wildcards current (splitDots (String.ofList text)) ↔
      ∃ inner, code = current ++ String.ofList inner ++ ".*" ∧ inner ++ ['.'] <+: '.' :: text := by
  induction text using Separator.split_induction '.' generalizing current with
  | last text free =>
    have here : wildcard current = current ++ String.ofList [] ++ ".*" := by simp [wildcard, filled]
    simp only [splitDots_free free, wildcards, List.mem_singleton, here, Separator.prefix_separator,
      Separator.not_prefix_of_free free]
    simp
  | more first rest free ih =>
    have here : wildcard current = current ++ String.ofList [] ++ ".*" := by simp [wildcard, filled]
    have longer : extend current (String.ofList first) = current ++ "." ++ String.ofList first :=
      if_neg filled
    have stays : extend current (String.ofList first) ≠ "" := by
      rw [longer]
      intro empty
      have letters := congrArg String.toList empty
      simp at letters
    rw [splitDots_cons free, wildcards, List.mem_cons, ih stays, longer, here]
    simp only [Separator.prefix_separator, Separator.prefix_field free]
    constructor
    · intro holds
      rcases holds with now | ⟨inner, later, within⟩
      · exact ⟨[], now, .inl rfl⟩
      · refine ⟨'.' :: (first ++ inner), ?_, .inr ⟨_, rfl, inner, rfl, within⟩⟩
        rw [later]
        simp [String.ext_iff]
    · intro holds
      obtain ⟨inner, later, rfl | ⟨_, rfl, inner, rfl, within⟩⟩ := holds
      · exact .inl later
      · refine .inr ⟨inner, ?_, within⟩
        rw [later]
        simp [String.ext_iff]

/-- The loop starts without a prefix and, an empty prefix being none to it, starts again after
every leading dot. -/
theorem mem_wildcards (text : List Char) (code : String) :
    code ∈ wildcards "" (splitDots (String.ofList text)) ↔
      code = "*" ∨ ∃ scope, code = String.ofList scope ++ ".*" ∧
        scope ++ ['.'] <+: text.dropWhile (· = '.') := by
  have star : wildcard "" = "*" := rfl
  induction text using Separator.split_induction '.' with
  | last text free =>
    have kept : '.' ∉ text.dropWhile (· = '.') := fun member =>
      free ((List.dropWhile_sublist _).subset member)
    simp only [splitDots_free free, wildcards, List.mem_singleton, star,
      Separator.not_prefix_of_free kept]
    simp
  | more first rest free ih =>
    have begun : extend "" (String.ofList first) = String.ofList first := rfl
    rw [splitDots_cons free, wildcards, List.mem_cons, star, begun]
    cases first with
    | nil =>
      have again : String.ofList [] = "" := rfl
      rw [again]
      refine (or_congr_right ih).trans ?_
      simp
    | cons letter first =>
      have filled : String.ofList (letter :: first) ≠ "" := by simp
      have other : letter ≠ '.' := fun same => free (same ▸ List.mem_cons_self)
      have kept : (letter :: first ++ '.' :: rest).dropWhile (· = '.') =
          letter :: first ++ '.' :: rest := by
        simp [other]
      rw [mem_wildcards_from filled, kept]
      simp only [Separator.prefix_field free]
      constructor
      · intro holds
        rcases holds with global | ⟨inner, same, within⟩
        · exact .inl global
        · exact .inr ⟨_, by rw [same, String.ofList_append], inner, rfl, within⟩
      · intro holds
        rcases holds with global | ⟨_, same, inner, rfl, within⟩
        · exact .inl global
        · exact .inr ⟨inner, by rw [same, String.ofList_append], within⟩

/-- The matcher reads the required text without its leading dots; only the exact match at
its end reads the text as it is. -/
theorem hasPermission_iff_scopes (held : List String) (required : String) :
    hasPermission held required = true ↔
      "*.*" ∈ held ∨ "*" ∈ held ∨ required ∈ held ∨ InScope held (withoutLeadingDots required) := by
  have loop : (∃ code ∈ held, code ∈ wildcards "" (splitDots required)) ↔
      "*" ∈ held ∨ InScope held (withoutLeadingDots required) := by
    have text : String.ofList required.toList = required := String.ofList_toList
    rw [← text]
    simp only [mem_wildcards, InScope, Within, withoutLeadingDots, String.toList_ofList,
      String.toList_append]
    constructor
    · intro holds
      obtain ⟨code, member, rfl | ⟨scope, rfl, within⟩⟩ := holds
      · exact .inl member
      · exact .inr ⟨_, member, by simpa using within⟩
    · intro holds
      rcases holds with global | ⟨scope, member, within⟩
      · exact ⟨_, global, .inl rfl⟩
      · exact ⟨_, member, .inr ⟨scope.toList, by rw [String.ofList_toList], within⟩⟩
  have matched := matchesWildcard_iff held "" (splitDots required)
  rw [loop] at matched
  simp only [hasPermission, Bool.if_true_left, Bool.or_eq_true, decide_eq_true_eq,
    Bool.if_false_right, Bool.and_true,
    matched, List.contains_iff_mem]
  tauto

theorem covers_iff_scope (code required : String) : covers code required = true ↔
    code = "*.*" ∨ code = "*" ∨ code = required ∨ ∃ scope, code = scope ++ ".*" ∧
      Within scope (withoutLeadingDots required) := by
  rw [covers, hasPermission_iff_scopes]
  simp only [InScope, List.mem_singleton, @eq_comm _ _ code]

theorem not_dot_cons_of_trimmed {text rest : List Char}
    (trimmed : text.dropWhile (· = '.') = '.' :: rest) : False := by
  induction text with
  | nil => cases trimmed
  | cons letter text ih =>
    by_cases dot : letter = '.'
    · exact ih (by simpa [dot] using trimmed)
    · simp [dot] at trimmed

/-- A scope that is inside another one: what it contains the other one contains too. -/
theorem within_of_wildcard {outer scope required : String}
    (inside : Within scope (withoutLeadingDots required))
    (wider : Within outer (withoutLeadingDots (scope ++ ".*"))) :
    Within outer (withoutLeadingDots required) := by
  simp only [Within, withoutLeadingDots, String.toList_append, String.toList_ofList] at inside wider ⊢
  have begun : ∀ rest, scope.toList ++ ".*".toList ≠ '.' :: rest := by
    intro rest same
    cases letters : scope.toList with
    | nil =>
      rw [letters] at inside
      obtain ⟨more, trimmed⟩ := inside
      exact not_dot_cons_of_trimmed trimmed.symm
    | cons first later =>
      rw [letters] at inside same
      obtain ⟨more, trimmed⟩ := inside
      rw [List.cons_append, List.cons.injEq] at same
      rw [same.1] at trimmed
      exact not_dot_cons_of_trimmed trimmed.symm
  have kept : (scope.toList ++ ".*".toList).dropWhile (· = '.') =
      (scope.toList ++ ".".toList) ++ ['*'] := by
    cases letters : scope.toList ++ ".*".toList with
    | nil => simp at letters
    | cons first rest =>
      have other : first ≠ '.' := fun same => begun rest (by rw [letters, same])
      rw [List.dropWhile_cons_of_neg (by simpa using other), ← letters]
      simp
  rw [kept, List.prefix_concat_iff] at wider
  rcases wider with whole | shorter
  · have ends := congrArg List.getLast? whole
    simp at ends
  · exact shorter.trans inside

theorem covers_trans {first second third : String} (outer : covers first second = true)
    (inner : covers second third = true) :
    covers first third = true := by
  have small : ∀ scope : String, scope.toList ++ ".".toList <+: "*.*".toList → scope = "*" := by
    intro scope within
    have dot : ".".toList = ['.'] := rfl
    have parts : "*.*".toList = ['*'] ++ '.' :: ['*'] := rfl
    rw [dot, parts, Separator.prefix_field (by decide)] at within
    obtain ⟨inner, whole, rest⟩ := within
    rcases (Separator.prefix_separator inner ['*']).mp rest with rfl | ⟨_, -, later⟩
    · rw [← @String.ofList_toList scope, whole]
      rfl
    · exact absurd later (Separator.not_prefix_of_free (by decide) _)
  rw [covers_iff_scope] at outer inner ⊢
  rcases inner with rfl | rfl | rfl | ⟨scope, rfl, inside⟩
  · rcases outer with global | star | same | ⟨wide, rfl, within⟩
    · exact .inl global
    · exact .inr (.inl star)
    · exact .inl same
    · have star : wide = "*" := small wide (by simpa [Within, withoutLeadingDots] using within)
      subst star
      exact .inl rfl
  · rcases outer with global | star | same | ⟨wide, rfl, within⟩
    · exact .inl global
    · exact .inr (.inl star)
    · exact .inr (.inl same)
    · refine absurd ?_ (Separator.not_prefix_of_free (by decide : '.' ∉ ['*']) wide.toList)
      simpa [Within, withoutLeadingDots] using within
  · exact outer
  · rcases outer with global | star | same | ⟨wide, rfl, within⟩
    · exact .inl global
    · exact .inr (.inl star)
    · exact .inr (.inr (.inr ⟨scope, same, inside⟩))
    · exact .inr (.inr (.inr ⟨wide, rfl, within_of_wildcard inside within⟩))

/-- Codes that are permitted themselves permit nothing new. -/
theorem hasPermission_trans {held codes : List String}
    (permitted : ∀ code ∈ codes, hasPermission held code = true) {required : String}
    (allowed : hasPermission codes required = true) : hasPermission held required = true := by
  rw [hasPermission_iff_covers] at allowed ⊢
  obtain ⟨code, member, inner⟩ := allowed
  obtain ⟨wider, holds, outer⟩ := (hasPermission_iff_covers held code).mp (permitted code member)
  exact ⟨wider, holds, covers_trans outer inner⟩

def BeginsWithDot (text : String) : Prop := ∃ rest, text.toList = '.' :: rest

theorem withoutLeadingDots_of_none {text : String} (none_leads : ¬ BeginsWithDot text) :
    withoutLeadingDots text = text := by
  have kept : text.toList.dropWhile (· = '.') = text.toList := by
    cases letters : text.toList with
    | nil => rfl
    | cons first rest =>
      have other : first ≠ '.' := fun same => none_leads ⟨rest, by rw [letters, same]⟩
      simp [other]
  rw [withoutLeadingDots, kept, String.ofList_toList]

/-- A text that does not begin with a dot is answered by its own scopes alone. -/
theorem granted_of_hasPermission {held : List String} {required : String} (no_star : "*" ∉ held)
    (no_global : "*.*" ∉ held) (none_leads : ¬ BeginsWithDot required)
    (allowed : hasPermission held required = true) : Granted held required := by
  rw [hasPermission_iff_scopes, withoutLeadingDots_of_none none_leads] at allowed
  rcases allowed with global | star | exact_ | inside
  · exact absurd global no_global
  · exact absurd star no_star
  · exact .inl exact_
  · exact .inr inside

/-- A held wildcard answers outside its scope only for a text that begins with a dot and
whose rest it does contain. -/
theorem scoped_iff_no_leading_dot (held : List String) (required : String) (no_star : "*" ∉ held)
    (no_global : "*.*" ∉ held) :
    (hasPermission held required = true → Granted held required) ↔
      (BeginsWithDot required → InScope held (withoutLeadingDots required) →
        Granted held required) := by
  constructor
  · intro sound leads inside
    exact sound ((hasPermission_iff_scopes held required).mpr (.inr (.inr (.inr inside))))
  · intro covered allowed
    by_cases leads : BeginsWithDot required
    · rw [hasPermission_iff_scopes] at allowed
      rcases allowed with global | star | exact_ | inside
      · exact absurd global no_global
      · exact absurd star no_star
      · exact .inl exact_
      · exact covered leads inside
    · exact granted_of_hasPermission no_star no_global leads allowed

/-- One wildcard answers for a text outside its scope. -/
theorem leading_dot_leaks : "*" ∉ ["expense.*"] ∧ "*.*" ∉ ["expense.*"] ∧
    hasPermission ["expense.*"] ".expense.read" = true ∧ ¬ Granted ["expense.*"] ".expense.read" := by
  refine ⟨by decide, by decide, by decide, ?_⟩
  intro holds
  rcases holds with member | ⟨scope, member, within⟩
  · simp at member
  · have letters := congrArg String.toList (List.mem_singleton.mp member)
    have same : scope.toList = "expense".toList := (List.append_left_inj _).mp (by simpa using letters)
    rw [Within, String.toList_append, same] at within
    exact absurd within (by decide)

theorem scoped_iff_no_leading_dot_claims :
    (hasPermission ["expense.*", "payroll.read"] "expense..claims." = true →
    Granted ["expense.*", "payroll.read"] "expense..claims.") ↔
      (BeginsWithDot "expense..claims." →
        InScope ["expense.*", "payroll.read"] (withoutLeadingDots "expense..claims.") →
        Granted ["expense.*", "payroll.read"] "expense..claims.") :=
  scoped_iff_no_leading_dot ["expense.*", "payroll.read"] "expense..claims." (by decide) (by decide)

end GenericIam.Scopes
