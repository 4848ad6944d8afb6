import GenericIam.Store
import Mathlib.Order.Nat
import Mathlib.Tactic.Common

/-! Deletes in a store that others read and write meanwhile. A delete by pattern collects the
keys with a cursor, batch by batch, and deletes them together at the end; in between entries
come and go. -/

namespace GenericIam.ScannedDeletes

variable {Key Value : Type}

/-! Moments. -/

/-- A store with a clock and, for each key, the last moment at which it had no entry. -/
structure Timed (Key Value : Type) where
  store : Store Key Value
  clock : Nat
  emptyAt : Key → Option Nat

namespace Timed
variable {timed timed' timed'' : Timed Key Value} {since : Nat} {key : Key}

def start (store : Store Key Value) : Timed Key Value where
  store := store
  clock := 0
  emptyAt key := if (store key).isNone then some 0 else none

def next (timed : Timed Key Value) (store : Store Key Value) : Timed Key Value where
  store := store
  clock := timed.clock + 1
  emptyAt key := if (store key).isNone then some (timed.clock + 1) else timed.emptyAt key

def EmptySince (timed : Timed Key Value) (since : Nat) (key : Key) : Prop :=
  ∃ moment, since ≤ moment ∧ timed.emptyAt key = some moment

structure Later (timed timed' : Timed Key Value) : Prop where
  clock : timed.clock ≤ timed'.clock
  emptied : ∀ {since key}, since ≤ timed.clock → timed.EmptySince since key →
    timed'.EmptySince since key

theorem Later.refl (timed : Timed Key Value) : Later timed timed := ⟨le_rfl, fun _ empty => empty⟩

theorem next_later (timed : Timed Key Value) (store : Store Key Value) :
    timed.Later (timed.next store) where
  clock := Nat.le_succ _
  emptied := by
    intro since key past holds
    obtain ⟨moment, after, known⟩ := holds
    by_cases absent : (store key).isNone
    · exact ⟨timed.clock + 1, past.trans (Nat.le_succ _), by simp only [next, if_pos absent]⟩
    · exact ⟨moment, after, by simp only [next, if_neg absent, known]⟩

theorem emptySince_next {store : Store Key Value} (past : since ≤ timed.clock)
    (absent : store key = none) :
    (timed.next store).EmptySince since key :=
  ⟨timed.clock + 1,
    past.trans (Nat.le_succ _), by simp only [next, absent, Option.isNone_none, if_true]⟩

theorem EmptySince.mono {earlier : Nat} (empty : timed.EmptySince since key)
    (before : earlier ≤ since) :
    timed.EmptySince earlier key := by
  obtain ⟨moment, after, known⟩ := empty
  exact ⟨moment, before.trans after, known⟩

end Timed

/-! Deletes. -/

inductive Deletion (Key : Type) where
  | one (key : Key)
  | matching (pattern : Key → Bool)

def Deletion.reaches [DecidableEq Key] : Deletion Key → Key → Bool
  | .one only, key => key == only
  | .matching pattern, key => pattern key

inductive Stage (Key : Type) where
  | idle
  | scanning (since : Nat) (keys : List Key)
  | collected (keys : List Key)

structure Sweep (Key : Type) where
  began : Nat
  finished : List (Deletion Key) := []
  stage : Stage Key := .idle
  left : List (Deletion Key)

def Sweep.Done (sweep : Sweep Key) : Prop := sweep.left = []

/-- A scan returns keys that match the pattern, any of them and any number of times, and by its
end all those that were there from its beginning to its end. -/
inductive Sweep.Moves [DecidableEq Key] :
    Timed Key Value → Sweep Key → Timed Key Value → Sweep Key → Prop where
  | delete {timed : Timed Key Value} {began : Nat} {finished rest : List (Deletion Key)} (key : Key) :
      Moves timed ⟨began, finished, .idle, .one key :: rest⟩
        (timed.next (timed.store.removeWhere (· == key)))
        ⟨began, finished ++ [.one key], .idle, rest⟩
  | scan {timed : Timed Key Value} {began : Nat} {finished rest : List (Deletion Key)}
      (pattern : Key → Bool) :
      Moves timed ⟨began, finished, .idle, .matching pattern :: rest⟩ timed
        ⟨began, finished, .scanning timed.clock [], .matching pattern :: rest⟩
  | batch {timed : Timed Key Value} {began since : Nat} {finished rest : List (Deletion Key)}
      {pattern : Key → Bool}
      {keys : List Key} (found : List Key) (matches_ : ∀ key ∈ found, pattern key = true) :
      Moves timed ⟨began, finished, .scanning since keys, .matching pattern :: rest⟩ timed
        ⟨began, finished, .scanning since (keys ++ found), .matching pattern :: rest⟩
  | exhausted {timed : Timed Key Value} {began : Nat} {finished rest : List (Deletion Key)}
      {pattern : Key → Bool}
      {keys : List Key} (since : Nat) (complete : ∀ key, pattern key = true →
        ¬timed.EmptySince since key → key ∈ keys) :
      Moves timed ⟨began, finished, .scanning since keys, .matching pattern :: rest⟩ timed
        ⟨began, finished, .collected keys, .matching pattern :: rest⟩
  | deleteAll {timed : Timed Key Value} {began : Nat} {finished rest : List (Deletion Key)}
      {pattern : Key → Bool}
      {keys : List Key} (some_ : keys ≠ []) :
      Moves timed ⟨began, finished, .collected keys, .matching pattern :: rest⟩
        (timed.next (timed.store.removeWhere fun key => decide (key ∈ keys)))
        ⟨began, finished ++ [.matching pattern], .idle, rest⟩
  | deleteNone {timed : Timed Key Value} {began : Nat} {finished rest : List (Deletion Key)}
      {pattern : Key → Bool} :
      Moves timed ⟨began, finished, .collected [], .matching pattern :: rest⟩ timed
        ⟨began, finished ++ [.matching pattern], .idle, rest⟩

/-! What is known of a sweep on its way. -/

section Tracks
variable [DecidableEq Key] {timed timed' : Timed Key Value} {sweep sweep' : Sweep Key}
  {deletions : List (Deletion Key)}

/-- Of what the scan under way is for: the keys found so far match, and once it has ended the
others have been missing. -/
def Stage.Tracks (timed : Timed Key Value) (began : Nat) (left : List (Deletion Key)) : Stage Key → Prop
  | .idle => True
  | .scanning since keys => began ≤ since ∧ since ≤ timed.clock ∧
      ∀ pattern rest, left = .matching pattern :: rest → ∀ key ∈ keys, pattern key = true
  | .collected keys => ∀ pattern rest, left = .matching pattern :: rest →
      ∀ key, (key ∈ keys → pattern key = true) ∧
        (pattern key = true → key ∈ keys ∨ timed.EmptySince began key)

structure Sweep.Tracks (timed : Timed Key Value) (deletions : List (Deletion Key))
    (sweep : Sweep Key) : Prop where
  whole : sweep.finished ++ sweep.left = deletions
  began : sweep.began ≤ timed.clock
  finished : ∀ deletion ∈ sweep.finished, ∀ key, deletion.reaches key = true →
    timed.EmptySince sweep.began key
  stage : sweep.stage.Tracks timed sweep.began sweep.left

theorem Sweep.tracks_start (timed : Timed Key Value) (deletions : List (Deletion Key)) :
    Sweep.Tracks timed deletions { began := timed.clock, left := deletions } where
  whole := rfl
  began := le_rfl
  finished _ member := absurd member List.not_mem_nil
  stage := trivial

omit [DecidableEq Key] in
theorem Stage.Tracks.later {began : Nat} {left : List (Deletion Key)} {stage : Stage Key}
    (tracks : stage.Tracks timed began left) (past : began ≤ timed.clock)
    (later : timed.Later timed') : stage.Tracks timed' began left := by
  cases stage with
  | idle => trivial
  | scanning since keys => exact ⟨tracks.1, tracks.2.1.trans later.clock, tracks.2.2⟩
  | collected keys =>
    intro pattern rest left key
    obtain ⟨matched, missing⟩ := tracks pattern rest left key
    exact ⟨matched, fun reached => (missing reached).imp_right (later.emptied past)⟩

/-- Whatever others do meanwhile. -/
theorem Sweep.Tracks.later (tracks : sweep.Tracks timed deletions) (later : timed.Later timed') :
    sweep.Tracks timed' deletions where
  whole := tracks.whole
  began := tracks.began.trans later.clock
  finished deletion member key reaches :=
    later.emptied tracks.began (tracks.finished deletion member key reaches)
  stage := tracks.stage.later tracks.began later

theorem Sweep.Moves.later (moved : sweep.Moves timed timed' sweep') : timed.Later timed' := by
  cases moved with
  | delete key => exact timed.next_later _
  | deleteAll some_ => exact timed.next_later _
  | scan pattern => exact .refl timed
  | batch found matches_ => exact .refl timed
  | exhausted since complete => exact .refl timed
  | deleteNone => exact .refl timed

/-- One delete more is finished, each key of which has been missing. -/
theorem Sweep.Tracks.finish {deletion : Deletion Key} {began : Nat}
    {finished rest : List (Deletion Key)} {stage : Stage Key}
    (tracks : Sweep.Tracks timed deletions ⟨began, finished, stage, deletion :: rest⟩)
    (later : timed.Later timed')
    (gone : ∀ key, deletion.reaches key = true → timed'.EmptySince began key) :
    Sweep.Tracks timed' deletions ⟨began, finished ++ [deletion], .idle, rest⟩ where
  whole := by
    rw [← tracks.whole]
    simp only [List.append_assoc, List.cons_append, List.nil_append]
  began := tracks.began.trans later.clock
  finished other member key reaches := by
    rcases List.mem_append.mp member with before | last
    · exact later.emptied tracks.began (tracks.finished other before key reaches)
    · rw [List.mem_singleton.mp last] at reaches
      exact gone key reaches
  stage := trivial

theorem Sweep.Moves.tracks (moved : sweep.Moves timed timed' sweep')
    (tracks : sweep.Tracks timed deletions) :
    sweep'.Tracks timed' deletions := by
  have past := tracks.began
  cases moved with
  | delete only =>
    refine tracks.finish (timed.next_later _) fun key reaches => ?_
    rw [Deletion.reaches, beq_iff_eq] at reaches
    exact Timed.emptySince_next past
      (by simp only [reaches, Store.removeWhere, beq_self_eq_true, if_true])
  | scan pattern =>
    exact ⟨tracks.whole, past, tracks.finished, past, le_rfl, fun _ _ _ _ found =>
      absurd found List.not_mem_nil⟩
  | batch found matches_ =>
    obtain ⟨after, before, matched⟩ := tracks.stage
    refine ⟨tracks.whole, past, tracks.finished, after, before, fun pattern rest left key member => ?_⟩
    rcases List.mem_append.mp member with old | new
    · exact matched pattern rest left key old
    · cases left
      exact matches_ key new
  | exhausted since complete =>
    obtain ⟨after, before, matched⟩ := tracks.stage
    refine ⟨tracks.whole, past, tracks.finished, fun pattern rest left key =>
      ⟨matched pattern rest left key, fun reached => ?_⟩⟩
    cases left
    by_cases empty : timed.EmptySince since key
    · exact .inr (empty.mono after)
    · exact .inl (complete key reached empty)
  | deleteAll some_ =>
    refine tracks.finish (timed.next_later _) fun key reaches => ?_
    rcases (tracks.stage _ _ rfl key).2 reaches with found | empty
    · exact Timed.emptySince_next past (by simp only [Store.removeWhere, found, decide_true, if_true])
    · exact (timed.next_later _).emptied past empty
  | deleteNone =>
    refine tracks.finish (.refl timed) fun key reaches => ?_
    exact ((tracks.stage _ _ rfl key).2 reaches).resolve_left List.not_mem_nil

/-- Nothing goes but what one of the deletes reaches. -/
theorem Sweep.Moves.removes (moved : sweep.Moves timed timed' sweep')
    (tracks : sweep.Tracks timed deletions) :
    timed' = timed ∨ ∃ gone, timed' = timed.next (timed.store.removeWhere gone) ∧
      ∀ key, gone key = true → ∃ deletion ∈ deletions, deletion.reaches key = true := by
  have current : ∀ {deletion rest}, sweep.left = deletion :: rest → deletion ∈ deletions := by
    intro deletion rest left
    rw [← tracks.whole, left]
    exact List.mem_append_right _ List.mem_cons_self
  cases moved with
  | delete only => exact .inr ⟨_, rfl, fun key reached => ⟨_, current rfl, reached⟩⟩
  | deleteAll some_ =>
    exact .inr ⟨_, rfl, fun key found =>
      ⟨_, current rfl, (tracks.stage _ _ rfl key).1 (of_decide_eq_true found)⟩⟩
  | scan pattern => exact .inl rfl
  | batch found matches_ => exact .inl rfl
  | exhausted since complete => exact .inl rfl
  | deleteNone => exact .inl rfl

/-- Once all is done, every key that was to be deleted has been missing since the sweep began:
an entry that is there has been written since. -/
theorem Sweep.Tracks.done (tracks : sweep.Tracks timed deletions) (done : sweep.Done)
    {deletion : Deletion Key} (asked : deletion ∈ deletions) {key : Key}
    (reaches : deletion.reaches key = true) : timed.EmptySince sweep.began key := by
  rw [← tracks.whole, done, List.append_nil] at asked
  exact tracks.finished deletion asked key reaches

end Tracks

end GenericIam.ScannedDeletes
