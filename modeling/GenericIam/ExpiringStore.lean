import GenericIam.Store
import Mathlib.Tactic.Common

/-! Partial maps whose entries expire, and how old the source of a value that is
read from one can be. -/

namespace GenericIam

abbrev ExpiringStore (Key Value : Type) := Store Key (Value × Nat)

namespace ExpiringStore

variable {Key Value : Type}

def live (store : ExpiringStore Key Value) (now : Nat) : Store Key Value :=
  fun key => ((store key).filter fun entry => now ≤ entry.2).map Prod.fst

def putFor [DecidableEq Key] (store : ExpiringStore Key Value) (key : Key) (value : Value)
    (now lifetime : Nat) :
    ExpiringStore Key Value :=
  store.put key (value, now + lifetime)

/-- What an entry holds goes back to its sources at an instant at most `age` before the
entry expires. -/
def Aged (sources : Nat → Key → Value → Prop) (age : Key → Nat)
    (store : ExpiringStore Key Value) : Prop :=
  Store.Coherent (fun key entry => ∃ since, sources since key entry.1 ∧ entry.2 ≤ since + age key) store

theorem live_some {store : ExpiringStore Key Value} {now : Nat} {key : Key} {value : Value} :
    store.live now key = some value ↔ ∃ expiry, store key = some (value, expiry) ∧ now ≤ expiry := by
  simp only [live, Option.map_eq_some_iff, Option.filter_eq_some_iff, decide_eq_true_eq]
  constructor
  · intro held
    obtain ⟨⟨_, expiry⟩, ⟨stored, alive⟩, rfl⟩ := held
    exact ⟨expiry, stored, alive⟩
  · intro held
    obtain ⟨expiry, stored, alive⟩ := held
    exact ⟨(value, expiry), ⟨stored, alive⟩, rfl⟩

section Ages
variable {sources later : Nat → Key → Value → Prop} {age : Key → Nat} {store : ExpiringStore Key Value}

theorem aged_empty : Aged sources age Store.empty := Store.coherent_empty _

/-- A value that is read goes back to its sources at most `age` before the reading. -/
theorem Aged.read (aged : Aged sources age store) {now : Nat} {key : Key} {value : Value}
    (held : store.live now key = some value) :
    ∃ since, sources since key value ∧ now ≤ since + age key := by
  obtain ⟨expiry, stored, alive⟩ := live_some.mp held
  obtain ⟨since, sourced, bound⟩ := aged key (value, expiry) stored
  exact ⟨since, sourced, Nat.le_trans alive bound⟩

/-- A value may be on its way for a while before it is stored: both add up. -/
theorem Aged.putFor [DecidableEq Key] (aged : Aged sources age store) {key : Key} {value : Value}
    {now lifetime since : Nat} (sourced : sources since key value)
    (bound : now + lifetime ≤ since + age key) :
    Aged sources age (store.putFor key value now lifetime) :=
  Store.Coherent.put aged ⟨since, sourced, bound⟩

theorem Aged.removeWhere (aged : Aged sources age store) (gone : Key → Bool) :
    Aged sources age (store.removeWhere gone) :=
  Store.Coherent.removeWhere aged fun _ _ _ sourced => sourced

theorem Aged.mono (aged : Aged sources age store)
    (weaker : ∀ since key value, sources since key value → later since key value) :
    Aged later age store := by
  intro key entry stored
  obtain ⟨since, sourced, bound⟩ := aged key entry stored
  exact ⟨since, weaker since key entry.1 sourced, bound⟩

end Ages

end ExpiringStore
end GenericIam
