import Mathlib.Logic.Function.Basic

/-! Partial maps that are filled and invalidated, and what it takes for their
entries to stay valid while the values they stand for change. -/

namespace GenericIam

abbrev Store (Key Value : Type) := Key → Option Value

namespace Store

variable {Key Value : Type}

def empty : Store Key Value := fun _ => none

def put [DecidableEq Key] (store : Store Key Value) (key : Key) (value : Value) : Store Key Value :=
  Function.update store key (some value)

/-- Drops every entry whose key is in the given set; what expiry, single deletes
and pattern deletes have in common. -/
def removeWhere (store : Store Key Value) (gone : Key → Bool) : Store Key Value :=
  fun key => if gone key then none else store key

def Coherent (valid : Key → Value → Prop) (store : Store Key Value) : Prop :=
  ∀ key value, store key = some value → valid key value

@[simp] theorem empty_apply (key : Key) : (empty : Store Key Value) key = none := rfl

theorem put_self [DecidableEq Key] (store : Store Key Value) (key : Key) (value : Value) :
    store.put key value key = some value := Function.update_self ..

theorem put_other [DecidableEq Key] (store : Store Key Value) {key other : Key} (value : Value)
    (differ : other ≠ key) : store.put key value other = store other := Function.update_of_ne differ ..

theorem removeWhere_some {store : Store Key Value} {gone : Key → Bool} {key : Key} {value : Value} :
    store.removeWhere gone key = some value ↔ gone key = false ∧ store key = some value := by
  unfold removeWhere
  cases gone key <;> simp

theorem coherent_empty (valid : Key → Value → Prop) : Coherent valid empty := by
  intro key value held
  cases held

theorem Coherent.put [DecidableEq Key] {valid : Key → Value → Prop} {store : Store Key Value}
    (coherent : Coherent valid store) {key : Key} {value : Value} (fresh : valid key value) :
    Coherent valid (store.put key value) := by
  intro other held present
  by_cases same : other = key
  · subst same
    rw [put_self] at present
    cases present
    exact fresh
  · rw [put_other _ _ same] at present
    exact coherent other held present

/-- After the valid values changed, dropping every key that the change reached
restores coherence. -/
theorem Coherent.removeWhere {valid later : Key → Value → Prop} {store : Store Key Value}
    (coherent : Coherent valid store) {gone : Key → Bool}
    (kept : ∀ key value, gone key = false → valid key value → later key value) :
    Coherent later (store.removeWhere gone) := by
  intro key value present
  obtain ⟨stays, held⟩ := removeWhere_some.mp present
  exact kept key value stays (coherent key value held)

theorem Coherent.mono {valid later : Key → Value → Prop} {store : Store Key Value}
    (coherent : Coherent valid store) (weaker : ∀ key value, valid key value → later key value) :
    Coherent later store :=
  fun key value held => weaker key value (coherent key value held)

theorem removeWhere_removeWhere (store : Store Key Value) (first second : Key → Bool) :
    (store.removeWhere first).removeWhere second = store.removeWhere fun key =>
      first key || second key := by
  funext key
  by_cases early : first key = true
  · simp [removeWhere, early]
  · simp [removeWhere, early]

theorem removeWhere_none (store : Store Key Value) : store.removeWhere (fun _ => false) = store := by
  funext key
  simp [removeWhere]

end Store
end GenericIam
