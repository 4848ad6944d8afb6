import Mathlib.Logic.Relation
import Mathlib.Tactic.Common

/-! Processes that take atomic steps on a shared state in any order, and the rule
for what holds however their steps interleave. -/

namespace GenericIam.Interleaving

/-- `spawns` says which processes may start, `moves` what one atomic step of a
process does, `disturbs` what may happen to the shared state between steps. -/
structure System (Shared Proc : Type) where
  spawns : Shared → Proc → Prop
  moves : Shared → Proc → Shared → Proc → Prop
  disturbs : Shared → Shared → Prop

structure State (Shared Proc : Type) where
  shared : Shared
  procs : List Proc

namespace System

variable {Shared Proc : Type} (system : System Shared Proc)

inductive Step : State Shared Proc → State Shared Proc → Prop where
  | spawn {shared : Shared} {procs : List Proc} {proc : Proc} (new : system.spawns shared proc) :
      Step ⟨shared, procs⟩ ⟨shared, procs ++ [proc]⟩
  | advance {shared shared' : Shared} {proc proc' : Proc} (before after : List Proc)
      (moved : system.moves shared proc shared' proc') :
      Step ⟨shared, before ++ proc :: after⟩ ⟨shared', before ++ proc' :: after⟩
  | disturb {shared shared' : Shared} {procs : List Proc} (changed : system.disturbs shared shared') :
      Step ⟨shared, procs⟩ ⟨shared', procs⟩

def Reaches : State Shared Proc → State Shared Proc → Prop := Relation.ReflTransGen system.Step

/-- Who is there after a move: the one that moved and those that were there before. -/
theorem mem_moved {before after : List Proc} {proc proc' other : Proc}
    (member : other ∈ before ++ proc' :: after) :
    other = proc' ∨ other ∈ before ++ proc :: after := by
  rcases List.mem_append.mp member with early | rest
  · exact .inr (List.mem_append_left _ early)
  · rcases List.mem_cons.mp rest with moved | late
    · exact .inl moved
    · exact .inr (List.mem_append_right _ (List.mem_cons_of_mem _ late))

variable {system} in
/-- What every step keeps holds throughout a run. -/
theorem reaches_invariant {property : State Shared Proc → Prop} {first last : State Shared Proc}
    (kept : ∀ {state state'}, property state → system.Step state state' → property state')
    (run : system.Reaches first last) (start : property first) : property last := by
  induction run with
  | refl => exact start
  | tail _ next ih => exact kept ih next

/-- A proof outline: an invariant of the shared state and, for each process, what
it may rely on where it stands. Whatever moves must keep the reliance of the rest. -/
structure Outline (invariant : Shared → Prop) (own : Shared → Proc → Prop) : Prop where
  spawn : ∀ {shared proc}, invariant shared → system.spawns shared proc → own shared proc
  advance : ∀ {shared proc shared' proc'}, invariant shared → own shared proc →
    system.moves shared proc shared' proc' → invariant shared' ∧ own shared' proc'
  stable : ∀ {shared proc shared' proc' other}, invariant shared → own shared proc → own shared other →
    system.moves shared proc shared' proc' → own shared' other
  disturb : ∀ {shared shared'}, invariant shared → system.disturbs shared shared' →
    invariant shared' ∧ ∀ proc, own shared proc → own shared' proc

def Holds (invariant : Shared → Prop) (own : Shared → Proc → Prop) (state : State Shared Proc) : Prop :=
  invariant state.shared ∧ ∀ proc ∈ state.procs, own state.shared proc

variable {system} {invariant : Shared → Prop} {own : Shared → Proc → Prop}

theorem Outline.step (outline : system.Outline invariant own) {state state' : State Shared Proc}
    (holds : Holds invariant own state) (next : system.Step state state') :
    Holds invariant own state' := by
  obtain ⟨kept, owns⟩ := holds
  cases next with
  | spawn new =>
    refine ⟨kept, fun proc member => ?_⟩
    rcases List.mem_append.mp member with old | fresh
    · exact owns proc old
    · rw [List.mem_singleton.mp fresh]
      exact outline.spawn kept new
  | advance before after moved =>
    have mover := owns _ (List.mem_append_right _ List.mem_cons_self)
    obtain ⟨later, arrived⟩ := outline.advance kept mover moved
    refine ⟨later, fun proc member => ?_⟩
    rcases mem_moved member with rfl | stood
    · exact arrived
    · exact outline.stable kept mover (owns proc stood) moved
  | disturb changed =>
    obtain ⟨later, carried⟩ := outline.disturb kept changed
    exact ⟨later, fun proc member => carried proc (owns proc member)⟩

theorem Outline.reaches (outline : system.Outline invariant own) {first last : State Shared Proc}
    (run : system.Reaches first last) (holds : Holds invariant own first) : Holds invariant own last :=
  reaches_invariant (fun held next => outline.step held next) run holds

def restrict (system : System Shared Proc) (allowed : Shared → Proc → Prop) : System Shared Proc where
  spawns := system.spawns
  moves shared proc shared' proc' := allowed shared proc ∧ system.moves shared proc shared' proc'
  disturbs := system.disturbs

theorem Step.of_restrict {allowed : Shared → Proc → Prop} {first last : State Shared Proc}
    (next : (system.restrict allowed).Step first last) : system.Step first last := by
  cases next with
  | spawn new => exact .spawn new
  | advance before after moved => exact .advance before after moved.2
  | disturb changed => exact .disturb changed

theorem reaches_of_restrict {allowed : Shared → Proc → Prop} {first last : State Shared Proc}
    (run : (system.restrict allowed).Reaches first last) : system.Reaches first last := by
  induction run with
  | refl => exact .refl
  | tail _ next ih => exact ih.tail next.of_restrict

def Solo (system : System Shared Proc) : Shared × Proc → Shared × Proc → Prop :=
  Relation.ReflTransGen fun first second => system.moves first.1 first.2 second.1 second.2

theorem Solo.head {shared shared' : Shared} {proc proc' : Proc} {last : Shared × Proc}
    (moved : system.moves shared proc shared' proc') (rest : Solo system (shared', proc') last) :
    Solo system (shared, proc) last :=
  Relation.ReflTransGen.head (show (fun first second : Shared × Proc =>
    system.moves first.1 first.2 second.1 second.2) (shared, proc) (shared', proc') from moved) rest

theorem reaches_solo {first last : Shared × Proc} (alone : Solo system first last)
    (before after : List Proc) :
    system.Reaches ⟨first.1, before ++ first.2 :: after⟩ ⟨last.1, before ++ last.2 :: after⟩ := by
  induction alone with
  | refl => exact .refl
  | tail _ moved ih => exact ih.tail (.advance before after moved)

/-- A new process may run to any point it reaches alone. -/
theorem reaches_spawn {shared : Shared} {procs : List Proc} {proc : Proc} {last : Shared × Proc}
    (new : system.spawns shared proc) (alone : Solo system (shared, proc) last) :
    system.Reaches ⟨shared, procs⟩ ⟨last.1, procs ++ [last.2]⟩ :=
  Relation.ReflTransGen.head (.spawn new) (reaches_solo alone procs [])

end System
end GenericIam.Interleaving
