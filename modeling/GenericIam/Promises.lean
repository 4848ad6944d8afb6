import GenericIam.Handlers
import GenericIam.ReadCommitted

/-! What can be said of a program that does not know what it will read: other requests may
change the database between any two of its statements. -/

namespace GenericIam.Transaction

variable {E : Effects} {Db α β ι : Type}

structure Guard (E : Effects) where
  sees : E.View → Prop
  sends : E.Stmt → Prop
  detaches : E.Stmt → Prop

/-- Whatever it sees, the program sends such statements only, and where it returns, `post` holds
of the events emitted and of the statements that went through. -/
def Promises (guard : Guard E) :
    Program E α → (α → List E.Event → List E.Stmt → Prop) → List E.Event → List E.Stmt → Prop
  | .pure value, post, events, log => post value events log
  | .throw _, _, _, _ => True
  | .read next, post, events, log =>
    ∀ view, guard.sees view → Promises guard (next view) post events log
  | .write stmt next, post, events, log =>
      guard.sends stmt ∧ Promises guard (next none) post events (log ++ [stmt]) ∧
        ∀ why, Promises guard (next (some why)) post events log
  | .detached stmt next, post, events, log =>
    guard.detaches stmt ∧ ∀ refused, Promises guard (next refused) post events log
  | .emit event next, post, events, log => Promises guard next post (events ++ [event]) log
  | .generate next, post, events, log => ∀ key, Promises guard (next key) post events log

section Rules
variable {guard : Guard E} {events : List E.Event} {log : List E.Stmt}

theorem promises_mono {program : Program E α} {post post' : α → List E.Event → List E.Stmt → Prop}
    (promised : Promises guard program post events log)
    (weaker : ∀ value events log, post value events log → post' value events log) :
    Promises guard program post' events log := by
  induction program generalizing events log with
  | pure value => exact weaker value events log promised
  | throw error => trivial
  | read next ih => exact fun view seen => ih view (promised view seen)
  | write stmt next ih =>
    exact ⟨promised.1, ih none promised.2.1, fun why => ih (some why) (promised.2.2 why)⟩
  | detached stmt next ih => exact ⟨promised.1, fun refused => ih refused (promised.2 refused)⟩
  | emit event next ih => exact ih promised
  | generate next ih => exact fun key => ih key (promised key)

theorem promises_programBind {program : Program E α} {next : α → Program E β}
    {post : β → List E.Event → List E.Stmt → Prop} :
    Promises guard (program.bind next) post events log ↔
      Promises guard program (fun value events log =>
        Promises guard (next value) post events log) events log := by
  induction program generalizing events log with
  | pure value => rfl
  | throw error => rfl
  | read rest ih => exact forall_congr' fun view => imp_congr_right fun _ => ih view
  | write stmt rest ih =>
    exact and_congr_right fun _ => and_congr (ih none) (forall_congr' fun why => ih (some why))
  | detached stmt rest ih => exact and_congr_right fun _ => forall_congr' fun refused => ih refused
  | emit event rest ih => exact ih
  | generate rest ih => exact forall_congr' fun key => ih key

@[simp] theorem promises_bind {program : Program E α} {next : α → Program E β}
    {post : β → List E.Event → List E.Stmt → Prop} :
    Promises guard (program >>= next) post events log ↔
      Promises guard program (fun value events log =>
        Promises guard (next value) post events log) events log :=
  promises_programBind

@[simp] theorem promises_pure {value : α} {post : α → List E.Event → List E.Stmt → Prop} :
    Promises guard (pure value : Program E α) post events log ↔ post value events log := Iff.rfl

/-- What every round keeps holds after the loop. -/
theorem promises_forEach (invariant : List E.Event → List E.Stmt → Prop) {items : List ι}
    {body : ι → Program E Unit} {post : Unit → List E.Event → List E.Stmt → Prop}
    (start : invariant events log)
    (round : ∀ item events log, invariant events log →
      Promises guard (body item) (fun _ => invariant) events log)
    (finish : ∀ events log, invariant events log → post () events log) :
    Promises guard (forEach items body) post events log := by
  induction items generalizing events log with
  | nil => exact finish events log start
  | cons item rest ih =>
    unfold forEach
    rw [promises_programBind]
    apply promises_mono (round item events log start)
    intro _ events log kept
    exact ih kept

end Rules
end GenericIam.Transaction

namespace GenericIam.ReadCommitted
open Transaction

variable {E : Effects} {Db Kind : Type} {guard : Guard E} {waits : E.Stmt → E.Stmt → Prop}
  {others : List (Request E Db Kind)}
  {db db' own : Db} {request request' : Request E Db Kind} {events : List E.Event}
    {post : Unit → List E.Event → List E.Stmt → Prop}

/-- What a request has yet to do is still promised, and what it has sent so far was. -/
structure Request.Keeps (guard : Guard E) (post : Unit → List E.Event → List E.Stmt → Prop)
    (events : List E.Event)
    (request : Request E Db Kind) : Prop where
  sent : ∀ stmt ∈ request.log, guard.sends stmt
  ahead : Promises guard request.program post events request.log

/-- A step that emits nothing and does not end the request. -/
theorem Moves.keeps (moved : Moves waits others db request db' request')
    (keeps : request.Keeps guard post events)
    (silent : ∀ event next, request.program ≠ .emit event next)
    (seen : ∀ own, request.sees db = some own → guard.sees (request.engine.view own))
    (running : request'.phase = .running) : request'.Keeps guard post events := by
  obtain ⟨sent, ahead⟩ := keeps
  cases moved with
  | read _ program saw =>
    rw [program] at ahead
    exact ⟨sent, ahead _ (seen _ saw)⟩
  | written _ program =>
    rw [program] at ahead
    refine ⟨fun other member => ?_, ahead.2.1⟩
    rcases List.mem_append.mp member with old | new
    · exact sent other old
    · rw [List.mem_singleton.mp new]
      exact ahead.1
  | refused _ program =>
    rw [program] at ahead
    exact ⟨sent, ahead.2.2 _⟩
  | detached _ program =>
    rw [program] at ahead
    exact ⟨sent, ahead.2 _⟩
  | emit _ program => exact absurd program (silent _ _)
  | generate _ program =>
    rw [program] at ahead
    exact ⟨sent, ahead _⟩
  | commit => cases running
  | abort => cases running

end GenericIam.ReadCommitted
