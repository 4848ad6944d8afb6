import Mathlib.Tactic.Common

/-! Request handlers as programs of database statements and events, the transaction
that runs them, and the rules for reasoning about one run and about two runs of the
same program on related databases. -/

namespace GenericIam.Transaction

/-- What programs are made of: what a query sees, the statements, the reasons for
which one is refused, the events, the generated keys and the errors thrown. -/
structure Effects where
  View : Type
  Stmt : Type
  Violation : Type
  Event : Type
  Key : Type
  Error : Type

/-- A detached statement goes over another connection and is committed at once. -/
inductive Program (E : Effects) (α : Type) : Type where
  | pure (value : α)
  | throw (error : E.Error)
  | read (next : E.View → Program E α)
  | write (stmt : E.Stmt) (next : Option E.Violation → Program E α)
  | detached (stmt : E.Stmt) (next : Option E.Violation → Program E α)
  | emit (event : E.Event) (next : Program E α)
  | generate (next : E.Key → Program E α)

namespace Program

variable {E : Effects} {α β : Type}

def bind (program : Program E α) (next : α → Program E β) : Program E β :=
  match program with
  | .pure value => next value
  | .throw error => .throw error
  | .read rest => .read fun view => (rest view).bind next
  | .write stmt rest => .write stmt fun refused => (rest refused).bind next
  | .detached stmt rest => .detached stmt fun refused => (rest refused).bind next
  | .emit event rest => .emit event (rest.bind next)
  | .generate rest => .generate fun key => (rest key).bind next

instance : Monad (Program E) where
  pure := .pure
  bind := .bind

theorem bind_bind {γ : Type} (program : Program E α) (next : α → Program E β) (last : β → Program E γ) :
    (program.bind next).bind last = program.bind fun value => (next value).bind last := by
  induction program with
  | pure value => rfl
  | throw error => rfl
  | read rest ih => exact congrArg Program.read (funext ih)
  | write stmt rest ih => exact congrArg (Program.write stmt) (funext ih)
  | detached stmt rest ih => exact congrArg (Program.detached stmt) (funext ih)
  | emit event rest ih => exact congrArg (Program.emit event) ih
  | generate rest ih => exact congrArg Program.generate (funext ih)

end Program

variable {E : Effects} {Db α β ι : Type}

def view : Program E E.View := .read .pure

def attempt (stmt : E.Stmt) : Program E (Option E.Violation) := .write stmt .pure

def attemptDetached (stmt : E.Stmt) : Program E (Option E.Violation) := .detached stmt .pure

def publish (event : E.Event) : Program E Unit := .emit event (.pure ())

def newKey : Program E E.Key := .generate .pure

def forEach (items : List ι) (body : ι → Program E Unit) : Program E Unit :=
  match items with
  | [] => .pure ()
  | item :: rest => (body item).bind fun _ => forEach rest body

structure Engine (E : Effects) (Db : Type) where
  view : Db → E.View
  apply : E.Stmt → Db → Except E.Violation Db
  applyDetached : E.Stmt → Db → Except E.Violation Db

/-- A transaction under way, with the statements sent so far, those sent over other
connections, the events emitted and the number of keys generated. -/
structure Tx (E : Effects) (Db : Type) where
  db : Db
  log : List E.Stmt := []
  outside : List E.Stmt := []
  events : List E.Event := []
  generated : Nat := 0

def run (engine : Engine E Db) (keys : Nat → E.Key) : Program E α → Tx E Db → Except E.Error α × Tx E Db
  | .pure value, tx => (.ok value, tx)
  | .throw error, tx => (.error error, tx)
  | .read next, tx => run engine keys (next (engine.view tx.db)) tx
  | .write stmt next, tx =>
      match engine.apply stmt tx.db with
      | .ok db => run engine keys (next none) { tx with db, log := tx.log ++ [stmt] }
      | .error refused => run engine keys (next (some refused)) { tx with log := tx.log ++ [stmt] }
  | .detached stmt next, tx =>
      match engine.applyDetached stmt tx.db with
      | .ok db => run engine keys (next none) { tx with db, outside := tx.outside ++ [stmt] }
      | .error refused =>
        run engine keys (next (some refused)) { tx with outside := tx.outside ++ [stmt] }
  | .emit event next, tx => run engine keys next { tx with events := tx.events ++ [event] }
  | .generate next, tx =>
      run engine keys (next (keys tx.generated)) { tx with generated := tx.generated + 1 }

/-- What every statement keeps holds after a run, whatever the program. -/
theorem run_invariant {engine : Engine E Db} {keys : Nat → E.Key} {invariant : Db → Prop}
    (keeps : ∀ {stmt db db'}, invariant db → engine.apply stmt db = .ok db' → invariant db')
    (keepsDetached : ∀ {stmt db db'}, invariant db →
      engine.applyDetached stmt db = .ok db' → invariant db')
    (program : Program E α) {tx : Tx E Db} (start : invariant tx.db) :
    invariant (run engine keys program tx).2.db := by
  induction program generalizing tx with
  | pure value => exact start
  | throw error => exact start
  | read next ih => exact ih _ start
  | write stmt next ih =>
    unfold run
    cases answer : engine.apply stmt tx.db with
    | ok db => exact ih none (keeps start answer)
    | error refused => exact ih (some refused) start
  | detached stmt next ih =>
    unfold run
    cases answer : engine.applyDetached stmt tx.db with
    | ok db => exact ih none (keepsDetached start answer)
    | error refused => exact ih (some refused) start
  | emit event next ih => exact ih start
  | generate next ih => exact ih _ start

/-! One run. -/

structure Monitor (E : Effects) (Db : Type) where
  write : Db → E.Stmt → Prop
  detached : Db → E.Stmt → Prop

section Wp
variable (engine : Engine E Db) (keys : Nat → E.Key) (monitor : Monitor E Db)

/-- The weakest precondition under which every statement passes the monitor, a
return satisfies `post` and an error satisfies `fail`. -/
def wp (program : Program E α) (post : α → Tx E Db → Prop) (fail : E.Error → Tx E Db → Prop)
    (tx : Tx E Db) :
    Prop :=
  match program with
  | .pure value => post value tx
  | .throw error => fail error tx
  | .read next => wp (next (engine.view tx.db)) post fail tx
  | .write stmt next =>
      monitor.write tx.db stmt ∧ match engine.apply stmt tx.db with
        | .ok db => wp (next none) post fail { tx with db, log := tx.log ++ [stmt] }
        | .error refused => wp (next (some refused)) post fail { tx with log := tx.log ++ [stmt] }
  | .detached stmt next =>
      monitor.detached tx.db stmt ∧ match engine.applyDetached stmt tx.db with
        | .ok db => wp (next none) post fail { tx with db, outside := tx.outside ++ [stmt] }
        | .error refused =>
            wp (next (some refused)) post fail { tx with outside := tx.outside ++ [stmt] }
  | .emit event next => wp next post fail { tx with events := tx.events ++ [event] }
  | .generate next => wp (next (keys tx.generated)) post fail { tx with generated := tx.generated + 1 }

variable {engine keys monitor}

theorem wp_programBind (program : Program E α) (next : α → Program E β) (post : β → Tx E Db → Prop)
    (fail : E.Error → Tx E Db → Prop) (tx : Tx E Db) :
    wp engine keys monitor (program.bind next) post fail tx ↔
      wp engine keys monitor program (fun value =>
        wp engine keys monitor (next value) post fail) fail tx := by
  induction program generalizing tx with
  | pure value => exact Iff.rfl
  | throw error => exact Iff.rfl
  | read rest ih => exact ih _ tx
  | write stmt rest ih =>
    simp only [wp, Program.bind]
    cases engine.apply stmt tx.db with
    | ok db => exact and_congr_right fun _ => ih none _
    | error refused => exact and_congr_right fun _ => ih (some refused) _
  | detached stmt rest ih =>
    simp only [wp, Program.bind]
    cases engine.applyDetached stmt tx.db with
    | ok db => exact and_congr_right fun _ => ih none _
    | error refused => exact and_congr_right fun _ => ih (some refused) _
  | emit event rest ih => exact ih _
  | generate rest ih => exact ih _ _

@[simp] theorem wp_bind (program : Program E α) (next : α → Program E β) (post : β → Tx E Db → Prop)
    (fail : E.Error → Tx E Db → Prop) (tx : Tx E Db) :
    wp engine keys monitor (program >>= next) post fail tx ↔
      wp engine keys monitor program (fun value =>
        wp engine keys monitor (next value) post fail) fail tx :=
  wp_programBind program next post fail tx

@[simp] theorem wp_pure (value : α) (post : α → Tx E Db → Prop) (fail : E.Error → Tx E Db → Prop)
    (tx : Tx E Db) :
    wp engine keys monitor (pure value : Program E α) post fail tx ↔ post value tx := Iff.rfl

@[simp] theorem wp_throw (error : E.Error) (post : α → Tx E Db → Prop)
    (fail : E.Error → Tx E Db → Prop) (tx : Tx E Db) :
    wp engine keys monitor (.throw error : Program E α) post fail tx ↔ fail error tx := Iff.rfl

@[simp] theorem wp_view (post : E.View → Tx E Db → Prop) (fail : E.Error → Tx E Db → Prop)
    (tx : Tx E Db) :
    wp engine keys monitor view post fail tx ↔ post (engine.view tx.db) tx := Iff.rfl

@[simp] theorem wp_publish (event : E.Event) (post : Unit → Tx E Db → Prop)
    (fail : E.Error → Tx E Db → Prop) (tx : Tx E Db) :
    wp engine keys monitor (publish event) post fail tx ↔
      post () { tx with events := tx.events ++ [event] } := Iff.rfl

@[simp] theorem wp_newKey (post : E.Key → Tx E Db → Prop) (fail : E.Error → Tx E Db → Prop)
    (tx : Tx E Db) :
    wp engine keys monitor newKey post fail tx ↔
      post (keys tx.generated) { tx with generated := tx.generated + 1 } := Iff.rfl

theorem wp_attempt {stmt : E.Stmt} {post : Option E.Violation → Tx E Db → Prop}
    {fail : E.Error → Tx E Db → Prop} {tx : Tx E Db} (allowed : monitor.write tx.db stmt)
    (done : ∀ db, engine.apply stmt tx.db = .ok db → post none { tx with db, log := tx.log ++ [stmt] })
    (refused : ∀ why, engine.apply stmt tx.db = .error why →
      post (some why) { tx with log := tx.log ++ [stmt] }) :
    wp engine keys monitor (attempt stmt) post fail tx := by
  simp only [attempt, wp]
  refine ⟨allowed, ?_⟩
  cases answer : engine.apply stmt tx.db with
  | ok db => exact done db answer
  | error why => exact refused why answer

theorem wp_attemptDetached {stmt : E.Stmt} {post : Option E.Violation → Tx E Db → Prop}
    {fail : E.Error → Tx E Db → Prop} {tx : Tx E Db} (allowed : monitor.detached tx.db stmt)
    (done : ∀ db, engine.applyDetached stmt tx.db = .ok db →
      post none { tx with db, outside := tx.outside ++ [stmt] })
    (refused : ∀ why, engine.applyDetached stmt tx.db = .error why →
      post (some why) { tx with outside := tx.outside ++ [stmt] }) :
    wp engine keys monitor (attemptDetached stmt) post fail tx := by
  simp only [attemptDetached, wp]
  refine ⟨allowed, ?_⟩
  cases answer : engine.applyDetached stmt tx.db with
  | ok db => exact done db answer
  | error why => exact refused why answer

theorem wp_mono {program : Program E α} {post post' : α → Tx E Db → Prop}
    {fail fail' : E.Error → Tx E Db → Prop} {tx : Tx E Db}
    (holds : wp engine keys monitor program post fail tx)
    (weaker : ∀ value after, post value after → post' value after)
    (weakerFail : ∀ error after, fail error after → fail' error after) :
    wp engine keys monitor program post' fail' tx := by
  induction program generalizing tx with
  | pure value => exact weaker value tx holds
  | throw error => exact weakerFail error tx holds
  | read next ih => exact ih _ holds
  | write stmt next ih =>
    simp only [wp] at holds ⊢
    obtain ⟨allowed, rest⟩ := holds
    refine ⟨allowed, ?_⟩
    cases answer : engine.apply stmt tx.db with
    | ok db =>
      rw [answer] at rest
      exact ih none rest
    | error refused =>
      rw [answer] at rest
      exact ih (some refused) rest
  | detached stmt next ih =>
    simp only [wp] at holds ⊢
    obtain ⟨allowed, rest⟩ := holds
    refine ⟨allowed, ?_⟩
    cases answer : engine.applyDetached stmt tx.db with
    | ok db =>
      rw [answer] at rest
      exact ih none rest
    | error refused =>
      rw [answer] at rest
      exact ih (some refused) rest
  | emit event next ih => exact ih holds
  | generate next ih => exact ih _ holds

/-- A program that may send whatever it wants ends one way or the other. -/
theorem wp_unmonitored {post : α → Tx E Db → Prop} {fail : E.Error → Tx E Db → Prop}
    (program : Program E α) (returns : ∀ value after, post value after)
    (fails : ∀ error after, fail error after) (tx : Tx E Db) :
    wp engine keys ⟨fun _ _ => True, fun _ _ => True⟩ program post fail tx := by
  induction program generalizing tx with
  | pure value => exact returns value tx
  | throw error => exact fails error tx
  | read next ih => exact ih _ tx
  | write stmt next ih =>
    unfold wp
    refine ⟨trivial, ?_⟩
    cases engine.apply stmt tx.db with
    | ok db => exact ih none _
    | error refused => exact ih (some refused) _
  | detached stmt next ih =>
    unfold wp
    refine ⟨trivial, ?_⟩
    cases engine.applyDetached stmt tx.db with
    | ok db => exact ih none _
    | error refused => exact ih (some refused) _
  | emit event next ih => exact ih _
  | generate next ih => exact ih _ _

/-- The loop rule, for an invariant that knows the items that are done. -/
theorem wp_forEach_done {items : List ι} {body : ι → Program E Unit}
    {invariant : List ι → Tx E Db → Prop} {post : Unit → Tx E Db → Prop}
    {fail : E.Error → Tx E Db → Prop} {tx : Tx E Db} (start : invariant [] tx)
    (round : ∀ done item rest, done ++ item :: rest = items → ∀ during, invariant done during →
      wp engine keys monitor (body item) (fun _ => invariant (done ++ [item])) fail during)
    (finish : ∀ after, invariant items after → post () after) :
    wp engine keys monitor (forEach items body) post fail tx := by
  have later : ∀ rest done during, done ++ rest = items → invariant done during →
      wp engine keys monitor (forEach rest body) post fail during := by
    intro rest
    induction rest with
    | nil =>
      intro done during whole kept
      rw [List.append_nil] at whole
      exact finish during (whole ▸ kept)
    | cons item rest ih =>
      intro done during whole kept
      unfold forEach
      rw [wp_programBind]
      apply wp_mono (round done item rest whole during kept)
      · intro _ after next
        exact ih (done ++ [item]) after (by simp [← whole]) next
      · intro error after failed
        exact failed
  exact later items [] tx rfl start

/-- What every round keeps holds after the loop. -/
theorem wp_forEach {items : List ι} {body : ι → Program E Unit} {invariant : Tx E Db → Prop}
    {post : Unit → Tx E Db → Prop} {fail : E.Error → Tx E Db → Prop} {tx : Tx E Db}
    (start : invariant tx)
    (round : ∀ item ∈ items, ∀ during, invariant during →
      wp engine keys monitor (body item) (fun _ => invariant) fail during)
    (finish : ∀ after, invariant after → post () after) :
    wp engine keys monitor (forEach items body) post fail tx :=
  @wp_forEach_done _ _ _ _ _ _ _ _ (fun _ => invariant) _ _ _ start
    (fun _ item _ whole => round item (whole ▸ List.mem_append_right _ List.mem_cons_self)) finish

/-- The run ends as the precondition says. -/
theorem wp_run {program : Program E α} {post : α → Tx E Db → Prop} {fail : E.Error → Tx E Db → Prop}
    {tx : Tx E Db} (holds : wp engine keys monitor program post fail tx) :
    match run engine keys program tx with
    | (.ok value, after) => post value after
    | (.error error, after) => fail error after := by
  induction program generalizing tx with
  | pure value => exact holds
  | throw error => exact holds
  | read next ih => exact ih _ holds
  | write stmt next ih =>
    simp only [wp] at holds
    obtain ⟨_, rest⟩ := holds
    unfold run
    cases answer : engine.apply stmt tx.db with
    | ok db =>
      rw [answer] at rest
      exact ih none rest
    | error refused =>
      rw [answer] at rest
      exact ih (some refused) rest
  | detached stmt next ih =>
    simp only [wp] at holds
    obtain ⟨_, rest⟩ := holds
    unfold run
    cases answer : engine.applyDetached stmt tx.db with
    | ok db =>
      rw [answer] at rest
      exact ih none rest
    | error refused =>
      rw [answer] at rest
      exact ih (some refused) rest
  | emit event next ih => exact ih holds
  | generate next ih => exact ih _ holds

variable (engine monitor)

/-- How a database evolves under monitored statements: those of the transaction and
those sent over other connections. -/
inductive Evolves : Db → List E.Stmt → List E.Stmt → Db → Prop where
  | refl (db : Db) : Evolves db [] [] db
  | write {db db' last : Db} {stmt : E.Stmt} {log outside : List E.Stmt}
      (allowed : monitor.write db stmt)
      (applied : engine.apply stmt db = .ok db') (rest : Evolves db' log outside last) :
      Evolves db (stmt :: log) outside last
  | refused {db last : Db} {stmt : E.Stmt} {why : E.Violation} {log outside : List E.Stmt}
      (allowed : monitor.write db stmt) (answer : engine.apply stmt db = .error why)
        (rest : Evolves db log outside last) :
      Evolves db (stmt :: log) outside last
  | detached {db db' last : Db} {stmt : E.Stmt} {log outside : List E.Stmt}
      (allowed : monitor.detached db stmt)
      (applied : engine.applyDetached stmt db = .ok db') (rest : Evolves db' log outside last) :
      Evolves db log (stmt :: outside) last
  | detachedRefused {db last : Db} {stmt : E.Stmt} {why : E.Violation} {log outside : List E.Stmt}
      (allowed : monitor.detached db stmt) (answer : engine.applyDetached stmt db = .error why)
        (rest : Evolves db log outside last) :
      Evolves db log (stmt :: outside) last

variable {engine monitor}

theorem wp_evolves {program : Program E α} {post : α → Tx E Db → Prop} {fail : E.Error → Tx E Db → Prop}
    {tx : Tx E Db} (holds : wp engine keys monitor program post fail tx) :
    ∃ log outside, (run engine keys program tx).2.log = tx.log ++ log ∧
      (run engine keys program tx).2.outside = tx.outside ++ outside ∧
        Evolves engine monitor tx.db log outside (run engine keys program tx).2.db := by
  induction program generalizing tx with
  | pure value => exact ⟨[], [], by simp [run], by simp [run], .refl _⟩
  | throw error => exact ⟨[], [], by simp [run], by simp [run], .refl _⟩
  | read next ih => exact ih _ holds
  | write stmt next ih =>
    simp only [wp] at holds
    obtain ⟨allowed, rest⟩ := holds
    unfold run
    cases answer : engine.apply stmt tx.db with
    | ok db =>
      rw [answer] at rest
      obtain ⟨log, outside, logged, sent, evolves⟩ := ih none rest
      exact ⟨stmt :: log, outside, by rw [logged]; simp, sent, .write allowed answer evolves⟩
    | error refused =>
      rw [answer] at rest
      obtain ⟨log, outside, logged, sent, evolves⟩ := ih (some refused) rest
      exact ⟨stmt :: log, outside, by rw [logged]; simp, sent, .refused allowed answer evolves⟩
  | detached stmt next ih =>
    simp only [wp] at holds
    obtain ⟨allowed, rest⟩ := holds
    unfold run
    cases answer : engine.applyDetached stmt tx.db with
    | ok db =>
      rw [answer] at rest
      obtain ⟨log, outside, logged, sent, evolves⟩ := ih none rest
      exact ⟨log, stmt :: outside, logged, by rw [sent]; simp, .detached allowed answer evolves⟩
    | error refused =>
      rw [answer] at rest
      obtain ⟨log, outside, logged, sent, evolves⟩ := ih (some refused) rest
      exact ⟨log, stmt :: outside, logged, by rw [sent]; simp, .detachedRefused allowed answer evolves⟩
  | emit event next ih => exact ih holds
  | generate next ih => exact ih _ holds

/-- What every monitored statement of the transaction keeps holds as long as the
database evolves. -/
theorem Evolves.invariant {invariant : Db → Prop} {db last : Db} {log outside : List E.Stmt}
    (evolves : Evolves engine monitor db log outside last)
    (keeps : ∀ {db db'}, ∀ stmt ∈ log, invariant db → monitor.write db stmt →
      engine.apply stmt db = .ok db' →
      invariant db')
    (keepsDetached : ∀ {db stmt db'}, invariant db → monitor.detached db stmt →
      engine.applyDetached stmt db = .ok db' → invariant db')
    (start : invariant db) : invariant last := by
  induction evolves with
  | refl db => exact start
  | write allowed applied _ ih =>
    apply ih
    · intro _ _ stmt member
      exact keeps stmt (List.mem_cons_of_mem _ member)
    · exact keeps _ List.mem_cons_self start allowed applied
  | refused _ _ _ ih =>
    apply ih
    · intro _ _ stmt member
      exact keeps stmt (List.mem_cons_of_mem _ member)
    · exact start
  | detached allowed applied _ ih => exact ih keeps (keepsDetached start allowed applied)
  | detachedRefused _ _ _ ih => exact ih keeps start

/-- The statements that went over other connections were all monitored. -/
theorem Evolves.outside_monitored {db last : Db} {log outside : List E.Stmt}
    (evolves : Evolves engine monitor db log outside last) :
    ∀ stmt ∈ outside, ∃ there, monitor.detached there stmt := by
  induction evolves with
  | refl db =>
    intro stmt member
    cases member
  | write _ _ _ ih => exact ih
  | refused _ _ _ ih => exact ih
  | detached allowed _ _ ih =>
    intro stmt member
    rcases List.mem_cons.mp member with rfl | later
    · exact ⟨_, allowed⟩
    · exact ih stmt later
  | detachedRefused allowed _ _ ih =>
    intro stmt member
    rcases List.mem_cons.mp member with rfl | later
    · exact ⟨_, allowed⟩
    · exact ih stmt later

end Wp

/-! The events of a run. -/

section Emits
variable {engine : Engine E Db} {keys : Nat → E.Key} {good : E.Event → Prop}

def Emits (good : E.Event → Prop) : Program E α → Prop
  | .pure _ => True
  | .throw _ => True
  | .read next => ∀ view, Emits good (next view)
  | .write _ next => ∀ refused, Emits good (next refused)
  | .detached _ next => ∀ refused, Emits good (next refused)
  | .emit event next => good event ∧ Emits good next
  | .generate next => ∀ key, Emits good (next key)

theorem emits_programBind {program : Program E α} {next : α → Program E β} (first : Emits good program)
    (rest : ∀ value, Emits good (next value)) : Emits good (program.bind next) := by
  induction program with
  | pure value => exact rest value
  | throw error => trivial
  | read more ih => exact fun view => ih view (first view)
  | write stmt more ih => exact fun refused => ih refused (first refused)
  | detached stmt more ih => exact fun refused => ih refused (first refused)
  | emit event more ih => exact ⟨first.1, ih first.2⟩
  | generate more ih => exact fun key => ih key (first key)

theorem emits_bind {program : Program E α} {next : α → Program E β} (first : Emits good program)
    (rest : ∀ value, Emits good (next value)) :
    Emits good (program >>= next) := emits_programBind first rest

theorem emits_forEach {items : List ι} {body : ι → Program E Unit}
    (round : ∀ item, Emits good (body item)) :
    Emits good (forEach items body) := by
  induction items with
  | nil => trivial
  | cons item rest ih => exact emits_programBind (round item) fun _ => ih

theorem run_emits {program : Program E α} {tx : Tx E Db} (emits : Emits good program) :
    ∀ event ∈ (run engine keys program tx).2.events, event ∈ tx.events ∨ good event := by
  induction program generalizing tx with
  | pure value => exact fun event member => .inl member
  | throw error => exact fun event member => .inl member
  | read next ih => exact ih _ (emits _)
  | write stmt next ih =>
    unfold run
    cases engine.apply stmt tx.db with
    | ok db => exact ih none (emits none)
    | error refused => exact ih (some refused) (emits (some refused))
  | detached stmt next ih =>
    unfold run
    cases engine.applyDetached stmt tx.db with
    | ok db => exact ih none (emits none)
    | error refused => exact ih (some refused) (emits (some refused))
  | emit event next ih =>
    intro other member
    rcases ih emits.2 other member with early | late
    · rcases List.mem_append.mp early with before | now
      · exact .inl before
      · rw [List.mem_singleton.mp now]
        exact .inr emits.1
    · exact .inr late
  | generate next ih => exact ih _ (emits _)

end Emits

/-! The statements of a run. -/

section Sends
variable {engine : Engine E Db} {keys : Nat → E.Key} {good goodDetached : E.Stmt → Prop}

def Sends (good goodDetached : E.Stmt → Prop) : Program E α → Prop
  | .pure _ => True
  | .throw _ => True
  | .read next => ∀ view, Sends good goodDetached (next view)
  | .write stmt next => good stmt ∧ ∀ refused, Sends good goodDetached (next refused)
  | .detached stmt next => goodDetached stmt ∧ ∀ refused, Sends good goodDetached (next refused)
  | .emit _ next => Sends good goodDetached next
  | .generate next => ∀ key, Sends good goodDetached (next key)

theorem sends_programBind {program : Program E α} {next : α → Program E β}
    (first : Sends good goodDetached program)
    (rest : ∀ value, Sends good goodDetached (next value)) :
    Sends good goodDetached (program.bind next) := by
  induction program with
  | pure value => exact rest value
  | throw error => trivial
  | read more ih => exact fun view => ih view (first view)
  | write stmt more ih => exact ⟨first.1, fun refused => ih refused (first.2 refused)⟩
  | detached stmt more ih => exact ⟨first.1, fun refused => ih refused (first.2 refused)⟩
  | emit event more ih => exact ih first
  | generate more ih => exact fun key => ih key (first key)

theorem sends_bind {program : Program E α} {next : α → Program E β}
    (first : Sends good goodDetached program)
    (rest : ∀ value, Sends good goodDetached (next value)) :
    Sends good goodDetached (program >>= next) :=
  sends_programBind first rest

theorem sends_forEach {items : List ι} {body : ι → Program E Unit}
    (round : ∀ item, Sends good goodDetached (body item)) :
    Sends good goodDetached (forEach items body) := by
  induction items with
  | nil => trivial
  | cons item rest ih => exact sends_programBind (round item) fun _ => ih

/-- A program is monitored by what it can send. -/
theorem sends_wp {program : Program E α} (sends : Sends good goodDetached program) (tx : Tx E Db) :
    wp engine keys ⟨fun _ => good, fun _ => goodDetached⟩ program (fun _ _ => True)
      (fun _ _ => True) tx := by
  induction program generalizing tx with
  | pure value => trivial
  | throw error => trivial
  | read next ih => exact ih _ (sends _) tx
  | write stmt next ih =>
    unfold wp
    refine ⟨sends.1, ?_⟩
    cases engine.apply stmt tx.db with
    | ok db => exact ih none (sends.2 none) _
    | error refused => exact ih (some refused) (sends.2 (some refused)) _
  | detached stmt next ih =>
    unfold wp
    refine ⟨sends.1, ?_⟩
    cases engine.applyDetached stmt tx.db with
    | ok db => exact ih none (sends.2 none) _
    | error refused => exact ih (some refused) (sends.2 (some refused)) _
  | emit event next ih => exact ih sends _
  | generate next ih => exact ih _ (sends _) _

/-- What the statements that a program can send keep holds when it ends, however it does. -/
theorem sends_keeps {monitor : Monitor E Db} {invariant : Db → Prop} {program : Program E α}
    (sends : Sends good goodDetached program)
    (allowed : ∀ {db stmt}, good stmt → monitor.write db stmt)
    (allowedDetached : ∀ {db stmt}, goodDetached stmt → monitor.detached db stmt)
    (keeps : ∀ {stmt db db'}, good stmt → invariant db → engine.apply stmt db = .ok db' → invariant db')
    (keepsDetached : ∀ {stmt db db'}, goodDetached stmt → invariant db →
      engine.applyDetached stmt db = .ok db' → invariant db')
    {tx : Tx E Db} (start : invariant tx.db) :
    wp engine keys monitor program (fun _ after => invariant after.db) (fun _ after =>
      invariant after.db) tx := by
  induction program generalizing tx with
  | pure value => exact start
  | throw error => exact start
  | read next ih => exact ih _ (sends _) start
  | write stmt next ih =>
    unfold wp
    refine ⟨allowed sends.1, ?_⟩
    cases answer : engine.apply stmt tx.db with
    | ok db => exact ih none (sends.2 none) (keeps sends.1 start answer)
    | error refused => exact ih (some refused) (sends.2 (some refused)) start
  | detached stmt next ih =>
    unfold wp
    refine ⟨allowedDetached sends.1, ?_⟩
    cases answer : engine.applyDetached stmt tx.db with
    | ok db => exact ih none (sends.2 none) (keepsDetached sends.1 start answer)
    | error refused => exact ih (some refused) (sends.2 (some refused)) start
  | emit event next ih => exact ih sends start
  | generate next ih => exact ih _ (sends _) start

end Sends

/-! Two runs. -/

section Related
variable {engine : Engine E Db} {keys : Nat → E.Key} {monitor : Monitor E Db}

/-- Two answers to one statement: both databases take it and stay related, or both
refuse it for the same reason. -/
def Lockstep (related : Db → Db → Prop) (first second : Except E.Violation Db) : Prop :=
  match first, second with
  | .ok db, .ok db' => related db db'
  | .error why, .error why' => why = why'
  | _, _ => False

structure Tx.Alike (related : Db → Db → Prop) (first second : Tx E Db) : Prop where
  db : related first.db second.db
  log : first.log = second.log
  outside : first.outside = second.outside
  events : first.events = second.events
  generated : first.generated = second.generated

def Reads {Part : Type} (look : E.View → Part) : Program E α → Prop
  | .pure _ => True
  | .throw _ => True
  | .read next =>
    (∀ view view', look view = look view' → next view = next view') ∧ ∀ view, Reads look (next view)
  | .write _ next => ∀ refused, Reads look (next refused)
  | .detached _ next => ∀ refused, Reads look (next refused)
  | .emit _ next => Reads look next
  | .generate next => ∀ key, Reads look (next key)

theorem reads_whole (program : Program E α) : Reads (fun view => view) program := by
  induction program with
  | pure value => trivial
  | throw error => trivial
  | read next ih => exact ⟨fun _ _ same => congrArg next same, ih⟩
  | write stmt next ih => exact ih
  | detached stmt next ih => exact ih
  | emit event next ih => exact ih
  | generate next ih => exact ih

theorem reads_programBind {Part : Type} {look : E.View → Part} {program : Program E α}
    {next : α → Program E β} (first : Reads look program)
    (rest : ∀ value, Reads look (next value)) : Reads look (program.bind next) := by
  induction program with
  | pure value => exact rest value
  | throw error => trivial
  | read more ih =>
    refine ⟨?_, fun view => ih view (first.2 view)⟩
    intro view view' same
    exact congrArg (fun rest => rest.bind next) (first.1 view view' same)
  | write stmt more ih => exact fun refused => ih refused (first refused)
  | detached stmt more ih => exact fun refused => ih refused (first refused)
  | emit event more ih => exact ih first
  | generate more ih => exact fun key => ih key (first key)

theorem reads_bind {Part : Type} {look : E.View → Part} {program : Program E α}
    {next : α → Program E β} (first : Reads look program)
    (rest : ∀ value, Reads look (next value)) : Reads look (program >>= next) :=
  reads_programBind first rest

theorem reads_forEach {Part : Type} {look : E.View → Part} {items : List ι} {body : ι → Program E Unit}
    (round : ∀ item, Reads look (body item)) : Reads look (forEach items body) := by
  induction items with
  | nil => trivial
  | cons item rest ih => exact reads_programBind (round item) fun _ => ih

/-- Related databases that look alike cannot be told apart by a program whose
statements act on both in lockstep. -/
theorem run_alike {Part : Type} {look : E.View → Part} {related : Db → Db → Prop}
    {post : α → Tx E Db → Prop} {fail : E.Error → Tx E Db → Prop}
    (sameView : ∀ {first second}, related first second →
      look (engine.view first) = look (engine.view second))
    (lockstep : ∀ {first second stmt}, related first second → monitor.write first stmt →
      Lockstep related (engine.apply stmt first) (engine.apply stmt second))
    (lockstepDetached : ∀ {first second stmt}, related first second → monitor.detached first stmt →
      Lockstep related (engine.applyDetached stmt first) (engine.applyDetached stmt second))
    {program : Program E α} (reads : Reads look program) {tx tx' : Tx E Db}
    (alike : tx.Alike related tx') (holds : wp engine keys monitor program post fail tx) :
    (run engine keys program tx).1 = (run engine keys program tx').1 ∧
      (run engine keys program tx).2.Alike related (run engine keys program tx').2 := by
  induction program generalizing tx tx' with
  | pure value => exact ⟨rfl, alike⟩
  | throw error => exact ⟨rfl, alike⟩
  | read next ih =>
    simp only [run]
    rw [← reads.1 _ _ (sameView alike.db)]
    exact ih _ (reads.2 _) alike holds
  | write stmt next ih =>
    simp only [wp] at holds
    obtain ⟨allowed, rest⟩ := holds
    have both := lockstep alike.db allowed
    unfold run
    cases first : engine.apply stmt tx.db with
    | ok db =>
      cases second : engine.apply stmt tx'.db with
      | ok db' =>
        rw [first, second] at both
        rw [first] at rest
        exact ih none (reads none)
          ⟨both, by rw [alike.log], alike.outside, alike.events, alike.generated⟩ rest
      | error why =>
        rw [first, second] at both
        exact both.elim
    | error why =>
      cases second : engine.apply stmt tx'.db with
      | ok db' =>
        rw [first, second] at both
        exact both.elim
      | error why' =>
        rw [first, second] at both
        rw [first] at rest
        have same : why = why' := both
        subst same
        exact ih (some why) (reads (some why))
          ⟨alike.db, by rw [alike.log], alike.outside, alike.events, alike.generated⟩ rest
  | detached stmt next ih =>
    simp only [wp] at holds
    obtain ⟨allowed, rest⟩ := holds
    have both := lockstepDetached alike.db allowed
    unfold run
    cases first : engine.applyDetached stmt tx.db with
    | ok db =>
      cases second : engine.applyDetached stmt tx'.db with
      | ok db' =>
        rw [first, second] at both
        rw [first] at rest
        exact ih none (reads none) ⟨both,
          alike.log, by rw [alike.outside], alike.events, alike.generated⟩ rest
      | error why =>
        rw [first, second] at both
        exact both.elim
    | error why =>
      cases second : engine.applyDetached stmt tx'.db with
      | ok db' =>
        rw [first, second] at both
        exact both.elim
      | error why' =>
        rw [first, second] at both
        rw [first] at rest
        have same : why = why' := both
        subst same
        exact ih (some why) (reads (some why)) ⟨alike.db,
          alike.log, by rw [alike.outside], alike.events, alike.generated⟩ rest
  | emit event next ih =>
    exact ih reads ⟨alike.db, alike.log, alike.outside, by rw [alike.events], alike.generated⟩ holds
  | generate next ih =>
    simp only [run]
    rw [← alike.generated]
    exact ih _ (reads _) ⟨alike.db, alike.log, alike.outside,
      alike.events, by rw [alike.generated]⟩ holds

end Related

/-! A request: its own transaction, committed on return and rolled back on an error. -/

structure Served (E : Effects) (Db α : Type) where
  result : Except E.Error α
  db : Db
  tx : Tx E Db

def keepOutside (engine : Engine E Db) (outside : List E.Stmt) (db : Db) : Db :=
  outside.foldl (fun db stmt => (engine.applyDetached stmt db).toOption.getD db) db

def serve (engine : Engine E Db) (keys : Nat → E.Key) (program : Program E α)
    (db : Db) : Served E Db α :=
  match run engine keys program { db } with
  | (.ok value, tx) => ⟨.ok value, tx.db, tx⟩
  | (.error error, tx) => ⟨.error error, keepOutside engine tx.outside db, tx⟩

section Serve
variable {engine : Engine E Db} {keys : Nat → E.Key} {monitor : Monitor E Db} {invariant : Db → Prop}

theorem keepOutside_invariant {outside : List E.Stmt} {db : Db} (start : invariant db)
    (keeps : ∀ {db db'}, ∀ stmt ∈ outside, invariant db →
      engine.applyDetached stmt db = .ok db' → invariant db') :
    invariant (keepOutside engine outside db) := by
  induction outside generalizing db with
  | nil => exact start
  | cons stmt rest ih =>
    unfold keepOutside
    rw [List.foldl_cons]
    apply ih
    · cases answer : engine.applyDetached stmt db with
      | ok db' => exact keeps stmt List.mem_cons_self start answer
      | error why => exact start
    · intro _ _ other member
      exact keeps other (List.mem_cons_of_mem _ member)

theorem serve_keeps
    (keeps : ∀ {stmt db db'}, invariant db → engine.apply stmt db = .ok db' → invariant db')
    (keepsDetached : ∀ {stmt db db'}, invariant db →
      engine.applyDetached stmt db = .ok db' → invariant db')
    (program : Program E α) {db : Db} (start : invariant db) :
    invariant (serve engine keys program db).db := by
  have ended : invariant (run engine keys program { db }).2.db :=
    run_invariant keeps keepsDetached program start
  unfold serve
  cases finished : run engine keys program { db } with
  | mk result tx =>
    rw [finished] at ended
    cases result with
    | ok value => exact ended
    | error error =>
      exact keepOutside_invariant start fun _ _ before answer => keepsDetached before answer

theorem serve_tx (program : Program E α) (db : Db) :
    (serve engine keys program db).tx = (run engine keys program { db }).2 := by
  unfold serve
  split
  · next returned => rw [returned]
  · next failed => rw [failed]

/-- A request ends as the precondition says, with what it wrote or without it. -/
theorem serve_post {program : Program E α} {post : α → Tx E Db → Prop}
    {fail : E.Error → Tx E Db → Prop} {db : Db}
    (holds : wp engine keys monitor program post fail { db }) :
    match (serve engine keys program db).result with
    | .ok value => post value (serve engine keys program db).tx ∧
        (serve engine keys program db).db = (serve engine keys program db).tx.db
    | .error error => fail error (serve engine keys program db).tx ∧
        (serve engine keys program db).db =
          keepOutside engine (serve engine keys program db).tx.outside db := by
  have ended := wp_run holds
  unfold serve
  cases finished : run engine keys program { db } with
  | mk result tx =>
    rw [finished] at ended
    cases result with
    | ok value => exact ⟨ended, rfl⟩
    | error error => exact ⟨ended, rfl⟩

/-- A request that cannot fail commits. -/
theorem serve_ok {program : Program E α} {post : α → Tx E Db → Prop} {db : Db}
    (holds : wp engine keys monitor program post (fun _ _ => False) { db }) :
    ∃ value, post value (serve engine keys program db).tx ∧
      (serve engine keys program db).db = (serve engine keys program db).tx.db := by
  have ended := serve_post holds
  cases result : (serve engine keys program db).result with
  | ok value =>
    rw [result] at ended
    exact ⟨value, ended⟩
  | error error =>
    rw [result] at ended
    exact ended.1.elim

/-- What the monitored statements of a request keep holds of the database that it
leaves behind. Those of a request that failed count for nothing. -/
theorem serve_invariant {program : Program E α} {post : α → Tx E Db → Prop}
    {fail : E.Error → Tx E Db → Prop} {db : Db}
    (holds : wp engine keys monitor program post fail { db }) (start : invariant db)
    (keeps : ∀ value, post value (serve engine keys program db).tx → ∀ {before after},
      ∀ stmt ∈ (serve engine keys program db).tx.log, invariant before → monitor.write before stmt →
        engine.apply stmt before = .ok after → invariant after)
    (keepsDetached : ∀ {there before stmt after}, monitor.detached there stmt → invariant before →
      engine.applyDetached stmt before = .ok after → invariant after) :
    invariant (serve engine keys program db).db := by
  obtain ⟨log, outside, logged, sent, evolves⟩ := wp_evolves holds
  have ended := wp_run holds
  rw [← serve_tx] at logged sent evolves
  rw [List.nil_append] at logged sent
  cases finished : run engine keys program { db } with
  | mk result tx =>
    have whole : (serve engine keys program db).tx = tx := by rw [serve_tx, finished]
    rw [finished] at ended
    cases result with
    | ok value =>
      have committed : (serve engine keys program db).db = (serve engine keys program db).tx.db := by
        simp [serve, finished]
      rw [committed]
      apply evolves.invariant _ _ start
      · intro _ _ stmt member
        rw [← logged] at member
        exact keeps value (by rw [whole]; exact ended) stmt member
      · intro _ _ _ before allowed applied
        exact keepsDetached allowed before applied
    | error error =>
      have undone : (serve engine keys program db).db = keepOutside engine outside db := by
        rw [← sent, whole]
        simp [serve, finished]
      rw [undone]
      apply keepOutside_invariant start
      intro _ _ stmt member before applied
      obtain ⟨there, allowed⟩ := evolves.outside_monitored stmt member
      exact keepsDetached allowed before applied

theorem serve_emits {good : E.Event → Prop} {program : Program E α} {db : Db}
    (emits : Emits good program) :
    ∀ event ∈ (serve engine keys program db).tx.events, good event := by
  intro event member
  rw [serve_tx] at member
  rcases run_emits emits event member with before | holds
  · cases before
  · exact holds

/-- What every statement that a program can send keeps holds of the database that a
request leaves behind. -/
theorem serve_sends {good goodDetached : E.Stmt → Prop} {program : Program E α}
    (sends : Sends good goodDetached program) {db : Db} (start : invariant db)
    (keeps : ∀ {stmt before after}, good stmt → invariant before →
      engine.apply stmt before = .ok after → invariant after)
    (keepsDetached : ∀ {stmt before after}, goodDetached stmt → invariant before →
      engine.applyDetached stmt before = .ok after →
      invariant after) : invariant (serve engine keys program db).db := by
  apply serve_invariant (sends_wp sends { db }) start
  · intro _ _ _ _ stmt _ before allowed applied
    exact keeps allowed before applied
  · intro _ _ _ _ allowed before applied
    exact keepsDetached allowed before applied

/-- A request that sends nothing over other connections leaves no trace when it fails. -/
theorem serve_undone {program : Program E α} {post : α → Tx E Db → Prop}
    {fail : E.Error → Tx E Db → Prop} {db : Db}
    (holds : wp engine keys monitor program post fail { db })
    (attached : ∀ {there stmt}, ¬monitor.detached there stmt) {error : E.Error}
    (failed : (serve engine keys program db).result = .error error) :
    (serve engine keys program db).db = db := by
  have ended := serve_post holds
  rw [failed] at ended
  obtain ⟨_, outside, _, sent, evolves⟩ := wp_evolves holds
  rw [← serve_tx, List.nil_append] at sent
  have none_sent : outside = [] := by
    rw [List.eq_nil_iff_forall_not_mem]
    intro stmt member
    obtain ⟨_, impossible⟩ := evolves.outside_monitored stmt member
    exact attached impossible
  rw [ended.2, sent, none_sent]
  rfl

theorem keepOutside_related {related : Db → Db → Prop} {outside : List E.Stmt} {first second : Db}
    (start : related first second)
    (lockstep : ∀ {first second}, ∀ stmt ∈ outside, related first second →
      Lockstep related (engine.applyDetached stmt first) (engine.applyDetached stmt second)) :
    related (keepOutside engine outside first) (keepOutside engine outside second) := by
  induction outside generalizing first second with
  | nil => exact start
  | cons stmt rest ih =>
    have both := lockstep stmt List.mem_cons_self start
    unfold keepOutside
    rw [List.foldl_cons, List.foldl_cons]
    apply ih
    · cases went : engine.applyDetached stmt first with
      | ok db =>
        cases went' : engine.applyDetached stmt second with
        | ok db' =>
          rw [went, went'] at both
          exact both
        | error why =>
          rw [went, went'] at both
          exact both.elim
      | error why =>
        cases went' : engine.applyDetached stmt second with
        | ok db' =>
          rw [went, went'] at both
          exact both.elim
        | error why' => exact start
    · intro _ _ other member
      exact lockstep other (List.mem_cons_of_mem _ member)

/-- A request served on related databases answers alike, emits the same events and leaves
related databases behind. -/
theorem serve_alike {Part : Type} {look : E.View → Part} {related : Db → Db → Prop}
    {post : α → Tx E Db → Prop} {fail : E.Error → Tx E Db → Prop}
    (sameView : ∀ {first second}, related first second →
      look (engine.view first) = look (engine.view second))
    (lockstep : ∀ {first second stmt}, related first second → monitor.write first stmt →
      Lockstep related (engine.apply stmt first) (engine.apply stmt second))
    (lockstepDetached : ∀ {there first second stmt}, related first second →
      monitor.detached there stmt →
      Lockstep related (engine.applyDetached stmt first) (engine.applyDetached stmt second))
    {program : Program E α} (reads : Reads look program) {db db' : Db} (start : related db db')
    (holds : wp engine keys monitor program post fail { db }) :
    (serve engine keys program db).result = (serve engine keys program db').result ∧
      related (serve engine keys program db).db (serve engine keys program db').db ∧
        (serve engine keys program db).tx.events = (serve engine keys program db').tx.events := by
  have initial : Tx.Alike related ({ db } : Tx E Db) { db := db' } := ⟨start, rfl, rfl, rfl, rfl⟩
  obtain ⟨same, alike⟩ := run_alike sameView lockstep lockstepDetached reads initial holds
  obtain ⟨_, outside, _, sent, evolves⟩ := wp_evolves holds
  rw [List.nil_append] at sent
  rw [serve_tx, serve_tx]
  refine ⟨?_, ?_, alike.events⟩
  · unfold serve
    cases first : run engine keys program { db } with
    | mk result tx =>
      cases second : run engine keys program { db := db' } with
      | mk result' tx' =>
        rw [first, second] at same
        cases same
        cases result with
        | ok value => rfl
        | error error => rfl
  · unfold serve
    cases first : run engine keys program { db } with
    | mk result tx =>
      cases second : run engine keys program { db := db' } with
      | mk result' tx' =>
        rw [first, second] at same alike
        rw [first] at sent
        cases same
        cases result with
        | ok value => exact alike.db
        | error error =>
          simp only
          rw [← alike.outside, sent]
          apply keepOutside_related start
          intro _ _ stmt member both
          obtain ⟨there, allowed⟩ := evolves.outside_monitored stmt member
          exact lockstepDetached both allowed

end Serve
end GenericIam.Transaction
