import GenericIam.Transaction

/-! Requests whose connection breaks at some statement or at the commit, and what such a
request leaves behind: that depends on how far it gets before its first event. -/

namespace GenericIam.Transaction

variable {E : Effects} {Db α β ι : Type}

/-- After `budget` statements the connection is broken and the rest are refused; a return
comes with what is left of the budget. -/
def runWithin (engine : Engine E Db) (keys : Nat → E.Key) (broken : E.Violation) (lost : E.Error) :
    Program E α → Nat → Tx E Db → Except E.Error (α × Nat) × Tx E Db
  | .pure value, budget, tx => (.ok (value, budget), tx)
  | .throw error, _, tx => (.error error, tx)
  | .read _, 0, tx => (.error lost, tx)
  | .read next, budget + 1, tx => runWithin engine keys broken lost (next (engine.view tx.db)) budget tx
  | .write _ next, 0, tx => runWithin engine keys broken lost (next (some broken)) 0 tx
  | .write stmt next, budget + 1, tx =>
      match engine.apply stmt tx.db with
      | .ok db =>
        runWithin engine keys broken lost (next none) budget { tx with db, log := tx.log ++ [stmt] }
      | .error refused =>
        runWithin engine keys broken lost (next (some refused)) budget
        { tx with log := tx.log ++ [stmt] }
  | .detached _ next, 0, tx => runWithin engine keys broken lost (next (some broken)) 0 tx
  | .detached stmt next, budget + 1, tx =>
      match engine.applyDetached stmt tx.db with
      | .ok db =>
        runWithin engine keys broken lost (next none) budget
        { tx with db, outside := tx.outside ++ [stmt] }
      | .error refused =>
        runWithin engine keys broken lost (next (some refused)) budget
        { tx with outside := tx.outside ++ [stmt] }
  | .emit event next, budget, tx =>
    runWithin engine keys broken lost next budget { tx with events := tx.events ++ [event] }
  | .generate next, budget, tx =>
      runWithin engine keys broken lost (next (keys tx.generated)) budget
        { tx with generated := tx.generated + 1 }

def serveWithin (engine : Engine E Db) (keys : Nat → E.Key) (broken : E.Violation) (lost : E.Error)
    (program : Program E α) (budget : Nat) (db : Db) : Served E Db α :=
  match runWithin engine keys broken lost program budget { db } with
  | (.ok (_, 0), tx) => ⟨.error lost, keepOutside engine tx.outside db, tx⟩
  | (.ok (value, _ + 1), tx) => ⟨.ok value, tx.db, tx⟩
  | (.error error, tx) => ⟨.error error, keepOutside engine tx.outside db, tx⟩

/-- How a program goes as long as no event is emitted: it reaches the first one after a
number of statements, or returns or throws before. -/
inductive Outset (E : Effects) (Db α : Type) where
  | emits (sent : Nat)
  | returns (sent : Nat) (value : α) (tx : Tx E Db)
  | throws

namespace Outset

def after (outset : Outset E Db α) (sent : Nat) : Outset E Db α :=
  match outset with
  | .emits more => .emits (more + sent)
  | .returns more value tx => .returns (more + sent) value tx
  | .throws => .throws

def andThen (outset : Outset E Db α) (next : α → Tx E Db → Outset E Db β) : Outset E Db β :=
  match outset with
  | .emits sent => .emits sent
  | .returns sent value tx => (next value tx).after sent
  | .throws => .throws

def firstEvent : Outset E Db α → Option Nat
  | .emits sent => some sent
  | _ => none

@[simp] theorem after_zero (outset : Outset E Db α) : outset.after 0 = outset := by
  cases outset <;> rfl

@[simp] theorem after_after (outset : Outset E Db α) (first second : Nat) :
    (outset.after first).after second = outset.after (first + second) := by
  cases outset <;> simp [after, Nat.add_assoc]

@[simp] theorem after_andThen (outset : Outset E Db α) (sent : Nat)
    (next : α → Tx E Db → Outset E Db β) :
    (outset.after sent).andThen next = (outset.andThen next).after sent := by
  cases outset with
  | emits more => rfl
  | returns more value tx => exact (after_after _ _ _).symm
  | throws => rfl

theorem andThen_andThen {γ : Type} (outset : Outset E Db α) (next : α → Tx E Db → Outset E Db β)
    (last : β → Tx E Db → Outset E Db γ) :
    (outset.andThen next).andThen last = outset.andThen fun value tx =>
      (next value tx).andThen last := by
  cases outset with
  | emits sent => rfl
  | returns sent value tx => exact after_andThen _ _ _
  | throws => rfl

@[simp] theorem firstEvent_after (outset : Outset E Db α) (sent : Nat) :
    (outset.after sent).firstEvent = outset.firstEvent.map (· + sent) := by
  cases outset <;> rfl

@[simp] theorem returns_andThen (sent : Nat) (value : α) (tx : Tx E Db)
    (next : α → Tx E Db → Outset E Db β) :
    (Outset.returns sent value tx).andThen next = (next value tx).after sent := rfl

@[simp] theorem throws_andThen (next : α → Tx E Db → Outset E Db β) :
    (Outset.throws : Outset E Db α).andThen next = .throws := rfl

@[simp] theorem emits_andThen (sent : Nat) (next : α → Tx E Db → Outset E Db β) :
    (Outset.emits sent : Outset E Db α).andThen next = .emits sent := rfl

@[simp] theorem returns_after (sent more : Nat) (value : α) (tx : Tx E Db) :
    (Outset.returns sent value tx).after more = .returns (sent + more) value tx := rfl

@[simp] theorem emits_after (sent more : Nat) :
    (Outset.emits sent : Outset E Db α).after more = .emits (sent + more) := rfl

@[simp] theorem throws_after (more : Nat) : (Outset.throws : Outset E Db α).after more = .throws := rfl

@[simp] theorem firstEvent_emits (sent : Nat) :
    (Outset.emits sent : Outset E Db α).firstEvent = some sent := rfl

@[simp] theorem firstEvent_returns (sent : Nat) (value : α) (tx : Tx E Db) :
    (Outset.returns sent value tx).firstEvent = none := rfl

@[simp] theorem firstEvent_throws : (Outset.throws : Outset E Db α).firstEvent = none := rfl

end Outset

def outset (engine : Engine E Db) (keys : Nat → E.Key) : Program E α → Tx E Db → Outset E Db α
  | .pure value, tx => .returns 0 value tx
  | .throw _, _ => .throws
  | .read next, tx => (outset engine keys (next (engine.view tx.db)) tx).after 1
  | .write stmt next, tx =>
      match engine.apply stmt tx.db with
      | .ok db => (outset engine keys (next none) { tx with db, log := tx.log ++ [stmt] }).after 1
      | .error refused =>
        (outset engine keys (next (some refused)) { tx with log := tx.log ++ [stmt] }).after 1
  | .detached stmt next, tx =>
      match engine.applyDetached stmt tx.db with
      | .ok db =>
        (outset engine keys (next none) { tx with db, outside := tx.outside ++ [stmt] }).after 1
      | .error refused =>
        (outset engine keys (next (some refused)) { tx with outside := tx.outside ++ [stmt] }).after 1
  | .emit _ _, _ => .emits 0
  | .generate next, tx =>
    outset engine keys (next (keys tx.generated)) { tx with generated := tx.generated + 1 }

/-- A program that throws as soon as a statement is refused and that announces what it
sends over other connections at once. -/
def Brittle (engine : Engine E Db) : Program E α → Prop
  | .pure _ => True
  | .throw _ => True
  | .read next => ∀ view, Brittle engine (next view)
  | .write _ next => (∀ why, ∃ error, next (some why) = .throw error) ∧ Brittle engine (next none)
  | .detached stmt next => (∀ db, ∃ db', engine.applyDetached stmt db = .ok db') ∧
      (∀ why, ∃ error, next (some why) = .throw error) ∧ (∃ event rest, next none = .emit event rest) ∧
        Brittle engine (next none)
  | .emit _ next => Brittle engine next
  | .generate next => ∀ key, Brittle engine (next key)

section Budgets
variable {engine : Engine E Db} {keys : Nat → E.Key} {broken : E.Violation} {lost : E.Error}

theorem outset_programBind (program : Program E α) (next : α → Program E β) (tx : Tx E Db) :
    outset engine keys (program.bind next) tx = (outset engine keys program tx).andThen fun value =>
      outset engine keys (next value) := by
  induction program generalizing tx with
  | pure value => simp [Program.bind, outset, Outset.andThen]
  | throw error => rfl
  | read rest ih => simp only [Program.bind, outset, ih, Outset.after_andThen]
  | write stmt rest ih =>
    simp only [Program.bind, outset]
    cases engine.apply stmt tx.db with
    | ok db => simp only [ih, Outset.after_andThen]
    | error refused => simp only [ih, Outset.after_andThen]
  | detached stmt rest ih =>
    simp only [Program.bind, outset]
    cases engine.applyDetached stmt tx.db with
    | ok db => simp only [ih, Outset.after_andThen]
    | error refused => simp only [ih, Outset.after_andThen]
  | emit event rest ih => rfl
  | generate rest ih => simp only [Program.bind, outset, ih]

theorem outset_bind (program : Program E α) (next : α → Program E β) :
    outset engine keys (program >>= next) = fun tx =>
      (outset engine keys program tx).andThen fun value => outset engine keys (next value) :=
  funext fun tx => outset_programBind program next tx

theorem brittle_programBind {program : Program E α} {next : α → Program E β}
    (first : Brittle engine program) (rest : ∀ value, Brittle engine (next value)) :
    Brittle engine (program.bind next) := by
  induction program with
  | pure value => exact rest value
  | throw error => trivial
  | read more ih => exact fun view => ih view (first view)
  | write stmt more ih =>
    refine ⟨fun why => ?_, ih none first.2⟩
    obtain ⟨error, gives_up⟩ := first.1 why
    exact ⟨error, by simp only [gives_up, Program.bind]⟩
  | detached stmt more ih =>
    obtain ⟨accepted, refused, ⟨event, after, announced⟩, going⟩ := first
    refine ⟨accepted, fun why => ?_,
      ⟨event, after.bind next, by simp only [announced, Program.bind]⟩, ih none going⟩
    obtain ⟨error, gives_up⟩ := refused why
    exact ⟨error, by simp only [gives_up, Program.bind]⟩
  | emit event more ih => exact ih first
  | generate more ih => exact fun key => ih key (first key)

theorem brittle_bind {program : Program E α} {next : α → Program E β}
    (first : Brittle engine program) (rest : ∀ value, Brittle engine (next value)) :
    Brittle engine (program >>= next) := brittle_programBind first rest

theorem brittle_forEach {items : List ι} {body : ι → Program E Unit}
    (each : ∀ item, Brittle engine (body item)) :
    Brittle engine (forEach items body) := by
  induction items with
  | nil => trivial
  | cons item rest ih => exact brittle_programBind (each item) fun _ => ih

/-- Events are never taken back. -/
theorem runWithin_events (program : Program E α) (budget : Nat) (tx : Tx E Db) :
    tx.events <+: (runWithin engine keys broken lost program budget tx).2.events := by
  induction program generalizing budget tx with
  | pure value => exact List.prefix_rfl
  | throw error => exact List.prefix_rfl
  | read next ih =>
    cases budget with
    | zero => exact List.prefix_rfl
    | succ budget => exact ih _ budget tx
  | write stmt next ih =>
    cases budget with
    | zero => exact ih _ 0 tx
    | succ budget =>
      simp only [runWithin]
      split
      · next db _ => exact ih none budget { tx with db, log := tx.log ++ [stmt] }
      · next refused _ => exact ih (some refused) budget { tx with log := tx.log ++ [stmt] }
  | detached stmt next ih =>
    cases budget with
    | zero => exact ih _ 0 tx
    | succ budget =>
      simp only [runWithin]
      split
      · next db _ => exact ih none budget { tx with db, outside := tx.outside ++ [stmt] }
      · next refused _ => exact ih (some refused) budget { tx with outside := tx.outside ++ [stmt] }
  | emit event next ih =>
    exact (List.prefix_append _ _).trans (ih budget { tx with events := tx.events ++ [event] })
  | generate next ih => exact ih _ budget { tx with generated := tx.generated + 1 }

def Silent (tx : Tx E Db) (end_ : Except E.Error (α × Nat) × Tx E Db) : Prop :=
  end_.2.events = tx.events ∧ end_.2.outside = tx.outside

def Meets (outset : Outset E Db α) (budget : Nat) (tx : Tx E Db)
    (end_ : Except E.Error (α × Nat) × Tx E Db) : Prop :=
  match outset with
  | .emits sent => if sent ≤ budget then end_.2.events ≠ tx.events
      else (∃ error, end_.1 = .error error) ∧ Silent tx end_
  | .returns sent value _ => Silent tx end_ ∧
      if sent ≤ budget then end_.1 = .ok (value, budget - sent) else ∃ error, end_.1 = .error error
  | .throws => (∃ error, end_.1 = .error error) ∧ Silent tx end_

theorem emitted_ne (event : E.Event) (next : Program E α) (budget : Nat) (tx : Tx E Db) :
    (runWithin engine keys broken lost (.emit event next) budget tx).2.events ≠ tx.events := by
  have grows :=
    @runWithin_events E Db α engine keys broken lost next budget
    { tx with events := tx.events ++ [event] }
  intro same
  have longer := grows.length_le
  simp only [runWithin] at same
  rw [same, List.length_append, List.length_singleton] at longer
  omega

theorem Meets.after {outset : Outset E Db α} {budget : Nat} {tx tx' : Tx E Db}
    {end_ : Except E.Error (α × Nat) × Tx E Db} (meets : Meets outset budget tx' end_)
    (events : tx'.events = tx.events) (outside : tx'.outside = tx.outside) :
    Meets (outset.after 1) (budget + 1) tx end_ := by
  cases outset with
  | emits sent =>
    simpa only [Meets, Outset.after, Silent, events, outside, Nat.add_le_add_iff_right] using meets
  | returns sent value end_ =>
    simpa only [Meets, Outset.after, Silent, events, outside, Nat.add_le_add_iff_right,
      Nat.add_sub_add_right] using meets
  | throws => simpa only [Meets, Outset.after, Silent, events, outside] using meets

theorem Meets.exhausted {outset : Outset E Db α} {tx : Tx E Db}
    {end_ : Except E.Error (α × Nat) × Tx E Db} (failed : ∃ error, end_.1 = .error error)
    (silent : Silent tx end_) : Meets (outset.after 1) 0 tx end_ := by
  cases outset with
  | emits sent => simpa [Meets, Outset.after] using ⟨failed, silent⟩
  | returns sent value end_ => simpa [Meets, Outset.after] using ⟨silent, failed⟩
  | throws => exact ⟨failed, silent⟩

/-- A brittle program keeps to its outset: without the budget for its first event it
leaves nothing but an error. -/
theorem runWithin_meets {program : Program E α} (brittle : Brittle engine program) (budget : Nat)
    (tx : Tx E Db) :
    Meets (outset engine keys program tx) budget tx
      (runWithin engine keys broken lost program budget tx) := by
  induction program generalizing budget tx with
  | pure value => exact ⟨⟨rfl, rfl⟩, rfl⟩
  | throw error => exact ⟨⟨error, rfl⟩, rfl, rfl⟩
  | read next ih =>
    cases budget with
    | zero => exact Meets.exhausted ⟨lost, rfl⟩ ⟨rfl, rfl⟩
    | succ budget => exact (ih _ (brittle _) budget tx).after rfl rfl
  | write stmt next ih =>
    obtain ⟨gives_up, going⟩ := brittle
    cases budget with
    | zero =>
      obtain ⟨error, throws⟩ := gives_up broken
      simp only [runWithin, outset, throws]
      split
      · exact Meets.exhausted ⟨error, rfl⟩ ⟨rfl, rfl⟩
      · exact Meets.exhausted ⟨error, rfl⟩ ⟨rfl, rfl⟩
    | succ budget =>
      simp only [runWithin, outset]
      cases engine.apply stmt tx.db with
      | ok db => exact (ih none going budget { tx with db, log := tx.log ++ [stmt] }).after rfl rfl
      | error refused =>
        obtain ⟨error, throws⟩ := gives_up refused
        simp only [throws]
        exact ⟨⟨error, rfl⟩, rfl, rfl⟩
  | detached stmt next ih =>
    obtain ⟨accepted, gives_up, ⟨event, rest, announced⟩, going⟩ := brittle
    obtain ⟨db, answer⟩ := accepted tx.db
    simp only [outset, answer, announced, Outset.after]
    cases budget with
    | zero =>
      obtain ⟨error, throws⟩ := gives_up broken
      simp only [runWithin, throws]
      exact ⟨⟨error, rfl⟩, rfl, rfl⟩
    | succ budget =>
      simp only [runWithin, answer, announced]
      exact emitted_ne event rest budget { tx with db, outside := tx.outside ++ [stmt] }
  | emit event next ih => exact emitted_ne event next budget tx
  | generate next ih => exact ih _ (brittle _) budget { tx with generated := tx.generated + 1 }

theorem serveWithin_events (program : Program E α) (budget : Nat) (db : Db) :
    (serveWithin engine keys broken lost program budget db).tx.events =
      (runWithin engine keys broken lost program budget { db }).2.events := by
  unfold serveWithin
  split
  · next tx ended => rw [ended]
  · next value left tx ended => rw [ended]
  · next error tx ended => rw [ended]

/-- A failed request that has sent nothing over other connections is undone. -/
theorem serveWithin_undone {program : Program E α} {budget : Nat} {db : Db} {error : E.Error}
    (failed : (serveWithin engine keys broken lost program budget db).result = .error error)
    (silent : Silent { db } (runWithin engine keys broken lost program budget { db })) :
    (serveWithin engine keys broken lost program budget db).db = db := by
  unfold serveWithin at failed ⊢
  split
  · next tx ended =>
    rw [ended] at silent
    have nothing : tx.outside = [] := silent.2
    dsimp only
    rw [nothing]
    rfl
  · next value left tx ended =>
    rw [ended] at failed
    cases failed
  · next refused tx ended =>
    rw [ended] at silent
    have nothing : tx.outside = [] := silent.2
    dsimp only
    rw [nothing]
    rfl

/-- A failed request of a brittle program leaves no trace exactly if it fails before its
first event. -/
theorem untraced_iff {program : Program E α} (brittle : Brittle engine program) (budget : Nat)
    (db : Db) {error : E.Error}
    (failed : (serveWithin engine keys broken lost program budget db).result = .error error) :
    ((serveWithin engine keys broken lost program budget db).db = db ∧
        (serveWithin engine keys broken lost program budget db).tx.events = []) ↔
      ∀ sent, (outset engine keys program { db }).firstEvent = some sent → budget < sent := by
  have meets := @runWithin_meets E Db α engine keys broken lost program brittle budget { db }
  have untraced : Silent { db } (runWithin engine keys broken lost program budget { db }) →
      (serveWithin engine keys broken lost program budget db).db = db ∧
        (serveWithin engine keys broken lost program budget db).tx.events = [] := by
    intro silent
    rw [serveWithin_events]
    exact ⟨serveWithin_undone failed silent, silent.1⟩
  cases first : outset engine keys program { db } with
  | emits sent =>
    rw [first] at meets
    simp only [Outset.firstEvent, Option.some.injEq, forall_eq']
    by_cases reached : sent ≤ budget
    · simp only [Meets, if_pos reached] at meets
      rw [serveWithin_events]
      exact iff_of_false (fun both => meets both.2) (Nat.not_lt.mpr reached)
    · simp only [Meets, if_neg reached] at meets
      exact iff_of_true (untraced meets.2) (Nat.not_le.mp reached)
  | returns sent value tx =>
    rw [first] at meets
    exact iff_of_true (untraced meets.1) fun _ impossible => by cases impossible
  | throws =>
    rw [first] at meets
    exact iff_of_true (untraced meets.2) fun _ impossible => by cases impossible

/-- One statement more needs a budget that is larger by one. -/
theorem enough_succ {small large : Nat → Prop}
    (reached : ∃ enough, ∀ budget, enough < budget → small budget)
    (next : ∀ budget, small budget → large (budget + 1)) :
    ∃ enough, ∀ budget, enough < budget → large budget := by
  obtain ⟨enough, reached⟩ := reached
  refine ⟨enough + 1, fun budget more => ?_⟩
  obtain ⟨less, rfl⟩ : ∃ less, budget = less + 1 := ⟨budget - 1, by omega⟩
  exact next less (reached less (by omega))

/-- With a budget that is large enough nothing breaks. -/
theorem runWithin_enough (program : Program E α) (tx : Tx E Db) : ∃ enough, ∀ budget, enough < budget →
    ∃ left, (runWithin engine keys broken lost program budget tx) =
      ((run engine keys program tx).1.map (·, left + 1), (run engine keys program tx).2) := by
  induction program generalizing tx with
  | pure value =>
    exact ⟨0, fun budget more =>
      ⟨budget - 1, by simp only [runWithin, run, Except.map, Nat.sub_add_cancel more]⟩⟩
  | throw error => exact ⟨0, fun budget more => ⟨0, rfl⟩⟩
  | read next ih =>
    exact enough_succ (ih (engine.view tx.db) tx) fun _ reached => reached
  | write stmt next ih =>
    unfold run
    cases answer : engine.apply stmt tx.db with
    | ok db =>
      refine enough_succ (ih none { tx with db, log := tx.log ++ [stmt] }) fun less reached => ?_
      simp only [runWithin, answer]
      exact reached
    | error refused =>
      refine enough_succ (ih (some refused) { tx with log := tx.log ++ [stmt] }) fun less reached => ?_
      simp only [runWithin, answer]
      exact reached
  | detached stmt next ih =>
    unfold run
    cases answer : engine.applyDetached stmt tx.db with
    | ok db =>
      refine enough_succ (ih none { tx with db, outside := tx.outside ++ [stmt] }) fun less reached => ?_
      simp only [runWithin, answer]
      exact reached
    | error refused =>
      refine enough_succ (ih (some refused) { tx with outside := tx.outside ++ [stmt] })
        fun less reached => ?_
      simp only [runWithin, answer]
      exact reached
  | emit event next ih => exact ih { tx with events := tx.events ++ [event] }
  | generate next ih => exact ih _ { tx with generated := tx.generated + 1 }

theorem serveWithin_enough (program : Program E α) (db : Db) :
    ∃ enough, ∀ budget, enough < budget →
      serveWithin engine keys broken lost program budget db = serve engine keys program db := by
  obtain ⟨enough, reached⟩ := @runWithin_enough E Db α engine keys broken lost program { db }
  refine ⟨enough, fun budget more => ?_⟩
  obtain ⟨left, same⟩ := reached budget more
  unfold serveWithin serve
  rw [same]
  cases run engine keys program { db } with
  | mk result tx => cases result <;> rfl

end Budgets

end GenericIam.Transaction
