import GenericIam.ConcurrentCalls
import GenericIam.PendingDeletes

/-! Under a schedule without harmful overtaking, a cache that agrees with the database agrees with
it again whenever everything is done. -/

namespace GenericIam.SettledCaches
open Table Database EffectivePermissions Identifiers CacheKeys AuthorizationCheck
open Events Transaction Handlers TenantWrites Footprint ReachableStates
open Coherence SuperAdminRequests Registers Races PendingDeletes
open ReadCommitted (Request Moves)
open ConcurrentCalls (waitsFor)

structure JobSound (registry : Registry) (now : Time) (job : Job) : Prop where
  engine : job.request.engine = engine Uuid job.request.kind.session
  named : ∀ stmt ∈ job.request.log, registry.Names stmt
  running : job.request.phase = .running → job.committedAt = none ∧
    (job.request.Keeps (lawful Uuid registry now job.request.kind.owner job.request.kind.session)
        (fun _ => Announcing job.request.kind.owner) job.emitted ∨
      job.request.Keeps (deleting Uuid) (fun _ => Announcing job.request.kind.owner) job.emitted)
  ordered : ∀ rest ∈ job.due, ∃ event, rest <:+ handle event
  whole : ∀ event ∈ job.emitted, ∀ deletion ∈ handle event, deletion ∈ job.handled ∨
    ∃ rest ∈ job.due, deletion ∈ rest

structure Sound (registry : Registry) (now : Time) (state : State) : Prop where
  filed : Filed registry state.world.db
  cache : CacheSound now state.world state.jobs
  checks : ∀ asking ∈ state.checks, CheckSound now state.world state.jobs asking
  jobs : ∀ job ∈ state.jobs, JobSound registry now job

section Steps
variable {registry : Registry} {now : Time} {waits : Write → Write → Prop} {world : World}
  {checks : List Asking}
  {jobs : List Job} {job : Job}
  {db' : Db}

theorem announcing_of_told {owner : Uuid} {events : List (Event Uuid)} {log : List Write}
    (told : AllAnnounced owner events log) :
    Announcing owner events log := fun write sent => .inr (told write sent)

/-- A request that begins. -/
theorem jobSound_submit {sender : Sender} (ids : Nat → Uuid) (admissible : sender.Admissible) :
    JobSound registry now { request := sender.request now ids } where
  engine := rfl
  named _ sent := absurd sent List.not_mem_nil
  running _ := by
    refine ⟨rfl, ?_⟩
    cases sender with
    | tenant env tenantId actorId operation =>
      by_cases deletes : Operation.Deletes operation
      · cases operation with
        | deleteCustomRole id =>
          refine .inr ⟨fun _ sent => absurd sent List.not_mem_nil,
            promises_mono (promises_deleteCustomRole id actorId rfl) ?_⟩
          exact fun _ _ _ told => announcing_of_told told
        | _ => exact deletes.elim
      · refine .inl ⟨fun _ sent => absurd sent List.not_mem_nil,
          promises_mono (vows_operation env actorId admissible deletes) ?_⟩
        exact fun _ _ _ told => announcing_of_told told
    | superAdmin env actorId operation => exact .inl ⟨fun _ sent => absurd sent List.not_mem_nil,
        promises_superAdmin env actorId operation⟩
    | purge => exact .inl ⟨fun _ sent => absurd sent List.not_mem_nil, promises_purge⟩
  ordered _ among := absurd among List.not_mem_nil
  whole _ emitted := absurd emitted List.not_mem_nil

/-- What a lawful request sees is filed. -/
theorem carried_sees {request : Request (effects Uuid) Db Sender}
    {post : Unit → List (Event Uuid) → List Write → Prop} {events : List (Event Uuid)} {own : Db}
    (engine : request.engine = engine Uuid request.kind.session)
    (named : ∀ stmt ∈ request.log, registry.Names stmt)
    (keeps : request.Keeps
      (lawful Uuid registry now request.kind.owner request.kind.session) post events)
    (filed : Filed registry world.db) (seen : request.sees world.db = some own) :
    Carried registry now request.kind.owner request.log world.db own := by
  unfold Request.sees at seen
  rw [engine] at seen
  exact carried_replay (fun write sent => ⟨keeps.sent write sent, named write sent⟩) filed seen

/-- A request that goes on, and with it the database. -/
theorem JobSound.act {others : List (Request (effects Uuid) Db Sender)}
    {request' : Request (effects Uuid) Db Sender} (sound : JobSound registry now job)
    (filed : Filed registry world.db) (moved : Moves waits others world.db job.request db' request')
    (silent : ∀ event next, job.request.program = .emit event next → request'.phase = .aborted)
    (named : ∀ stmt, request'.log = job.request.log ++ [stmt] → registry.Names stmt) :
    JobSound registry now { job with request := request' } := by
  have same : request'.kind = job.request.kind ∧ request'.engine = job.request.engine := by
    cases moved <;> exact ⟨rfl, rfl⟩
  have logged : ∀ stmt ∈ request'.log, registry.Names stmt := by
    cases moved with
    | written running program =>
      intro stmt sent
      rcases List.mem_append.mp sent with early | late
      · exact sound.named stmt early
      · rw [List.mem_singleton.mp late]
        exact named _ rfl
    | _ => exact sound.named
  refine ⟨?_, logged, fun running => ?_, sound.ordered, sound.whole⟩
  · rw [same.1, same.2]
    exact sound.engine
  · obtain ⟨open_, either⟩ := sound.running moved.running
    have quiet : ∀ event next, job.request.program ≠ .emit event next := by
      intro event next program
      rw [silent event next program] at running
      cases running
    refine ⟨open_, ?_⟩
    simp only [same.1]
    refine either.imp (fun keeps => moved.keeps keeps quiet ?_ running) fun keeps =>
      moved.keeps keeps quiet
      (fun _ _ => trivial) running
    intro own seen
    refine ⟨own, (carried_sees sound.engine sound.named keeps filed seen).filed, ?_⟩
    rw [sound.engine]
    rfl

theorem act_db {others : List (Request (effects Uuid) Db Sender)}
    {request' : Request (effects Uuid) Db Sender} (sound : JobSound registry now job)
    (moved : Moves waits others world.db job.request db' request')
    (going : request'.phase ≠ .committed) :
    db' = world.db ∨ ∃ userId, db' = world.db.deleteRefreshTokensOf userId := by
  cases moved with
  | detached running program free accepted =>
    obtain ⟨_, keeps | keeps⟩ := sound.running running
    · have ahead := keeps.ahead
      rw [program] at ahead
      obtain ⟨userId, revokes⟩ := ahead.1
      rw [sound.engine, revokes] at accepted
      have sent : send .bypassRls (.deleteRefreshTokensOf userId) world.db = .ok db' := accepted
      exact .inr ⟨userId, (Option.some.inj (send_ok sent)).symm⟩
    · have ahead := keeps.ahead
      rw [program] at ahead
      exact ahead.1.elim
  | commit => exact absurd rfl going
  | _ => exact .inl rfl

theorem JobSound.emit {event : Event Uuid} {next : Program (effects Uuid) Unit}
    (sound : JobSound registry now job) (running : job.request.phase = .running)
    (program : job.request.program = .emit event next) :
    JobSound registry now (job.emits event next) where
  engine := sound.engine
  named := sound.named
  running _ := by
    obtain ⟨open_, either⟩ := sound.running running
    refine ⟨open_, either.imp (fun keeps => ⟨keeps.sent, ?_⟩) fun keeps => ⟨keeps.sent, ?_⟩⟩
    · have ahead := keeps.ahead
      rw [program] at ahead
      exact ahead
    · have ahead := keeps.ahead
      rw [program] at ahead
      exact ahead
  ordered rest among := by
    rcases List.mem_append.mp among with old | new
    · exact sound.ordered rest old
    · rw [List.mem_singleton.mp new]
      exact ⟨event, List.suffix_rfl⟩
  whole other emitted deletion present := by
    rcases List.mem_append.mp emitted with old | new
    · rcases sound.whole other old deletion present with handled | ⟨rest, among, member⟩
      · exact .inl handled
      · exact .inr ⟨rest, List.mem_append_left _ among, member⟩
    · rw [List.mem_singleton.mp new] at present
      exact .inr ⟨_, List.mem_append_right _ List.mem_cons_self, present⟩

/-- What a request has done by the time it commits. -/
theorem JobSound.commit (sound : JobSound registry now job) (filed : Filed registry world.db)
    (running : job.request.phase = .running) (program : job.request.program = .pure ())
    (seen : job.request.sees world.db = some db') (inTime : InTime world checks job) :
    Carried registry now job.request.kind.owner job.request.log world.db db' ∧
    Announcing job.request.kind.owner job.emitted job.request.log ∧
      ∀ write ∈ job.request.log, Lawful registry now job.request.kind.owner write ∨
        ∃ row, write = .deleteRole row := by
  obtain ⟨_, keeps | keeps⟩ := sound.running running
  · have ahead := keeps.ahead
    rw [program] at ahead
    exact ⟨carried_sees sound.engine sound.named keeps filed seen, ahead, fun write sent =>
      .inl (keeps.sent write sent)⟩
  · have ahead := keeps.ahead
    rw [program] at ahead
    unfold Request.sees at seen
    rw [sound.engine] at seen
    exact ⟨carried_deletions keeps.sent inTime.unheld filed seen, ahead, fun write sent =>
      .inr (keeps.sent write sent)⟩

theorem JobSound.delete {earlier later : List (List (Invalidation Uuid))} {deletion : Invalidation Uuid}
    {rest : List (Invalidation Uuid)}
    (sound : JobSound registry now job) (due : job.due = earlier ++ (deletion :: rest) :: later) :
    JobSound registry now (job.deletes earlier deletion rest later) where
  engine := sound.engine
  named := sound.named
  running := sound.running
  ordered list among := by
    rcases Interleaving.System.mem_moved among with rfl | old
    · obtain ⟨event, suffix⟩ :=
        sound.ordered (deletion :: list) (by rw [due]; exact List.mem_append_right _ List.mem_cons_self)
      exact ⟨event, (List.suffix_cons deletion list).trans suffix⟩
    · exact sound.ordered list (by rw [due]; exact old)
  whole event emitted other present := by
    rcases sound.whole event emitted other present with handled | ⟨list, among, member⟩
    · exact .inl (List.mem_append_left _ handled)
    rw [due] at among
    rcases Interleaving.System.mem_moved among with rfl | old
    · rcases List.mem_cons.mp member with rfl | still
      · exact .inl (List.mem_append_right _ List.mem_cons_self)
      · exact .inr ⟨rest, List.mem_append_right _ List.mem_cons_self, still⟩
    · exact .inr ⟨list, old, member⟩

theorem checkSound_start (call : Call Uuid) : CheckSound now world jobs { point := call.start } := by
  refine checkSound_idle ?_ (fun about => ?_) fun about key owes => ?_
  · cases call with
    | authz dto => trivial
    | acl tenantId dto =>
      intro asker nobody
      cases nobody
  · cases about with
    | perms => exact Nat.zero_le _
    | acl => exact Nat.zero_le _
  · cases call with
    | authz dto => exact owes.elim
    | acl tenantId dto =>
      cases about with
      | perms =>
        obtain ⟨asker, nobody, _⟩ := owes
        cases nobody
      | acl => exact owes.elim

theorem Sound.follows {jobs' : List Job} (sound : Sound registry now ⟨world, checks, jobs⟩)
    (follows : Follows now world checks jobs db' jobs')
    {commits : Nat} (more : world.commits ≤ commits) (filed : Filed registry db')
    (sounds : ∀ job ∈ jobs', JobSound registry now job) :
    Sound registry now ⟨{ world with db := db', commits := commits }, checks, jobs'⟩ :=
  ⟨filed, sound.cache.follows follows more, fun asking member =>
    (sound.checks asking member).follows member follows more, sounds⟩

/-- A job in the place of another. -/
theorem jobSound_replace {before after : List Job} {job' : Job}
    (sounds : ∀ other ∈ before ++ job :: after, JobSound registry now other)
    (sound : JobSound registry now job') :
    ∀ other ∈ before ++ job' :: after, JobSound registry now other := by
  intro other member
  rcases Interleaving.System.mem_moved member with rfl | stays
  · exact sound
  · exact sounds other stays

/-- One careful step. -/
theorem Step.sound {state state' : State} (step : Step waits now (careful registry) state state')
    (sound : Sound registry now state) :
    Sound registry now state' := by
  have same : ∀ t u, SameReads now t u state.world.db state.world.db := fun t u => .refl now t u _
  cases step with
  | @ask world checks jobs call =>
    refine ⟨sound.filed, sound.cache, fun asking member => ?_, sound.jobs⟩
    rcases List.mem_append.mp member with old | new
    · exact sound.checks asking old
    · rw [List.mem_singleton.mp new]
      exact checkSound_start call
  | @submit world checks jobs sender ids admissible =>
    refine sound.follows (follows_due same (fun _ _ => rfl) ?_) le_rfl sound.filed fun job member => ?_
    · intro about since key holds
      obtain ⟨job, member, rest⟩ := holds
      exact ⟨job, List.mem_append_left _ member, rest⟩
    · rcases List.mem_append.mp member with old | new
      · exact sound.jobs job old
      · rw [List.mem_singleton.mp new]
        exact jobSound_submit ids admissible
  | @check world jobs asking before after =>
    have mine := sound.checks asking (List.mem_append_right _ List.mem_cons_self)
    have ordered : ∀ job ∈ jobs, ∀ rest ∈ job.due, ∃ event, rest <:+ handle event := fun job member =>
      (sound.jobs job member).ordered
    refine ⟨sound.filed, sound.cache.next mine, fun other member => ?_, sound.jobs⟩
    rcases Interleaving.System.mem_moved member with rfl | stays
    · exact (mine.next sound.cache ordered).elsewhere rfl rfl
    · exact (sound.checks other stays).elsewhere rfl rfl
  | @act world checks job db' request' before after moved going silent cleared =>
    have mine := sound.jobs job (List.mem_append_right _ List.mem_cons_self)
    have kept : ∀ {about since key}, Due (before ++ job :: after) about since key →
        Due (before ++ { job with request := request' } :: after) about since key :=
      fun due => due.replace fun commit committed => ⟨committed, fun rest among => among⟩
    have sounds := jobSound_replace sound.jobs (mine.act sound.filed moved silent cleared)
    rcases act_db mine moved going with rfl | ⟨userId, rfl⟩
    · exact sound.follows (follows_due same (fun _ _ => rfl) kept) le_rfl sound.filed sounds
    · have others : ∀ t u, SameReads now t u world.db (world.db.deleteRefreshTokensOf userId) := fun t u =>
        .of_sameRows (.of_tables rfl rfl rfl rfl)
      refine sound.follows (follows_due others (fun _ _ => rfl) kept) le_rfl ?_ sounds
      exact ⟨sound.filed.roles, sound.filed.assignments, sound.filed.overrides,
        sound.filed.mappings, sound.filed.acls⟩
  | @emit world checks job event next before after running program =>
    have mine := sound.jobs job (List.mem_append_right _ List.mem_cons_self)
    refine sound.follows (follows_due same (fun _ _ => rfl) fun due =>
      due.replace fun commit committed => ?_) le_rfl sound.filed
      (jobSound_replace sound.jobs ?_)
    · exact ⟨committed, fun rest among => List.mem_append_left _ among⟩
    · exact mine.emit running program
  | @commit world checks job db' before after running program seen inTime =>
    have mine := sound.jobs job (List.mem_append_right _ List.mem_cons_self)
    obtain ⟨carried, announcing, lawful⟩ := mine.commit sound.filed running program seen inTime
    refine sound.follows
      (follows_commit (mine.running running).1 mine.whole announcing lawful carried inTime)
      (Nat.le_succ _) carried.filed
      (jobSound_replace sound.jobs ⟨mine.engine, mine.named, ?_, mine.ordered, mine.whole⟩)
    intro impossible
    cases impossible
  | @delete world checks job earlier later deletion rest before after due upToDate =>
    have mine := sound.jobs job (List.mem_append_right _ List.mem_cons_self)
    exact ⟨sound.filed, sound.cache.delete due, fun asking member =>
      (sound.checks asking member).delete member due upToDate,
      jobSound_replace sound.jobs (mine.delete due)⟩
  | @forget world checks jobs gone =>
    exact ⟨sound.filed, sound.cache.forget gone, fun asking member =>
      (sound.checks asking member).elsewhere rfl rfl, sound.jobs⟩

theorem sound_start {db : Db} {cache : Cache CacheKey} (filed : Filed registry db)
    (coherent : Coherent tupleKeys db now cache) :
    Sound registry now ⟨{ db, cache }, [], []⟩ where
  filed := filed
  cache := by
    refine ⟨fun key => le_rfl, fun t u cached stored => ?_, fun t dto cached stored => ?_,
      fun dto cached stored => ?_⟩
    · obtain ⟨codes, is, right⟩ := (coherent _ cached stored).perms t u rfl
      exact ⟨codes, is, .inl right⟩
    · exact ⟨_, (coherent _ cached stored).acl t dto rfl, .inl rfl⟩
    · exact ⟨_, (coherent _ cached stored).authz dto rfl, .inl rfl⟩
  checks _ member := absurd member List.not_mem_nil
  jobs _ member := absurd member List.not_mem_nil

theorem Sound.coherent {state : State} (sound : Sound registry now state) (settled : Settled state) :
    Coherent tupleKeys state.world.db now state.world.cache := by
  have nothing : ∀ {about since key}, ¬Due state.jobs about since key := by
    intro about since key holds
    obtain ⟨job, member, _, _, _, rest, among, deletion, present, _⟩ := holds
    rw [(settled.jobs job member).2 rest among] at present
    cases present
  intro _ cached stored
  refine ⟨?_, ?_, ?_⟩
  · intro t u same
    obtain rfl := same
    obtain ⟨codes, is, right⟩ := sound.cache.perms t u cached stored
    exact ⟨codes, is, right.resolve_right nothing⟩
  · intro dto same
    obtain rfl := same
    obtain ⟨allowed, rfl, right⟩ := sound.cache.authz dto cached stored
    rw [right.resolve_right fun ⟨about, since, due⟩ => nothing due]
  · intro t dto same
    obtain rfl := same
    obtain ⟨allowed, rfl, right⟩ := sound.cache.acl t dto cached stored
    rw [right.resolve_right nothing]

theorem Reaches.sound {state state' : State} (run : Reaches waits now (careful registry) state state')
    (sound : Sound registry now state) :
    Sound registry now state' := by
  induction run with
  | refl => exact sound
  | tail _ step ih => exact Step.sound step ih

/-- Requests, checks and deletes in any careful order leave a cache that agrees with the
database once they are all done. -/
theorem settled_coherent {fresh : Registry} {db : Db} {cache : Cache CacheKey} {state : State}
    (reached : Reachable db) (coherent : Coherent tupleKeys db now cache)
    (run : Reaches waits now (careful (fresh.filing db)) ⟨{ db, cache }, [], []⟩ state)
    (settled : Settled state) : Coherent tupleKeys state.world.db now state.world.cache :=
  (Reaches.sound run (sound_start (filed_filing reached.consistent fresh) coherent)).coherent settled

end Steps

/-! Ada has been given access to a document, and it is taken away again. -/

section Example

def shared : Db := (sharing.serve (fun index => BitVec.ofNat 128 (index + 50)) 0 acmeTenant).db

theorem shared_reachable : Reachable shared :=
  .requested plainEnvironment _ 1 2 sharing_admissible
    (.tenantCreated plainEnvironment _ _ 9 (.empty .empty))

def unused : Registry :=
  ⟨fun _ => none, fun _ => (0, 0), fun _ => (0, 0), fun _ => 0, fun _ => ⟨0, 0, 0, "", "", ""⟩⟩

def revoking : Sender := .tenant plainEnvironment 1 2 (.deleteAcl 50)

def opening : CheckAuthzDto Uuid := ⟨2, 1, "doc:read", some "doc", some "7"⟩

/-- She opens it twice while it is taken from her: the first answer is stored between the
deletion of the entry and its commit. -/
def stored : State :=
  schedule waitsFor 0 ⟨{ db := shared }, [], []⟩
    (.ask (.authz opening) :: List.replicate 8 (.check 0) ++
    [.ask (.authz opening), .check 1, .submit revoking (fun index => BitVec.ofNat 128 (index + 60)),
      .act 0, .act 0, .check 0,
      .check 0, .act 0, .act 0])

/-- The entry of the access list is deleted before the commit, and looked up in vain. -/
def missed : State := schedule waitsFor 0 stored [.delete 0 0, .check 1, .check 1]

def revoked : State := schedule waitsFor 0 missed [.act 0, .check 1]

def overlapping : State := schedule waitsFor 0 revoked [.delete 0 0, .check 1, .check 1]

/-- When the request commits, nobody is about to store the entry of the access list again. -/
theorem inTime_missed : InTime missed.world missed.checks missed.jobs[0] := by
  have log : missed.jobs[0].request.log = [.deleteAcl ⟨50, 1, 2, "doc", "7", "doc:read"⟩] := by decide
  refine ⟨?_, ?_, ?_⟩
  · intro deletion handled key reaches
    have only : deletion ∈ [(.acl 1 ⟨2, "doc", "7", "doc:read"⟩ : Invalidation Uuid)] := handled
    rw [List.mem_singleton.mp only] at reaches ⊢
    have same : key = tupleKeys.acl (1 : Uuid) ⟨2, "doc", "7", "doc:read"⟩ := by
      simpa [Invalidation.reaches] using reaches
    refine ⟨?_, ?_⟩
    · rw [same]
      decide
    · intro asking member
      have both : asking ∈ [(⟨.done ⟨true, "acl"⟩, 0, 0⟩ : Asking),
        ⟨.countAcl (some opening) 1 ⟨2, "doc", "7", "doc:read"⟩, 0, 0⟩] := member
      simp only [List.mem_cons, List.not_mem_nil, or_false] at both
      rcases both with rfl | rfl
      · exact id
      · exact id
  · intro row sent
    rw [log] at sent
    cases List.mem_singleton.mp sent
  · intro row sent
    rw [log] at sent
    cases List.mem_singleton.mp sent

/-- When the decision is deleted, the second answer goes back to after the commit. -/
theorem upToDate_revoked :
    UpToDate revoked.checks revoked.jobs[0] (.authzDecision 1 2 "doc:read" "doc" "7") := by
  intro commit committed asking member key _ owes
  have both : asking ∈ [(⟨.done ⟨true, "acl"⟩, 0, 0⟩ : Asking),
    ⟨.writeAcl (some opening) 1 ⟨2, "doc", "7", "doc:read"⟩ false, 0, 1⟩] := member
  have first : some 1 = some commit := committed
  cases first
  simp only [List.mem_cons, List.not_mem_nil, or_false] at both
  rcases both with rfl | rfl
  · exact owes.elim
  · exact le_rfl

theorem settled_coherent_overlapping :
    Coherent tupleKeys overlapping.world.db 0 overlapping.world.cache ∧
    revoked.world.cache (tupleKeys.authz opening) = some (.decision true) ∧
      overlapping.world.cache (tupleKeys.authz opening) = some (.decision false) := by
  refine ⟨?_, by decide, by decide⟩
  have early : Reaches (fun stmt held => waitsFor stmt held = true) 0 (careful (unused.filing shared))
      ⟨{ db := shared }, [], []⟩ stored := by
    apply reaches_schedule
    exact ⟨trivial, trivial, trivial, trivial, trivial, trivial, trivial, trivial, trivial, trivial,
      trivial, trivial, trivial,
      trivial, trivial, trivial, trivial, trivial, trivial⟩
  have before : Reaches (fun stmt held => waitsFor stmt held = true) 0
      (careful (unused.filing shared)) stored missed := by
    apply reaches_schedule
    refine ⟨fun commit committed => ?_, trivial, trivial, trivial⟩
    have open_ : none = some commit := committed
    cases open_
  have done : Reaches (fun stmt held => waitsFor stmt held = true) 0
    (careful (unused.filing shared)) missed revoked :=
    reaches_schedule ⟨inTime_missed, trivial, trivial⟩
  have after : Reaches (fun stmt held => waitsFor stmt held = true) 0
    (careful (unused.filing shared)) revoked overlapping :=
    reaches_schedule ⟨upToDate_revoked, trivial, trivial, trivial⟩
  refine settled_coherent shared_reachable (Store.coherent_empty _)
    (((early.trans before).trans done).trans after) ⟨?_, ?_⟩
  · intro asking member
    have both : asking ∈ [(⟨.done ⟨true, "acl"⟩, 0, 0⟩ : Asking), ⟨.done ⟨false, "none"⟩, 0, 1⟩] := member
    simp only [List.mem_cons, List.not_mem_nil, or_false] at both
    rcases both with rfl | rfl
    · exact ⟨_, rfl⟩
    · exact ⟨_, rfl⟩
  · decide

def asked : List Turn := .ask (.authz opening) :: List.replicate 10 (.check 0)

def beforehand : List Turn :=
  .submit revoking (fun index => BitVec.ofNat 128 (index + 60)) :: List.replicate 4 (.act 0)

/-- The event is handled before the commit, and she opens the document in between. -/
def overtaken : State :=
  schedule waitsFor 0 ⟨{ db := shared }, [], []⟩
    (beforehand ++ [.delete 0 0, .delete 0 0] ++ asked ++ [.act 0])

/-- The decision is still there after the revocation. -/
theorem sometimes_stale : ¬NeverStale (fun stmt held => waitsFor stmt held = true) := by
  intro never
  have run : Reaches (fun stmt held => waitsFor stmt held = true) 0 anyhow ⟨{ db := shared },
    [], []⟩ overtaken :=
    reaches_schedule (clears_anyhow _ _)
  have settled : Settled overtaken := by
    refine ⟨fun asking member => ?_, by decide⟩
    have only : asking ∈ [(⟨.done ⟨true, "acl"⟩, 0, 0⟩ : Asking)] := member
    rw [List.mem_singleton.mp only]
    exact ⟨_, rfl⟩
  have stored : overtaken.world.cache (tupleKeys.authz opening) = some (.decision true) := by decide
  have refused : decision overtaken.world.db 0 opening = false := by decide
  have coherent : Coherent tupleKeys overtaken.world.db 0 overtaken.world.cache :=
    never 0 shared Store.empty overtaken shared_reachable (Store.coherent_empty _) run settled
  have right := (coherent _ _ stored).authz opening rfl
  rw [refused] at right
  cases right

end Example

end GenericIam.SettledCaches
