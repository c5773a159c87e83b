import Lakehouse.Compactor.CycleAccounts
import Lakehouse.Compactor.LockCustody

/-!
# The locks and the session of a cycle

A cycle among other workers, whose whole operations happen between its calls.  The cycle holds at
most one lock and one session at a time and gives both back however it ends; on this protocol rests
the invariant which says what the cycle leaves in the store.
-/

namespace Lakehouse

open Foundation

/-! ## What a cycle holds -/

/-- The session of a cycle. -/
inductive SessionState
  | absent
  | running
  | stopped
  deriving DecidableEq

/-- How many sessions were created, and how many were stopped. -/
def SessionState.counts : SessionState → Nat × Nat
  | .absent => (0, 0)
  | .running => (1, 0)
  | .stopped => (1, 1)

/-- The partition whose lock a cycle has, and its session. -/
structure Holdings where
  locked : Option String := none
  session : SessionState := .absent

namespace Holdings

/-- One lock at a time, released by its own name; one session, stopped once. -/
def permits (held : Holdings) : CycleCall → Prop
  | .acquire _ _ => held.locked = none
  | .release partitionId => held.locked = some partitionId
  | .createSparkSession => held.session = .absent
  | .stopSparkSession => held.session = .running
  | _ => True

def after (held : Holdings) : (request : CycleCall) → CycleReply request → Holdings
  | .acquire partitionId _, .ok true => { held with locked := some partitionId }
  | .release _, _ => { held with locked := none }
  | .createSparkSession, .ok () => { held with session := .running }
  | .stopSparkSession, _ => { held with session := .stopped }
  | _, _ => held

theorem after_acquire_of_ne {held : Holdings} {partitionId runId : String}
    {reply : Except PyException Bool} (refused : reply ≠ .ok true) :
    held.after (.acquire partitionId runId) reply = held := by
  rcases reply with exc | (_ | _)
  · rfl
  · rfl
  · exact absurd rfl refused

/-- Nothing is locked, and no session is running. -/
def IsReleased (held : Holdings) : Prop :=
  held.locked = none ∧ held.session ≠ .running

end Holdings

def holdingsProtocol : Program.Protocol CycleCall CycleReply Holdings where
  permits := Holdings.permits
  next := Holdings.after

/-- Every way in which the program ends leaves nothing held. -/
abbrev Releases (program : CycleProgram CompactionRunMetrics) (held : Holdings) : Prop :=
  program.FollowsTo holdingsProtocol (fun _ last => last.IsReleased) held

theorem releases_finalizeRun_bind {metrics : CompactionRunMetrics} {held : Holdings}
    {next : CompactionRunMetrics → CycleProgram CompactionRunMetrics}
    (last : ∀ complete, Releases (next complete) held) :
    Releases (finalizeRun metrics >>= next) held :=
  ⟨trivial, fun _ => ⟨trivial, fun _ => last _⟩⟩

theorem releases_finalizeRun {metrics : CompactionRunMetrics} {held : Holdings}
    (released : held.IsReleased) : Releases (finalizeRun metrics) held := by
  rw [← Program.bind_done (finalizeRun metrics)]
  exact releases_finalizeRun_bind fun complete => released

/-- The outer handlers stop a session exactly if they are told that it is running. -/
theorem releases_handleFailure (metrics : CompactionRunMetrics) (exc : PyException)
    (sparkStarted : Bool) :
    Releases (handleFailure metrics exc sparkStarted)
      { session := if sparkStarted then .running else .absent } := by
  apply releases_finalizeRun_bind
  intro complete
  cases sparkStarted <;> cases exc.isCompactionError <;>
    simp [Releases, ask, Program.perform, Program.followsTo_call, holdingsProtocol,
      Holdings.permits, Holdings.after, Holdings.IsReleased]

theorem releases_afterLoop (result : CompactionRunMetrics × Option PyException) :
    Releases (afterLoop result) { session := .running } := by
  obtain ⟨metrics, ends⟩ := result
  cases ends with
  | some exc => exact releases_handleFailure metrics exc true
  | none =>
      apply releases_finalizeRun_bind
      intro complete
      exact ⟨rfl, fun _ => ⟨rfl, by simp [holdingsProtocol, Holdings.after]⟩⟩

/-- The loop holds one lock at a time and gives it back before it goes on or ends. -/
theorem releases_compactEach (runId : String) (parts : List PartitionStats)
    (metrics : CompactionRunMetrics) :
    Releases (compactEach runId parts metrics >>= afterLoop) { session := .running } := by
  induction parts generalizing metrics with
  | nil => exact releases_afterLoop (metrics, none)
  | cons stats rest ih =>
      rw [compactEach, Program.bind_assoc, compactOne]
      split
      · exact ih metrics.skipEmpty
      · refine ⟨rfl, fun reply => ?_⟩
        rcases reply with exc | (_ | _)
        · exact releases_afterLoop (metrics, some exc)
        · exact ih _
        · refine ⟨trivial, fun outcome => ⟨rfl, fun released => ?_⟩⟩
          cases released with
          | error exc =>
              exact releases_afterLoop
                ((metrics.addBefore stats).recordOutcome stats outcome, some exc)
          | ok done => exact ih _

theorem releases_compactEligible (runId : String) (eligible : List PartitionStats)
    (skippedCount : Nat) (metrics : CompactionRunMetrics) :
    Releases (compactEligible runId eligible skippedCount metrics) {} := by
  have released : ({} : Holdings).IsReleased := ⟨rfl, by simp⟩
  rw [compactEligible]
  split
  · exact releases_finalizeRun released
  · refine ⟨rfl, fun reply => ?_⟩
    cases reply with
    | ok done => exact releases_compactEach runId eligible _
    | error exc =>
        show Releases (afterSession runId eligible _ (.error exc)) _
        rw [afterSession]
        split
        · exact releases_finalizeRun released
        · exact releases_handleFailure _ exc false

/-- However a cycle ends, it holds nothing then. -/
theorem releases_runCompactionCycle (config : CompactionConfig) (targetPartition : Option String)
    (runId : String) (started : Int) :
    Releases (runCompactionCycle config targetPartition runId started) {} := by
  have released : ({} : Holdings).IsReleased := ⟨rfl, by simp⟩
  refine ⟨trivial, fun verified => ?_⟩
  cases verified with
  | error exc =>
      show Releases (afterVerify config targetPartition runId _ (.error exc)) _
      rw [afterVerify]
      split
      · exact releases_finalizeRun released
      · exact released
  | ok found =>
      refine ⟨trivial, fun scanned => ?_⟩
      cases scanned with
      | error exc => exact releases_handleFailure _ exc false
      | ok partitions =>
          show Releases (afterScan config targetPartition runId _ (.ok partitions)) _
          simp only [afterScan]
          split
          · split
            · exact releases_finalizeRun released
            · exact releases_compactEligible runId _ 0 _
          · exact ⟨trivial, fun clock => releases_compactEligible runId _ _ _⟩

/-! ## A cycle among other workers -/

/-- What surrounds the cycle of a manager, by the number of its earlier calls.  The storage calls of
a `release` do not fail. -/
structure Surroundings (manager : LockManager) where
  /-- Whole operations of other workers, which happen before the call. -/
  others : Nat → List (ForeignOperation manager.ownerId)
  clock : Nat → Int
  /-- What fails if the call is an `acquire`. -/
  failures : Nat → AcquireFaults
  /-- The replies to calls which are not about locks. -/
  reply : Nat → (request : CycleCall) → CycleReply request

/-- The stored locks, and what the cycle has done. -/
structure CycleWorld where
  bucket : Bucket
  calls : Nat := 0
  /-- The partitions whose lock was requested. -/
  attempted : List String := []
  /-- The records which the cycle has deleted or overwritten. -/
  replaced : List ReplacedRecord := []
  /-- Number of sessions created. -/
  created : Nat := 0
  /-- Number of sessions stopped. -/
  stopped : Nat := 0

namespace Surroundings

variable {manager : LockManager} (surroundings : Surroundings manager)

/-- The stored locks after whole operations of other workers. -/
def interfere (operations : List (ForeignOperation manager.ownerId)) (bucket : Bucket) : Bucket :=
  operations.foldl (fun bucket operation => operation.run bucket) bucket

/-- The world when a call is made: other workers come first. -/
def enter (world : CycleWorld) : CycleWorld :=
  { world with
    calls := world.calls + 1
    bucket := interfere (surroundings.others world.calls) world.bucket }

def handle : (request : CycleCall) → CycleWorld → CycleReply request × CycleWorld
  | .acquire partitionId runId, world =>
      let entered := surroundings.enter world
      let result := (manager.acquire partitionId none (some runId)).runWith
        (serveFailing (surroundings.clock world.calls) (surroundings.failures world.calls).faults)
        { bucket := entered.bucket, replaced := entered.replaced }
      (result.1,
        { entered with
          bucket := result.2.bucket
          replaced := result.2.replaced
          attempted := entered.attempted ++ [partitionId] })
  | .release partitionId, world =>
      let entered := surroundings.enter world
      let result := (manager.release partitionId).runWith
        (serveFailing (surroundings.clock world.calls) noFaults)
        { bucket := entered.bucket, replaced := entered.replaced }
      (result.1, { entered with bucket := result.2.bucket, replaced := result.2.replaced })
  | .createSparkSession, world =>
      let entered := surroundings.enter world
      match surroundings.reply world.calls .createSparkSession with
      | .ok () => (.ok (), { entered with created := entered.created + 1 })
      | .error exc => (.error exc, entered)
  | .stopSparkSession, world =>
      let entered := surroundings.enter world
      ((), { entered with stopped := entered.stopped + 1 })
  | request, world => (surroundings.reply world.calls request, surroundings.enter world)

/-- Run the cycle of the manager on the given locks: how it ends, and the world then. -/
def runCycle (targetPartition : Option String) (started : Int) (bucket : Bucket) :
    Except PyException CompactionRunMetrics × CycleWorld :=
  (runCompactionCycle manager.config targetPartition manager.runId started).runWith
    surroundings.handle { bucket }

/-! ## The invariant -/

/-- The world of a cycle which holds something: its only lock is that of the partition, what it
has replaced it has replaced rightly, and its sessions are counted. -/
structure Tracks (manager : LockManager) (held : Holdings) (world : CycleWorld) : Prop where
  owned : ∀ key, manager.Owns world.bucket key →
    ∃ partitionId, held.locked = some partitionId ∧ key = manager.storagePath partitionId
  locked : ∀ partitionId, held.locked = some partitionId → partitionId ∈ world.attempted
  replaced : ∀ record ∈ world.replaced, manager.RightlyReplaced world.attempted record
  session : (world.created, world.stopped) = held.session.counts

variable {surroundings} {held : Holdings} {world : CycleWorld}

/-- Other workers store no lock of the manager. -/
theorem owns_interfere {operations : List (ForeignOperation manager.ownerId)} {bucket : Bucket}
    {key : String} (owns : manager.Owns (interfere operations bucket) key) :
    manager.Owns bucket key := by
  induction operations generalizing bucket with
  | nil => exact owns
  | cons operation rest ih =>
      obtain ⟨lock, stored, own⟩ := ih owns
      exact ⟨lock, ForeignOperation.lock_before stored own, own⟩

theorem tracks_enter (tracks : Tracks manager held world) :
    Tracks manager held (surroundings.enter world) where
  owned := fun key owns => tracks.owned key (owns_interfere owns)
  locked := tracks.locked
  replaced := tracks.replaced
  session := tracks.session

theorem tracks_acquire {partitionId runId : String} (free : held.locked = none)
    (tracks : Tracks manager held world) :
    Tracks manager
      (held.after (.acquire partitionId runId)
        (surroundings.handle (.acquire partitionId runId) world).1)
      (surroundings.handle (.acquire partitionId runId) world).2 := by
  have entered : Tracks manager held (surroundings.enter world) := tracks_enter tracks
  have more : ∀ attempted ∈ world.attempted, attempted ∈ world.attempted ++ [partitionId] :=
    fun attempted member => List.mem_append_left _ member
  have none_owned : ∀ key, ¬manager.Owns (surroundings.enter world).bucket key := by
    intro key owns
    obtain ⟨other, locked, -⟩ := entered.owned key owns
    simp [free] at locked
  rcases run : (manager.acquire partitionId none (some runId)).runWith
      (serveFailing (surroundings.clock world.calls) (surroundings.failures world.calls).faults)
      { bucket := (surroundings.enter world).bucket
        replaced := (surroundings.enter world).replaced } with ⟨outcome, later⟩
  obtain ⟨owned, replaced⟩ := LockManager.acquire_leaves (surroundings.failures world.calls)
    (List.mem_append_right world.attempted (List.mem_singleton_self partitionId)) (some runId)
    (surroundings.clock world.calls) none_owned
    (fun record member => (entered.replaced record member).mono more) run
  simp only [handle, run]
  by_cases granted : outcome = .ok true
  · subst granted
    exact ⟨fun key owns => ⟨partitionId, rfl, (owned key owns).1⟩, by simp [Holdings.after],
      replaced, entered.session⟩
  · rw [Holdings.after_acquire_of_ne granted]
    exact ⟨fun key owns => absurd (owned key owns).2 granted, by simp [free], replaced,
      entered.session⟩

theorem tracks_release {partitionId : String} (locked : held.locked = some partitionId)
    (tracks : Tracks manager held world) :
    Tracks manager
      (held.after (.release partitionId) (surroundings.handle (.release partitionId) world).1)
      (surroundings.handle (.release partitionId) world).2 := by
  have entered : Tracks manager held (surroundings.enter world) := tracks_enter tracks
  have only_owned : ∀ key, manager.Owns (surroundings.enter world).bucket key →
      key = manager.storagePath partitionId := by
    intro key owns
    obtain ⟨other, other_locked, rfl⟩ := entered.owned key owns
    rw [Option.some.inj (other_locked.symm.trans locked)]
  rcases run : (manager.release partitionId).runWith
      (serveFailing (surroundings.clock world.calls) noFaults)
      { bucket := (surroundings.enter world).bucket
        replaced := (surroundings.enter world).replaced } with ⟨outcome, later⟩
  obtain ⟨none_owned, replaced⟩ := LockManager.release_leaves (entered.locked partitionId locked)
    (surroundings.clock world.calls) only_owned entered.replaced run
  simp only [handle, run]
  exact ⟨fun key owns => absurd owns (none_owned key), by simp [Holdings.after], replaced,
    entered.session⟩

/-- Every permitted call keeps the invariant. -/
theorem tracks_handle (held : Holdings) (request : CycleCall) (world : CycleWorld)
    (permitted : holdingsProtocol.permits held request) (tracks : Tracks manager held world) :
    Tracks manager (holdingsProtocol.next held request (surroundings.handle request world).1)
      (surroundings.handle request world).2 := by
  have entered : Tracks manager held (surroundings.enter world) := tracks_enter tracks
  cases request with
  | acquire partitionId runId => exact tracks_acquire permitted tracks
  | release partitionId => exact tracks_release permitted tracks
  | createSparkSession =>
      have absent : held.session = .absent := permitted
      have counted := entered.session
      rw [absent] at counted
      simp only [handle]
      cases surroundings.reply world.calls .createSparkSession with
      | error exc => exact entered
      | ok done =>
          refine ⟨entered.owned, entered.locked, entered.replaced, ?_⟩
          obtain ⟨created, stopped⟩ := Prod.mk.inj counted
          simp [holdingsProtocol, Holdings.after, SessionState.counts, created, stopped]
  | stopSparkSession =>
      have running : held.session = .running := permitted
      have counted := entered.session
      rw [running] at counted
      refine ⟨entered.owned, entered.locked, entered.replaced, ?_⟩
      obtain ⟨created, stopped⟩ := Prod.mk.inj counted
      simp [handle, holdingsProtocol, Holdings.after, SessionState.counts, created, stopped]
  | _ => exact entered

/-- However a cycle ends, it leaves no lock of its own, it has replaced only its own locks and
stale ones of partitions which it has attempted, and it has stopped the session which it has
created, once. -/
theorem runCycle_leaves_nothing (surroundings : Surroundings manager)
    (targetPartition : Option String) (started : Int) {bucket : Bucket}
    (none_owned : ∀ key, ¬manager.Owns bucket key) :
    (∀ key, ¬manager.Owns (surroundings.runCycle targetPartition started bucket).2.bucket key) ∧
      (∀ record ∈ (surroundings.runCycle targetPartition started bucket).2.replaced,
        manager.RightlyReplaced
          (surroundings.runCycle targetPartition started bucket).2.attempted record) ∧
      (surroundings.runCycle targetPartition started bucket).2.stopped =
        (surroundings.runCycle targetPartition started bucket).2.created ∧
      (surroundings.runCycle targetPartition started bucket).2.created ≤ 1 := by
  have start : Tracks manager {} { bucket } :=
    ⟨fun key owns => absurd owns (none_owned key), by simp, by simp, rfl⟩
  obtain ⟨last, tracks, unlocked, session⟩ := Program.runWith_followsTo surroundings.handle
    (releases_runCompactionCycle manager.config targetPartition manager.runId started)
    tracks_handle start
  refine ⟨fun key owns => ?_, tracks.replaced, ?_⟩
  · obtain ⟨partitionId, locked, -⟩ := tracks.owned key owns
    simp [unlocked] at locked
  · have counted := tracks.session
    cases ends : last.session with
    | running => exact absurd ends session
    | absent =>
        rw [ends] at counted
        obtain ⟨created, stopped⟩ := Prod.mk.inj counted
        exact ⟨stopped.trans created.symm, le_of_eq_of_le created (Nat.zero_le 1)⟩
    | stopped =>
        rw [ends] at counted
        obtain ⟨created, stopped⟩ := Prod.mk.inj counted
        exact ⟨stopped.trans created.symm, le_of_eq created⟩

/-! ### A lease which is taken over -/

open CycleReplies (eagerConfig hourStats)

/-- The worker which runs the cycle. -/
def firstWorker : LockManager where
  config := eagerConfig
  ownerId := "worker-1"
  runId := "run-1"

/-- A lock which another worker has left on the first hour. -/
def abandonedLock : CompactionLock where
  partitionId := (hourStats 10).partitionId
  ownerId := "worker-3"
  acquiredAt := .ok 0
  expiresAt := .ok (hours 1)
  runId := "run-0"

/-- The first hour is locked by a worker which is gone. -/
def abandonedBucket : Bucket :=
  Function.update (fun _ => none) (firstWorker.storagePath (hourStats 10).partitionId)
    (some abandonedLock.toJson)

/-- While the first hour is compacted, its lease expires and another worker takes it over. -/
def takeover : ForeignOperation firstWorker.ownerId where
  manager := { config := eagerConfig, ownerId := "worker-2" }
  foreign := by decide
  op := .acquire (hourStats 10).partitionId none
  now := none
  clock := hours 8
  faults := noFaults

/-- The cycle requests its first lock with its fifth call, and releases it with the seventh. -/
def takeoverSurroundings : Surroundings firstWorker where
  others call := if call = 6 then [takeover] else []
  clock _ := hours 5
  failures _ := ⟨noFaults, by simp [noFaults], by simp [noFaults]⟩
  reply _ request := (CycleReplies.secondEmpty.handle request {}).1

theorem abandonedBucket_unowned (key : String) : ¬firstWorker.Owns abandonedBucket key := by
  rintro ⟨lock, stored, own⟩
  by_cases same : key = firstWorker.storagePath (hourStats 10).partitionId
  · subst same
    rw [abandonedBucket, Bucket.lock_of_stored (Function.update_self _ _ _)] at stored
    obtain rfl := Option.some.inj (Except.ok.inj stored)
    exact absurd own (by decide)
  · rw [abandonedBucket, Bucket.lock_of_absent (Function.update_of_ne same _ _)] at stored
    simp at stored

theorem takeover_leaves_nothing :
    (∀ key, ¬firstWorker.Owns
        (takeoverSurroundings.runCycle none 0 abandonedBucket).2.bucket key) ∧
      (takeoverSurroundings.runCycle none 0 abandonedBucket).2.replaced.length = 2 ∧
      (takeoverSurroundings.runCycle none 0 abandonedBucket).2.stopped = 1 := by
  obtain ⟨none_owned, -, stopped, -⟩ :=
    runCycle_leaves_nothing takeoverSurroundings none 0 abandonedBucket_unowned
  refine ⟨none_owned, by decide +kernel, stopped.trans (by decide +kernel)⟩

end Surroundings

end Lakehouse
