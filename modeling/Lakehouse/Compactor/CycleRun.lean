import Lakehouse.Compactor.CompactionDaemon

/-!
# Runs of the compaction cycle

A run of the cycle against arbitrary replies.  The replies to the calls about one partition are
indexed by its turn, the number of locks requested before it; the log keeps every call with its
turn.  One iteration of the partition loop is `runWith_compactOne`, and the loop is described by
`loopCalls` and `loopMetrics`, from which the claims about whole runs are read off.
-/

namespace Lakehouse

open Foundation

/-- What the calls of one cycle return or raise. -/
structure CycleReplies where
  verifyDeltaTableExists : Except PyException Unit
  scanPartitions : Except PyException (List PartitionStats)
  selectionClock : Nat → Int
  createSparkSession : Except PyException Unit
  acquire : Nat → Except PyException Bool
  compactPartition : Nat → (stats : PartitionStats) → Except PyException (CompactionOf stats)
  release : Nat → Except PyException Unit
  now : Int

/-- The calls made so far, each with the turn it belongs to. -/
structure CycleLog where
  /-- Number of locks requested so far. -/
  turn : Nat := 0
  calls : List (Nat × CycleCall) := []

namespace CycleLog

/-- The summary lines which a run has appended to the metrics file. -/
def summaries (log : CycleLog) : List CompactionRunMetrics :=
  log.calls.filterMap fun
    | (_, .writeRunSummary metrics) => some metrics
    | _ => none

def add (log : CycleLog) (turn : Nat) (request : CycleCall) : CycleLog :=
  { log with calls := log.calls ++ [(turn, request)] }

end CycleLog

namespace CycleReplies

variable (replies : CycleReplies)

/-- Answer a call from the replies and log it. -/
def handle : (request : CycleCall) → CycleLog → CycleReply request × CycleLog
  | .verifyDeltaTableExists, log =>
      (replies.verifyDeltaTableExists, log.add log.turn .verifyDeltaTableExists)
  | .scanPartitions, log => (replies.scanPartitions, log.add log.turn .scanPartitions)
  | .selectionClock, log => (replies.selectionClock, log.add log.turn .selectionClock)
  | .createSparkSession, log => (replies.createSparkSession, log.add log.turn .createSparkSession)
  | .acquire partitionId runId, log =>
      (replies.acquire log.turn,
        { log.add log.turn (.acquire partitionId runId) with turn := log.turn + 1 })
  | .compactPartition stats, log =>
      (replies.compactPartition (log.turn - 1) stats,
        log.add (log.turn - 1) (.compactPartition stats))
  | .release partitionId, log =>
      (replies.release (log.turn - 1), log.add (log.turn - 1) (.release partitionId))
  | .now, log => (replies.now, log.add log.turn .now)
  | .writeRunSummary metrics, log => ((), log.add log.turn (.writeRunSummary metrics))
  | .stopSparkSession, log => ((), log.add log.turn .stopSparkSession)

/-- Run a cycle from its start: how it ends, and the log of its calls. -/
def runCycle (config : CompactionConfig) (targetPartition : Option String) (runId : String)
    (started : Int) : Except PyException CompactionRunMetrics × CycleLog :=
  (runCompactionCycle config targetPartition runId started).runWith replies.handle {}

/-! ## One iteration of the partition loop -/

/-- The exception which leaves the iteration of a turn. -/
def escaped (turn : Nat) : Option PyException :=
  match replies.acquire turn with
  | .error exc => some exc
  | .ok false => none
  | .ok true =>
      match replies.release turn with
      | .error exc => some exc
      | .ok () => none

/-- The metrics after the iteration of a turn. -/
def turnMetrics (turn : Nat) (stats : PartitionStats) (metrics : CompactionRunMetrics) :
    CompactionRunMetrics :=
  match replies.acquire turn with
  | .error _ => metrics
  | .ok false => metrics.recordLockConflict stats
  | .ok true =>
      (metrics.addBefore stats).recordOutcome stats (replies.compactPartition turn stats)

/-- The calls of the iteration of a turn. -/
def turnCalls (runId : String) (turn : Nat) (stats : PartitionStats) : List (Nat × CycleCall) :=
  (turn, .acquire stats.partitionId runId) ::
    match replies.acquire turn with
    | .ok true => [(turn, .compactPartition stats), (turn, .release stats.partitionId)]
    | _ => []

theorem runWith_compactOne_empty {stats : PartitionStats} (empty : stats.fileCount = 0)
    (runId : String) (metrics : CompactionRunMetrics) (log : CycleLog) :
    (compactOne runId stats metrics).runWith replies.handle log =
      (.ok (metrics.skipEmpty, none), log) := by
  simp [compactOne, empty]

/-- An iteration never raises: what escapes from it is part of its value. -/
theorem runWith_compactOne {stats : PartitionStats} (nonempty : stats.fileCount ≠ 0)
    (runId : String) (metrics : CompactionRunMetrics) (log : CycleLog) :
    (compactOne runId stats metrics).runWith replies.handle log =
      (.ok (replies.turnMetrics log.turn stats metrics, replies.escaped log.turn),
        { turn := log.turn + 1
          calls := log.calls ++ replies.turnCalls runId log.turn stats }) := by
  simp only [compactOne, nonempty, if_false, ask, Program.perform_bind, Program.runWith_call,
    handle]
  unfold turnMetrics escaped turnCalls afterAcquire
  cases replies.acquire log.turn with
  | error exc => simp [CycleLog.add]
  | ok granted =>
      cases granted with
      | false => simp [CycleLog.add]
      | true =>
          simp only [ask, afterCompact, Program.perform_bind, Program.runWith_call, handle]
          cases released : replies.release log.turn with
          | error exc => simp [CycleLog.add, afterRelease, released]
          | ok done => simp [CycleLog.add, afterRelease, released]

/-! ## The partition loop -/

/-- The calls of the loop from a turn on; an escaping exception ends it. -/
def loopCalls (runId : String) : Nat → List PartitionStats → List (Nat × CycleCall)
  | _, [] => []
  | turn, stats :: rest =>
      if stats.fileCount = 0 then
        loopCalls runId turn rest
      else
        replies.turnCalls runId turn stats ++
          if (replies.escaped turn).isSome then [] else loopCalls runId (turn + 1) rest

/-- The metrics after the loop, and the exception which ended it. -/
def loopMetrics : Nat → List PartitionStats → CompactionRunMetrics →
    CompactionRunMetrics × Option PyException
  | _, [], metrics => (metrics, none)
  | turn, stats :: rest, metrics =>
      if stats.fileCount = 0 then
        loopMetrics turn rest metrics.skipEmpty
      else
        match replies.escaped turn with
        | some exc => (replies.turnMetrics turn stats metrics, some exc)
        | none => loopMetrics (turn + 1) rest (replies.turnMetrics turn stats metrics)

/-- The loop returns whatever happens in it. -/
theorem runWith_compactEach (runId : String) (parts : List PartitionStats)
    (metrics : CompactionRunMetrics) (log : CycleLog) :
    ∃ turn, (compactEach runId parts metrics).runWith replies.handle log =
      (.ok (replies.loopMetrics log.turn parts metrics),
        { turn, calls := log.calls ++ replies.loopCalls runId log.turn parts }) := by
  induction parts generalizing metrics log with
  | nil => exact ⟨log.turn, by simp [compactEach, loopMetrics, loopCalls]⟩
  | cons stats rest ih =>
      by_cases empty : stats.fileCount = 0
      · obtain ⟨turn, run⟩ := ih metrics.skipEmpty log
        refine ⟨turn, ?_⟩
        rw [compactEach, Program.runWith_bind_of_ok replies.handle
          (replies.runWith_compactOne_empty empty runId metrics log)]
        simpa [loopMetrics, loopCalls, empty] using run
      · have first := replies.runWith_compactOne empty runId metrics log
        cases ends : replies.escaped log.turn with
        | some exc =>
            refine ⟨log.turn + 1, ?_⟩
            rw [compactEach, Program.runWith_bind_of_ok replies.handle first]
            simp [loopMetrics, loopCalls, empty, ends]
        | none =>
            obtain ⟨turn, run⟩ := ih (replies.turnMetrics log.turn stats metrics)
              { turn := log.turn + 1
                calls := log.calls ++ replies.turnCalls runId log.turn stats }
            refine ⟨turn, ?_⟩
            rw [compactEach, Program.runWith_bind_of_ok replies.handle first]
            simpa [loopMetrics, loopCalls, empty, ends] using run

/-! ## Summary lines -/

theorem summaries_loop (runId : String) (turn final : Nat) (parts : List PartitionStats)
    (log : CycleLog) :
    CycleLog.summaries { turn := final, calls := log.calls ++ replies.loopCalls runId turn parts } =
      log.summaries := by
  have none_in_turn : ∀ (turn : Nat) (stats : PartitionStats),
      CycleLog.summaries { turn := final, calls := replies.turnCalls runId turn stats } = [] := by
    intro turn stats
    simp only [turnCalls]
    split <;> simp [CycleLog.summaries]
  have none_in_loop : CycleLog.summaries
      { turn := final, calls := replies.loopCalls runId turn parts } = [] := by
    induction parts generalizing turn with
    | nil => rfl
    | cons stats rest ih =>
        have first := none_in_turn turn stats
        have later := ih (turn + 1)
        simp only [CycleLog.summaries, loopCalls] at first later ih ⊢
        split
        · exact ih turn
        · split <;> simp [first, later]
  simpa [CycleLog.summaries] using none_in_loop

theorem summaries_finalizeRun (metrics : CompactionRunMetrics) (log : CycleLog) :
    ((finalizeRun metrics).runWith replies.handle log).2.summaries =
      log.summaries ++ [metrics.markComplete replies.now] := by
  simp [finalizeRun, ask, handle, CycleLog.add, CycleLog.summaries]

theorem summaries_handleFailure (metrics : CompactionRunMetrics) (exc : PyException)
    (sparkStarted : Bool) (log : CycleLog) :
    ((handleFailure metrics exc sparkStarted).runWith replies.handle log).2.summaries =
      log.summaries ++
        [{ metrics with error := some exc.message }.markComplete replies.now] := by
  cases sparkStarted <;> cases kind : exc.isCompactionError <;>
    simp [handleFailure, finalizeRun, ask, handle, CycleLog.add, CycleLog.summaries, kind]

theorem summaries_afterLoop (result : CompactionRunMetrics × Option PyException)
    (log : CycleLog) :
    ((afterLoop result).runWith replies.handle log).2.summaries.length =
      log.summaries.length + 1 := by
  obtain ⟨metrics, ends⟩ := result
  cases ends with
  | some exc => simp [afterLoop, summaries_handleFailure]
  | none => simp [afterLoop, finalizeRun, ask, handle, CycleLog.add, CycleLog.summaries]

theorem summaries_afterSession (runId : String) (eligible : List PartitionStats)
    (metrics : CompactionRunMetrics) (reply : Except PyException Unit) (log : CycleLog) :
    ((afterSession runId eligible metrics reply).runWith replies.handle log).2.summaries.length =
      log.summaries.length + 1 := by
  cases reply with
  | error exc =>
      simp only [afterSession]
      split
      · simp [summaries_finalizeRun]
      · simp [summaries_handleFailure]
  | ok started =>
      obtain ⟨turn, loop⟩ := replies.runWith_compactEach runId eligible metrics log
      simp only [afterSession, Program.runWith_bind_of_ok replies.handle loop, summaries_afterLoop,
        summaries_loop]

theorem summaries_compactEligible (runId : String) (eligible : List PartitionStats)
    (skippedCount : Nat) (metrics : CompactionRunMetrics) (log : CycleLog) :
    ((compactEligible runId eligible skippedCount metrics).runWith
        replies.handle log).2.summaries.length = log.summaries.length + 1 := by
  simp only [compactEligible]
  split
  · simp [summaries_finalizeRun]
  · simp only [ask, Program.perform_bind, Program.runWith_call, summaries_afterSession]
    simp [handle, CycleLog.add, CycleLog.summaries]

theorem summaries_afterScan (config : CompactionConfig) (targetPartition : Option String)
    (runId : String) (metrics : CompactionRunMetrics)
    (reply : Except PyException (List PartitionStats)) (log : CycleLog) :
    ((afterScan config targetPartition runId metrics reply).runWith
        replies.handle log).2.summaries.length = log.summaries.length + 1 := by
  cases reply with
  | error exc => simp [afterScan, summaries_handleFailure]
  | ok allPartitions =>
      simp only [afterScan]
      split
      · split
        · simp [summaries_finalizeRun]
        · exact replies.summaries_compactEligible _ _ _ _ _
      · simp only [ask, Program.perform_bind, Program.runWith_call, summaries_compactEligible]
        simp [handle, CycleLog.add, CycleLog.summaries]

/-- A cycle appends exactly one summary line unless the table check raises something other than
`TableNotFoundError`. -/
theorem runCycle_one_summary_iff (config : CompactionConfig) (targetPartition : Option String)
    (runId : String) (started : Int) :
    (replies.runCycle config targetPartition runId started).2.summaries.length = 1 ↔
      ∀ exc, replies.verifyDeltaTableExists = .error exc → exc.type = .tableNotFoundError := by
  simp only [runCycle, runCompactionCycle, ask, Program.perform_bind, Program.runWith_call, handle]
  cases verified : replies.verifyDeltaTableExists with
  | error exc =>
      simp only [afterVerify]
      by_cases notFound : exc.type = .tableNotFoundError
      · simp only [notFound, if_true, summaries_finalizeRun]
        simp [CycleLog.add, CycleLog.summaries, notFound]
      · simp [notFound, CycleLog.add, CycleLog.summaries]
  | ok found =>
      simp only [afterVerify, ask, Program.perform_bind, Program.runWith_call, summaries_afterScan]
      simp [handle, CycleLog.add, CycleLog.summaries]

/-- The storage does not answer the listing of `verify_delta_table_exists`. -/
def unreachableStore : CycleReplies where
  verifyDeltaTableExists :=
    .error
      { type := .other "EndpointConnectionError"
        message := "Could not connect to the endpoint URL: \"http://localhost:9000/lakehouse\"" }
  scanPartitions := .ok []
  selectionClock := fun _ => 0
  createSparkSession := .ok ()
  acquire := fun _ => .ok true
  compactPartition := fun _ _ => .error (.valueError "not called")
  release := fun _ => .ok ()
  now := 0

/-- A run whose table check cannot reach the storage ends without a summary line. -/
theorem unreachableStore_no_summary :
    (unreachableStore.runCycle {} none "4f1c0a9be27d" 0).2.summaries.length ≠ 1 := by
  decide

end CycleReplies

end Lakehouse
