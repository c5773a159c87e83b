import Lakehouse.Compactor.Metrics
import Lakehouse.Compactor.PartitionSelection
import Lakehouse.Foundation.Program

/-!
# The compaction cycle

`runCompactionCycle` as a program over the calls it makes.  A call which can raise replies with an
`Except`, so that every handler of the source is a match on a reply; the metrics object is passed
along, and an exception which escapes the partition loop travels next to it.
-/

namespace Lakehouse

open Foundation

/-- The calls of one compaction cycle to the outside. -/
inductive CycleCall
  | verifyDeltaTableExists
  | scanPartitions
  /-- The clock readings of `select_partitions`, one for each partition. -/
  | selectionClock
  | createSparkSession
  | acquire (partitionId runId : String)
  | compactPartition (stats : PartitionStats)
  | release (partitionId : String)
  /-- `datetime.now(UTC)`. -/
  | now
  | writeRunSummary (metrics : CompactionRunMetrics)
  | stopSparkSession
  deriving DecidableEq

/-- What each call returns or raises; writing the summary and stopping Spark do not fail. -/
abbrev CycleReply : CycleCall → Type
  | .verifyDeltaTableExists => Except PyException Unit
  | .scanPartitions => Except PyException (List PartitionStats)
  | .selectionClock => Nat → Int
  | .createSparkSession => Except PyException Unit
  | .acquire _ _ => Except PyException Bool
  | .compactPartition stats => Except PyException (CompactionOf stats)
  | .release _ => Except PyException Unit
  | .now => Int
  | .writeRunSummary _ => Unit
  | .stopSparkSession => Unit

abbrev CycleProgram := Program CycleCall CycleReply PyException

/-- Perform one call of the cycle. -/
def ask (request : CycleCall) : CycleProgram (CycleReply request) :=
  Program.perform request

/-- The first partition with the given id. -/
def findPartition (partitions : List PartitionStats) (partitionId : String) :
    Option PartitionStats :=
  partitions.find? fun stats => stats.partitionId = partitionId

namespace CompactionRunMetrics

/-- A partition without files leaves the eligible ones and joins the skipped ones. -/
def skipEmpty (metrics : CompactionRunMetrics) : CompactionRunMetrics :=
  { metrics with
    skippedPartitions := metrics.skippedPartitions + 1
    eligiblePartitions := metrics.eligiblePartitions - 1 }

def recordFailed (metrics : CompactionRunMetrics) (partitionId error : String) :
    CompactionRunMetrics :=
  { metrics with failedPartitions := metrics.failedPartitions ++ [{ partitionId, error }] }

def recordLockConflict (metrics : CompactionRunMetrics) (stats : PartitionStats) :
    CompactionRunMetrics :=
  { metrics with lockConflicts := metrics.lockConflicts + 1 }.recordFailed
    stats.partitionId "lock_acquisition_failed"

/-- The totals before, which are added before the partition is compacted. -/
def addBefore (metrics : CompactionRunMetrics) (stats : PartitionStats) : CompactionRunMetrics :=
  { metrics with
    filesBefore := metrics.filesBefore + stats.fileCount
    bytesBefore := metrics.bytesBefore + stats.totalBytes }

def recordCompacted (metrics : CompactionRunMetrics) (part : PartitionCompactionMetrics) :
    CompactionRunMetrics :=
  { metrics with
    compactedPartitions := metrics.compactedPartitions + 1
    filesAfter := metrics.filesAfter + part.filesAfter
    bytesAfter := metrics.bytesAfter + part.bytesAfter
    partitionDetails := metrics.partitionDetails ++ [.compacted part] }

/-- What the `try` around `compact_partition` leaves in the metrics.  Its three handlers differ
only in what they log. -/
def recordOutcome (metrics : CompactionRunMetrics) (stats : PartitionStats)
    (outcome : Except PyException (CompactionOf stats)) : CompactionRunMetrics :=
  match outcome with
  | .ok part => metrics.recordCompacted part.val
  | .error exc => metrics.recordFailed stats.partitionId exc.message

end CompactionRunMetrics

/-- `_finalize_run`: complete the metrics and append the summary line. -/
def finalizeRun (metrics : CompactionRunMetrics) : CycleProgram CompactionRunMetrics := do
  let finished ← ask .now
  let metrics := metrics.markComplete finished
  ask (.writeRunSummary metrics)
  return metrics

/-- The rest of an iteration once `release` has replied; its exception leaves the loop. -/
def afterRelease (metrics : CompactionRunMetrics) (reply : Except PyException Unit) :
    CycleProgram (CompactionRunMetrics × Option PyException) :=
  match reply with
  | .error exc => return (metrics, some exc)
  | .ok () => return (metrics, none)

/-- The rest of an iteration once `compact_partition` has returned or raised. -/
def afterCompact (stats : PartitionStats) (metrics : CompactionRunMetrics)
    (outcome : Except PyException (CompactionOf stats)) :
    CycleProgram (CompactionRunMetrics × Option PyException) := do
  let reply ← ask (.release stats.partitionId)
  afterRelease ((metrics.addBefore stats).recordOutcome stats outcome) reply

/-- The rest of an iteration once `acquire` has replied; it stands outside the inner `try`. -/
def afterAcquire (stats : PartitionStats) (metrics : CompactionRunMetrics)
    (reply : Except PyException Bool) :
    CycleProgram (CompactionRunMetrics × Option PyException) :=
  match reply with
  | .error exc => return (metrics, some exc)
  | .ok false => return (metrics.recordLockConflict stats, none)
  | .ok true => do
      let outcome ← ask (.compactPartition stats)
      afterCompact stats metrics outcome

/-- One iteration of the partition loop: the metrics, and the exception which left it. -/
def compactOne (runId : String) (stats : PartitionStats) (metrics : CompactionRunMetrics) :
    CycleProgram (CompactionRunMetrics × Option PyException) :=
  if stats.fileCount = 0 then
    return (metrics.skipEmpty, none)
  else do
    let reply ← ask (.acquire stats.partitionId runId)
    afterAcquire stats metrics reply

/-- The partition loop; an exception which leaves an iteration ends it. -/
def compactEach (runId : String) : List PartitionStats → CompactionRunMetrics →
    CycleProgram (CompactionRunMetrics × Option PyException)
  | [], metrics => return (metrics, none)
  | stats :: rest, metrics => do
      match ← compactOne runId stats metrics with
      | (metrics, some exc) => return (metrics, some exc)
      | (metrics, none) => compactEach runId rest metrics

/-- The outer handlers: `CompactionError` is recorded and swallowed, any other `Exception` is
recorded and raised again, and `finally` stops the session if there is one. -/
def handleFailure (metrics : CompactionRunMetrics) (exc : PyException) (sparkStarted : Bool) :
    CycleProgram CompactionRunMetrics := do
  let metrics ← finalizeRun { metrics with error := some exc.message }
  if sparkStarted then
    ask .stopSparkSession
  if exc.isCompactionError then
    return metrics
  else
    Program.raise exc

/-- What follows the partition loop. -/
def afterLoop (result : CompactionRunMetrics × Option PyException) :
    CycleProgram CompactionRunMetrics :=
  match result with
  | (metrics, some exc) => handleFailure metrics exc true
  | (metrics, none) => do
      let metrics ← finalizeRun metrics
      ask .stopSparkSession
      return metrics

/-- The cycle once `create_spark_session` has replied. -/
def afterSession (runId : String) (eligible : List PartitionStats)
    (metrics : CompactionRunMetrics) (reply : Except PyException Unit) :
    CycleProgram CompactionRunMetrics :=
  match reply with
  | .ok () => do
      let result ← compactEach runId eligible metrics
      afterLoop result
  | .error exc =>
      if exc.type = .sparkCompactionError then
        finalizeRun { metrics with error := some exc.message }
      else
        handleFailure metrics exc false

/-- The cycle once the partitions are chosen. -/
def compactEligible (runId : String) (eligible : List PartitionStats) (skippedCount : Nat)
    (metrics : CompactionRunMetrics) : CycleProgram CompactionRunMetrics :=
  let metrics :=
    { metrics with eligiblePartitions := eligible.length, skippedPartitions := skippedCount }
  if eligible = [] then
    finalizeRun metrics
  else do
    let reply ← ask .createSparkSession
    afterSession runId eligible metrics reply

/-- The cycle once `scan_partitions` has replied.  An empty target counts as none. -/
def afterScan (config : CompactionConfig) (targetPartition : Option String) (runId : String)
    (metrics : CompactionRunMetrics) (reply : Except PyException (List PartitionStats)) :
    CycleProgram CompactionRunMetrics :=
  match reply with
  | .error exc => handleFailure metrics exc false
  | .ok allPartitions =>
      let metrics := { metrics with partitionsScanned := allPartitions.length }
      match targetPartition.filter (· != "") with
      | some target =>
          match findPartition allPartitions target with
          | none =>
              finalizeRun
                { metrics with
                  error := some ("Partition not found: " ++ target)
                  status := .error }
          | some found => compactEligible runId [found] 0 metrics
      | none => do
          let clock ← ask .selectionClock
          let (eligible, skippedResults) :=
            selectPartitions (.fromConfig config) allPartitions clock
          compactEligible runId eligible skippedResults.length metrics

/-- The cycle once `verify_delta_table_exists` has replied.  Only `TableNotFoundError` is caught
here, and the outer `try` has not been entered yet. -/
def afterVerify (config : CompactionConfig) (targetPartition : Option String) (runId : String)
    (metrics : CompactionRunMetrics) (reply : Except PyException Unit) :
    CycleProgram CompactionRunMetrics :=
  match reply with
  | .error exc =>
      if exc.type = .tableNotFoundError then
        finalizeRun { metrics with error := some exc.message }
      else
        Program.raise exc
  | .ok () => do
      let reply ← ask .scanPartitions
      afterScan config targetPartition runId metrics reply

/-- One compaction cycle, from the point where the run has its id and its start time. -/
def runCompactionCycle (config : CompactionConfig) (targetPartition : Option String)
    (runId : String) (started : Int) : CycleProgram CompactionRunMetrics := do
  let metrics : CompactionRunMetrics :=
    { runId, tablePath := config.deltaTablePath, startedAt := started }
  let reply ← ask .verifyDeltaTableExists
  afterVerify config targetPartition runId metrics reply

end Lakehouse
