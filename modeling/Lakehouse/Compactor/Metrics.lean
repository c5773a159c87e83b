import Lakehouse.Compactor.FileScanner

/-!
# Run metrics

The counters of one compaction run, and what `mark_complete` and `exit_code` make of them.
-/

namespace Lakehouse

def exitSuccess : Int := 0
def exitFailure : Int := 1
def exitNoEligible : Int := 2

/-- How a partition was rewritten. -/
inductive CompactionMethod
  | deltaOptimize
  | zorderInspired
  deriving DecidableEq, Repr

/-- The record of one compacted partition. -/
structure PartitionCompactionMetrics where
  partitionId : String
  filesBefore : Int
  filesAfter : Int
  bytesBefore : Int
  bytesAfter : Int
  /-- `duration_seconds`, which is rounded to milliseconds. -/
  durationMillis : Int
  method : CompactionMethod
  deriving DecidableEq, Repr

/-- The fields which a record copies from the partition it is about. -/
structure PartitionCompactionMetrics.Describes (metrics : PartitionCompactionMetrics)
    (stats : PartitionStats) : Prop where
  partitionId : metrics.partitionId = stats.partitionId
  filesBefore : metrics.filesBefore = stats.fileCount
  bytesBefore : metrics.bytesBefore = stats.totalBytes

instance (metrics : PartitionCompactionMetrics) (stats : PartitionStats) :
    Decidable (metrics.Describes stats) :=
  decidable_of_iff
    (metrics.partitionId = stats.partitionId ∧ metrics.filesBefore = stats.fileCount ∧
      metrics.bytesBefore = stats.totalBytes)
    ⟨fun ⟨id, files, bytes⟩ => ⟨id, files, bytes⟩, fun ⟨id, files, bytes⟩ => ⟨id, files, bytes⟩⟩

/-- A compaction record of the given partition. -/
abbrev CompactionOf (stats : PartitionStats) :=
  { metrics : PartitionCompactionMetrics // metrics.Describes stats }

/-- An entry of `failed_partitions`. -/
structure FailedPartition where
  partitionId : String
  error : String
  deriving DecidableEq, Repr

/-- An entry of `partition_details`. -/
inductive PartitionDetail
  | compacted (metrics : PartitionCompactionMetrics)
  | dryRun (partitionId : String) (filesBefore filesAfterEst bytesBefore : Int)
  deriving DecidableEq, Repr

def PartitionDetail.partitionId : PartitionDetail → String
  | .compacted metrics => metrics.partitionId
  | .dryRun partitionId _ _ _ => partitionId

inductive RunStatus
  | running
  | dryRun
  | error
  | partialSuccess
  | success
  deriving DecidableEq, Repr

/-- The metrics of one run. -/
structure CompactionRunMetrics where
  runId : String
  tablePath : String
  startedAt : Int
  completedAt : Option Int := none
  partitionsScanned : Int := 0
  eligiblePartitions : Int := 0
  skippedPartitions : Int := 0
  compactedPartitions : Int := 0
  lockConflicts : Int := 0
  filesBefore : Int := 0
  filesAfter : Int := 0
  bytesBefore : Int := 0
  bytesAfter : Int := 0
  failedPartitions : List FailedPartition := []
  partitionDetails : List PartitionDetail := []
  status : RunStatus := .running
  error : Option String := none
  deriving DecidableEq, Repr

namespace CompactionRunMetrics

/-- The truth value of `self.error`: `None` and the empty text are false. -/
def hasError (metrics : CompactionRunMetrics) : Bool :=
  match metrics.error with
  | none => false
  | some text => text != ""

/-- The status of a finished run; a dry run keeps its own. -/
def completedStatus (metrics : CompactionRunMetrics) : RunStatus :=
  if metrics.status = .dryRun then .dryRun
  else if metrics.hasError then .error
  else if metrics.failedPartitions ≠ [] then .partialSuccess
  else .success

def markComplete (metrics : CompactionRunMetrics) (finished : Int) : CompactionRunMetrics :=
  { metrics with completedAt := some finished, status := metrics.completedStatus }

/-- `files_reduced` of the summary line. -/
def filesReduced (metrics : CompactionRunMetrics) : Int :=
  metrics.filesBefore - metrics.filesAfter

def exitCode (metrics : CompactionRunMetrics) : Int :=
  if metrics.hasError then exitFailure
  else if metrics.status = .error then exitFailure
  else if metrics.eligiblePartitions = 0 ∧ metrics.compactedPartitions = 0 then exitNoEligible
  else if metrics.failedPartitions ≠ [] ∧ metrics.compactedPartitions = 0 then exitFailure
  else exitSuccess

end CompactionRunMetrics

end Lakehouse
