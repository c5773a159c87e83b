import Lakehouse.Compactor.FormatBytes
import Lakehouse.Compactor.LeaseText
import Lakehouse.Compactor.Metrics
import Lakehouse.Foundation.JsonLines

/-!
# The metrics file

The dictionaries of `metrics.py` and the lines of the metrics file.  A dictionary determines the
metrics which it was made of, so that a line loses nothing.
-/

namespace Lakehouse

open Foundation
open Foundation.Binary64 (ofDecimal)
open Foundation.Calendar (InRange)
open Foundation.Json (entry)
open Foundation.Json.Value (ofText ofInt ofFloat ofOption)

/-! ## Dictionaries -/

def CompactionMethod.text : CompactionMethod → String
  | .deltaOptimize => "delta_optimize"
  | .zorderInspired => "zorder_inspired"

def RunStatus.text : RunStatus → String
  | .running => "running"
  | .dryRun => "dry_run"
  | .error => "error"
  | .partialSuccess => "partial_success"
  | .success => "success"

/-- A number of milliseconds as `round(duration, 3)` gives it in seconds. -/
def millisSeconds (millis : Int) : Binary64.Value :=
  ofDecimal (decide (millis < 0)) millis.natAbs (-3)

/-- The sizes which a dictionary shows in addition. -/
def shownSizes (bytesBefore bytesAfter : Int) : List (List Char × Json.Value) :=
  [entry "bytes_before_human" (ofText (formatBytes bytesBefore)),
    entry "bytes_after_human" (ofText (formatBytes bytesAfter)),
    entry "bytes_before_mb" (ofFloat (formatBytesMb bytesBefore)),
    entry "bytes_after_mb" (ofFloat (formatBytesMb bytesAfter))]

/-- `PartitionCompactionMetrics.to_dict`; the status and the error are never set. -/
def PartitionCompactionMetrics.toDict (metrics : PartitionCompactionMetrics) : Json.Value :=
  .object
    ([entry "partition_id" (ofText metrics.partitionId),
      entry "files_before" (ofInt metrics.filesBefore),
      entry "files_after" (ofInt metrics.filesAfter),
      entry "bytes_before" (ofInt metrics.bytesBefore),
      entry "bytes_after" (ofInt metrics.bytesAfter),
      entry "duration_seconds" (ofFloat (millisSeconds metrics.durationMillis)),
      entry "method" (ofText metrics.method.text),
      entry "status" (ofText "success"),
      entry "error" .null] ++
      shownSizes metrics.bytesBefore metrics.bytesAfter)

def PartitionDetail.toDict : PartitionDetail → Json.Value
  | .compacted metrics => metrics.toDict
  | .dryRun partitionId filesBefore filesAfterEst bytesBefore =>
      .object
        [entry "partition_id" (ofText partitionId),
          entry "files_before" (ofInt filesBefore),
          entry "files_after_est" (ofInt filesAfterEst),
          entry "bytes_before" (ofInt bytesBefore),
          entry "dry_run" (.bool true)]

def FailedPartition.toDict (failed : FailedPartition) : Json.Value :=
  .object
    [entry "partition_id" (ofText failed.partitionId), entry "error" (ofText failed.error)]

namespace CompactionRunMetrics

/-- `round((finished - started).total_seconds(), 3)` once the run is complete. -/
def compactionDurationSeconds (metrics : CompactionRunMetrics) : Option Binary64.Value :=
  metrics.completedAt.map fun finished =>
    (Binary64.quotient (finished - metrics.startedAt) (10 ^ 6)).roundTo 3

def toDict (metrics : CompactionRunMetrics) : Json.Value :=
  .object
    ([entry "run_id" (ofText metrics.runId),
      entry "table_path" (ofText metrics.tablePath),
      entry "started_at" (ofText (utcNowIso metrics.startedAt)),
      entry "completed_at" (ofOption (fun finished => ofText (utcNowIso finished))
        metrics.completedAt),
      entry "compaction_duration_seconds" (ofOption ofFloat metrics.compactionDurationSeconds),
      entry "partitions_scanned" (ofInt metrics.partitionsScanned),
      entry "eligible_partitions" (ofInt metrics.eligiblePartitions),
      entry "skipped_partitions" (ofInt metrics.skippedPartitions),
      entry "compacted_partitions" (ofInt metrics.compactedPartitions),
      entry "lock_conflicts" (ofInt metrics.lockConflicts),
      entry "files_before" (ofInt metrics.filesBefore),
      entry "files_after" (ofInt metrics.filesAfter),
      entry "bytes_before" (ofInt metrics.bytesBefore),
      entry "bytes_after" (ofInt metrics.bytesAfter),
      entry "failed_partitions" (.array (metrics.failedPartitions.map FailedPartition.toDict)),
      entry "partition_details" (.array (metrics.partitionDetails.map PartitionDetail.toDict)),
      entry "status" (ofText metrics.status.text),
      entry "error" (ofOption ofText metrics.error)] ++
      shownSizes metrics.bytesBefore metrics.bytesAfter ++
      [entry "files_reduced" (ofInt metrics.filesReduced),
        entry "record_type" (ofText "compaction_run_summary")])

end CompactionRunMetrics

/-- `write_run_summary` -/
def writeRunSummary (metrics : CompactionRunMetrics) (file : Option (List Char)) :
    Option (List Char) :=
  Json.appendLine metrics.toDict file

/-! ## What a dictionary determines -/

theorem CompactionMethod.text_inj {left right : CompactionMethod} (same : left.text = right.text) :
    left = right := by
  cases left <;> cases right <;> first | rfl | exact absurd same (by decide)

theorem RunStatus.text_inj {left right : RunStatus} (same : left.text = right.text) :
    left = right := by
  cases left <;> cases right <;> first | rfl | exact absurd same (by decide)

/-- Milliseconds are determined by the float unless there are very many of them. -/
theorem millisSeconds_inj {left right : Int} (small : left.natAbs < 2 ^ 52)
    (small' : right.natAbs < 2 ^ 52) (same : millisSeconds left = millisSeconds right) :
    left = right := by
  have few : 10 ^ 3 < Binary64.one := Binary64.ten_pow_lt_one (by decide)
  obtain ⟨sign, size⟩ := Binary64.ofDecimal_inj small small' few same
  rw [decide_eq_decide] at sign
  omega

theorem utcNowIso_inj {left right : Int} (range : InRange left) (range' : InRange right)
    (same : utcNowIso left = utcNowIso right) : left = right := by
  have read := parseIso_utcNowIso range
  rw [same, parseIso_utcNowIso range'] at read
  exact (Except.ok.inj read).symm

theorem FailedPartition.toDict_inj {left right : FailedPartition}
    (same : left.toDict = right.toDict) : left = right := by
  obtain ⟨partitionId, error⟩ := left
  obtain ⟨partitionId', error'⟩ := right
  simpa [FailedPartition.toDict, entry] using same

theorem PartitionCompactionMetrics.toDict_inj {left right : PartitionCompactionMetrics}
    (short : left.durationMillis.natAbs < 2 ^ 52) (short' : right.durationMillis.natAbs < 2 ^ 52)
    (same : left.toDict = right.toDict) : left = right := by
  simp only [PartitionCompactionMetrics.toDict, entry, shownSizes, Json.Value.object.injEq,
    List.cons_append, List.nil_append, List.cons.injEq, Prod.mk.injEq, true_and, and_true,
    Json.Value.ofText_inj, Json.Value.ofInt_inj, Json.Value.ofFloat_inj] at same
  obtain ⟨partitionId, filesBefore, filesAfter, bytesBefore, bytesAfter, duration, method, -⟩ :=
    same
  have duration_eq := millisSeconds_inj short short' duration
  have method_eq := CompactionMethod.text_inj method
  cases left
  cases right
  simp_all

theorem PartitionDetail.toDict_inj {left right : PartitionDetail}
    (short : ∀ metrics, left = .compacted metrics → metrics.durationMillis.natAbs < 2 ^ 52)
    (short' : ∀ metrics, right = .compacted metrics → metrics.durationMillis.natAbs < 2 ^ 52)
    (same : left.toDict = right.toDict) : left = right := by
  cases left with
  | compacted metrics =>
      cases right with
      | compacted metrics' =>
          have metrics_eq := PartitionCompactionMetrics.toDict_inj (short metrics rfl)
            (short' metrics' rfl) same
          rw [metrics_eq]
      | dryRun => simp [toDict, PartitionCompactionMetrics.toDict, entry] at same
  | dryRun partitionId filesBefore filesAfterEst bytesBefore =>
      cases right with
      | compacted metrics => simp [toDict, PartitionCompactionMetrics.toDict, entry] at same
      | dryRun => simpa [toDict, entry] using same

namespace CompactionRunMetrics

/-- Times which a `datetime` can hold, and durations below 100000 years. -/
structure Recordable (metrics : CompactionRunMetrics) : Prop where
  started : InRange metrics.startedAt
  completed : ∀ finished, metrics.completedAt = some finished → InRange finished
  short : ∀ part, .compacted part ∈ metrics.partitionDetails →
    part.durationMillis.natAbs < 2 ^ 52

theorem toDict_inj {left right : CompactionRunMetrics} (recordable : left.Recordable)
    (recordable' : right.Recordable) (same : left.toDict = right.toDict) : left = right := by
  simp only [toDict, entry, shownSizes, Json.Value.object.injEq,
    List.cons_append, List.nil_append, List.cons.injEq, Prod.mk.injEq, true_and, and_true,
    Json.Value.ofText_inj, Json.Value.ofInt_inj, Json.Value.ofFloat_inj,
    Json.Value.array.injEq] at same
  obtain ⟨runId, tablePath, started, completed, -, scanned, eligible, skipped, compacted,
    conflicts, filesBefore, filesAfter, bytesBefore, bytesAfter, failed, details, status, error,
    -⟩ := same
  have started_eq := utcNowIso_inj recordable.started recordable'.started started
  have completed_eq : left.completedAt = right.completedAt := by
    refine Json.Value.ofOption_inj (by simp [ofText]) ?_ completed
    intro finished found finished' found' text_eq
    exact utcNowIso_inj (recordable.completed finished found)
      (recordable'.completed finished' found') (Json.Value.ofText_inj.mp text_eq)
  have failed_eq : left.failedPartitions = right.failedPartitions :=
    Json.Value.map_inj (fun _ _ _ _ => FailedPartition.toDict_inj) failed
  have details_eq : left.partitionDetails = right.partitionDetails := by
    refine Json.Value.map_inj (fun detail member detail' member' => ?_) details
    refine PartitionDetail.toDict_inj (fun part found => ?_) fun part found => ?_
    · exact recordable.short part (found ▸ member)
    · exact recordable'.short part (found ▸ member')
  have status_eq := RunStatus.text_inj status
  have error_eq : left.error = right.error :=
    Json.Value.ofOption_inj (by simp [ofText]) (fun _ _ _ _ => Json.Value.ofText_inj.mp) error
  cases left
  cases right
  simp_all

/-- The runs whose summaries a metrics file holds are determined by the file, in their order and
with all their metrics. -/
theorem summaries_determine {file : Option (List Char)} {values : List Json.Value}
    (start : Json.Records file values) {left right : List CompactionRunMetrics}
    (recordable : ∀ metrics ∈ left, metrics.Recordable)
    (recordable' : ∀ metrics ∈ right, metrics.Recordable)
    (same : left.foldl (fun file metrics => writeRunSummary metrics file) file =
      right.foldl (fun file metrics => writeRunSummary metrics file) file) : left = right := by
  have read := start.appendAll (left.map toDict)
  have read' := start.appendAll (right.map toDict)
  rw [List.foldl_map] at read read'
  have lines_eq : values ++ left.map toDict = values ++ right.map toDict := by
    have found := read.read
    rw [show left.foldl (fun file metrics => Json.appendLine metrics.toDict file) file =
      right.foldl (fun file metrics => Json.appendLine metrics.toDict file) file from same,
      read'.read] at found
    exact (Option.some.inj found).symm
  refine Json.Value.map_inj (fun metrics member metrics' member' => ?_)
    (List.append_cancel_left lines_eq)
  exact toDict_inj (recordable metrics member) (recordable' metrics' member')

def idleRun : CompactionRunMetrics :=
  { runId := "4f1c0a9be27d"
    tablePath := "s3a://lakehouse/events"
    startedAt := 0
    completedAt := some 1500000
    partitionsScanned := 3
    skippedPartitions := 3
    status := .success }

theorem recordable_idleRun : idleRun.Recordable where
  started := by decide
  completed finished found := by
    obtain rfl := Option.some.inj found
    decide
  short part member := nomatch member

theorem summaries_determine_idleRun :
    [idleRun] = [{ idleRun with completedAt := none }.markComplete 1500000] :=
  summaries_determine Json.records_none
    (fun _ member => List.mem_singleton.mp member ▸ recordable_idleRun)
    (fun _ member => List.mem_singleton.mp member ▸ recordable_idleRun) rfl

end CompactionRunMetrics

end Lakehouse
