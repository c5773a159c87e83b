import Lakehouse.Compactor.CompactionCommits
import Lakehouse.Compactor.RunReports

/-!
# Dry runs

`run_dry_run` is written apart from `run_compaction_cycle`: it walks over the same partitions and
estimates what a compaction would leave.  The two are compared on the same replies.
-/

namespace Lakehouse

open Foundation

/-- The compaction of a partition can return this record. -/
def CompactsTo (config : CompactionConfig) (stats : PartitionStats) (part : CompactionOf stats) :
    Prop :=
  ∃ (σ : Type) (handle : (request : SparkCall) → σ → SparkReply request × σ) (world : σ),
    ((compactPartition config stats).runWith handle world).1 = .ok part

theorem estimate_of_compactsTo {config : CompactionConfig} {stats : PartitionStats}
    {part : CompactionOf stats} (compacts : CompactsTo config stats part) :
    ∃ count, estimateOutputFileCount stats.totalBytes config.targetFileSizeBytes = .ok count := by
  obtain ⟨σ, handle, world, returned⟩ := compacts
  cases sized : estimateOutputFileCount stats.totalBytes config.targetFileSizeBytes with
  | ok count => exact ⟨count, rfl⟩
  | error exc =>
      simp only [compactPartition, Program.runWith_bind, Program.runWith_ofExcept, sized]
        at returned
      cases validated : validatePartitionHasData stats <;> simp [validated] at returned

/-! ## The loop of a dry run -/

/-- What a loop adds for its partitions: the totals before, and one detail each. -/
structure Covers (describes : PartitionStats → PartitionDetail → Prop)
    (parts : List PartitionStats) (before after : CompactionRunMetrics) : Prop where
  filesBefore : after.filesBefore =
    before.filesBefore + (parts.map fun stats => (stats.fileCount : Int)).sum
  bytesBefore : after.bytesBefore = before.bytesBefore + (parts.map PartitionStats.totalBytes).sum
  details : ∃ added, after.partitionDetails = before.partitionDetails ++ added ∧
    List.Forall₂ describes parts added

theorem Covers.refl (describes : PartitionStats → PartitionDetail → Prop)
    (metrics : CompactionRunMetrics) : Covers describes [] metrics metrics where
  filesBefore := by simp
  bytesBefore := by simp
  details := ⟨[], by simp, .nil⟩

/-- A loop covers its first partition, and then the rest. -/
theorem Covers.cons {describes : PartitionStats → PartitionDetail → Prop} {stats : PartitionStats}
    {rest : List PartitionStats} {before middle after : CompactionRunMetrics}
    {detail : PartitionDetail} (described : describes stats detail)
    (files : middle.filesBefore = before.filesBefore + stats.fileCount)
    (bytes : middle.bytesBefore = before.bytesBefore + stats.totalBytes)
    (details : middle.partitionDetails = before.partitionDetails ++ [detail])
    (later : Covers describes rest middle after) :
    Covers describes (stats :: rest) before after where
  filesBefore := by
    rw [later.filesBefore, files, List.map_cons, List.sum_cons]
    omega
  bytesBefore := by
    rw [later.bytesBefore, bytes, List.map_cons, List.sum_cons]
    omega
  details := by
    obtain ⟨added, added_eq, described'⟩ := later.details
    refine ⟨detail :: added, ?_, .cons described described'⟩
    rw [added_eq, details, List.append_assoc]
    rfl

namespace CycleReplies

variable {replies : CycleReplies} {config : CompactionConfig}

/-- The detail of a run is the record of the compacted partition. -/
def Records (stats : PartitionStats) (detail : PartitionDetail) : Prop :=
  ∃ part : CompactionOf stats, detail = .compacted part.val

/-- The session starts, every lock is free, and every compaction and release succeeds. -/
structure AllSucceed (replies : CycleReplies) (config : CompactionConfig)
    (eligible : List PartitionStats) : Prop where
  started : replies.createSparkSession = .ok ()
  acquired : ∀ turn, replies.acquire turn = .ok true
  released : ∀ turn, replies.release turn = .ok ()
  compacted : ∀ turn, ∀ turn_lt : turn < eligible.length, ∃ part : CompactionOf eligible[turn],
    replies.compactPartition turn eligible[turn] = .ok part ∧ CompactsTo config eligible[turn] part

variable {targetPartition : Option String} {allPartitions eligible : List PartitionStats}
  {skippedCount : Nat}

/-- The report of a run over the eligible partitions, with a detail for each of them. -/
structure Reports (describes : PartitionStats → PartitionDetail → Prop)
    (allPartitions chosen : List PartitionStats) (skippedCount : Nat)
    (metrics : CompactionRunMetrics) : Prop where
  scanned : metrics.partitionsScanned = allPartitions.length
  eligible : metrics.eligiblePartitions = chosen.length
  skipped : metrics.skippedPartitions = skippedCount
  filesBefore : metrics.filesBefore = (chosen.map fun stats => (stats.fileCount : Int)).sum
  bytesBefore : metrics.bytesBefore = (chosen.map PartitionStats.totalBytes).sum
  details : List.Forall₂ describes chosen metrics.partitionDetails
  exitCode : metrics.exitCode = if chosen = [] then exitNoEligible else exitSuccess

/-- A turn in which everything succeeds lets nothing escape. -/
theorem AllSucceed.escaped (succeed : replies.AllSucceed config eligible) (turn : Nat) :
    replies.escaped turn = none := by
  simp [CycleReplies.escaped, succeed.acquired, succeed.released]

theorem AllSucceed.succeeds (succeed : replies.AllSucceed config eligible) :
    ∀ entry ∈ eligible.zipIdx, replies.succeeds entry = true := by
  rintro ⟨stats, turn⟩ member
  obtain ⟨-, turn_lt, stats_eq⟩ := List.mem_zipIdx member
  obtain ⟨part, outcome, -⟩ := succeed.compacted turn (by omega)
  obtain rfl : stats = eligible[turn] := by simpa using stats_eq
  simp only [CycleReplies.succeeds, succeed.acquired, outcome]

/-- Every compaction which succeeds has been sized. -/
theorem AllSucceed.sized (succeed : replies.AllSucceed config eligible) :
    ∀ stats ∈ eligible, ∃ count,
      estimateOutputFileCount stats.totalBytes config.targetFileSizeBytes = .ok count := by
  intro stats member
  obtain ⟨turn, turn_lt, rfl⟩ := List.mem_iff_getElem.mp member
  obtain ⟨part, -, compacts⟩ := succeed.compacted turn turn_lt
  exact estimate_of_compactsTo compacts

/-- The details of a report are named after the partitions. -/
theorem Reports.names {describes : PartitionStats → PartitionDetail → Prop}
    {metrics : CompactionRunMetrics}
    (reports : Reports describes allPartitions eligible skippedCount metrics)
    (named : ∀ stats detail, describes stats detail → detail.partitionId = stats.partitionId) :
    metrics.partitionDetails.map PartitionDetail.partitionId =
      eligible.map PartitionStats.partitionId := by
  have related := reports.details
  revert related
  generalize metrics.partitionDetails = details
  intro related
  clear reports
  induction related with
  | nil => rfl
  | cons described _ ih => simp [named _ _ described, ih]

end CycleReplies

open CycleReplies

variable {config : CompactionConfig} {targetPartition : Option String} {replies : CycleReplies}

end Lakehouse
