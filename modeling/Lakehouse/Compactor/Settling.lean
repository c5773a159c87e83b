import Mathlib.Data.List.MinMax
import Lakehouse.Compactor.CycleAccounts

/-!
# A compacted partition does not settle

A Delta commit adds its output objects and deletes none, and the scanner counts objects.  The
partition therefore keeps every file for which it was selected, whatever the new files look like,
and is selected again once the new files are old enough.
-/

namespace Lakehouse

open Foundation

namespace CycleReplies

variable {replies : CycleReplies} {config : CompactionConfig}

/-- The loop compacts only partitions it is given. -/
theorem mem_of_compact_mem_loopCalls {runId : String} {turn index : Nat}
    {parts : List PartitionStats} {stats : PartitionStats}
    (compacted : (index, .compactPartition stats) ∈ replies.loopCalls runId turn parts) :
    stats ∈ parts := by
  induction parts generalizing turn with
  | nil => simp [loopCalls] at compacted
  | cons first rest ih =>
      simp only [loopCalls] at compacted
      split at compacted
      · exact List.mem_cons_of_mem _ (ih compacted)
      · rcases List.mem_append.mp compacted with here | later
        · have same : stats = first := by
            unfold turnCalls at here
            split at here <;> simp_all
          exact same ▸ List.mem_cons_self
        · split at later
          · simp at later
          · exact List.mem_cons_of_mem _ (ih later)

/-- An untargeted run compacts only partitions which it has scanned and selected. -/
theorem selected_of_compacted {runId : String} {started : Int} {allPartitions : List PartitionStats}
    (scanned : replies.scanPartitions = .ok allPartitions) {turn : Nat} {stats : PartitionStats}
    (compacted : (turn, .compactPartition stats) ∈
      (replies.runCycle config none runId started).2.calls) :
    stats ∈ (selectPartitions (.fromConfig config) allPartitions replies.selectionClock).1 := by
  by_cases enters : replies.verifyDeltaTableExists = .ok () ∧
      (selectPartitions (.fromConfig config) allPartitions replies.selectionClock).1 ≠ [] ∧
      replies.createSparkSession = .ok ()
  · obtain ⟨verified, eligible_ne, sparked⟩ := enters
    have in_loop : replies.EntersLoop config none allPartitions _ _ :=
      ⟨verified, scanned, rfl, eligible_ne, sparked⟩
    obtain ⟨log, run, loop_calls⟩ := runCycle_of_entersLoop in_loop runId started
    have about : (turn, CycleCall.compactPartition stats) ∈
        (replies.runCycle config none runId started).2.partitionCalls :=
      List.mem_filter.mpr ⟨compacted, rfl⟩
    rw [run, partitionCalls_afterLoop, loop_calls] at about
    exact mem_of_compact_mem_loopCalls about
  · -- the run ends before its loop
    exfalso
    simp only [runCycle, runCompactionCycle, ask, Program.perform_bind, Program.runWith_call,
      handle] at compacted
    cases verified : replies.verifyDeltaTableExists with
    | error exc =>
        simp only [verified, afterVerify] at compacted
        split at compacted <;> simp [finalizeRun, ask, handle, CycleLog.add] at compacted
    | ok found =>
        simp only [verified, afterVerify, ask, Program.perform_bind, Program.runWith_call, handle,
          scanned, afterScan, Option.filter_none, compactEligible] at compacted
        by_cases empty :
            (selectPartitions (.fromConfig config) allPartitions replies.selectionClock).1 = []
        · simp [empty, finalizeRun, ask, handle, CycleLog.add] at compacted
        · cases sparked : replies.createSparkSession with
          | ok session => exact enters ⟨verified, empty, sparked⟩
          | error exc =>
              simp only [empty, if_false, Program.runWith_call, handle, sparked,
                afterSession] at compacted
              split at compacted
              · simp [finalizeRun, ask, handle, CycleLog.add] at compacted
              · cases kind : exc.isCompactionError <;>
                  simp [handleFailure, finalizeRun, ask, handle, CycleLog.add, kind] at compacted

end CycleReplies

/-- An untargeted run which has compacted the partition successfully. -/
structure CompactedRun (config : CompactionConfig) (stats : PartitionStats) where
  replies : CycleReplies
  runId : String
  started : Int
  /-- The store which the run has scanned. -/
  store : List S3Object
  pages : List (List S3Object)
  lists : Lists config store pages
  scanned : replies.scanPartitions = .ok (scanPartitions config pages)
  turn : Nat
  compacted : (turn, .compactPartition stats) ∈
    (replies.runCycle config none runId started).2.calls
  succeeded : ∃ part, replies.compactPartition turn stats = .ok part

/-- Objects which the commit of a compaction adds, and which are within the thresholds alone. -/
structure HealthyOutput (config : CompactionConfig) (stats : PartitionStats) where
  objects : List S3Object
  inside : ∀ object ∈ objects, scannedPartition config object = some stats.key
  fileCount_le : (objects.length : Int) ≤ config.partitionFileCountThreshold
  smallFileCount_le :
    ((objects.filter fun object => isSmallFile object.size config.smallFileThresholdBytes).length :
      Int) ≤ config.smallFileCountThreshold

/-- From a time on, and as long as nothing else is written to the partition, no scan and selection
makes it eligible. -/
def Settles (config : CompactionConfig) (key : String × Int) (store : List S3Object)
    (finished : Int) : Prop :=
  ∀ elsewhere : List S3Object, (∀ object ∈ elsewhere, scannedPartition config object ≠ some key) →
    ∀ pages, Lists config (store ++ elsewhere) pages →
      ∀ clock : Nat → Int, (∀ index, finished ≤ clock index) →
        ∀ stats ∈ (selectPartitions (.fromConfig config) (scanPartitions config pages) clock).1,
          stats.key ≠ key

/-- A time at which all files of a list are older than the skip. -/
theorem exists_late (files : List ParquetFileInfo) (skipMinutes finished : Int) :
    ∃ late, finished ≤ late ∧ ∀ file ∈ files, file.lastModified ≤ late - minutes skipMinutes := by
  induction files with
  | nil => exact ⟨finished, Int.le_refl _, by simp⟩
  | cons file rest ih =>
      obtain ⟨late, after, old⟩ := ih
      refine ⟨max late (file.lastModified + minutes skipMinutes), by omega, fun other member => ?_⟩
      rcases List.mem_cons.mp member with rfl | later
      · omega
      · have := old other later
        omega

/-- A partition which keeps its files is selected again at some later time. -/
theorem not_settles_of_subperm {config : CompactionConfig} {stats : PartitionStats}
    {store : List S3Object} (nonempty : stats.files ≠ [])
    (kept : stats.files.Subperm (storedFiles config stats.key store))
    (admitted : (PartitionSelectionPolicy.fromConfig config).admits stats = true)
    (finished : Int) : ¬Settles config stats.key store finished := by
  intro settles
  have lists : Lists config (store ++ []) [tableListing config store] := by simp [Lists]
  have stored_ne : storedFiles config stats.key (store ++ []) ≠ [] := by
    intro empty
    rw [List.append_nil] at empty
    rw [empty] at kept
    exact nonempty (List.subperm_nil.mp kept)
  obtain ⟨found, member, key_eq⟩ := exists_mem_scanPartitions lists stored_ne
  have files := files_perm_storedFiles lists member
  rw [key_eq, List.append_nil] at files
  obtain ⟨late, after, old⟩ := exists_late found.files config.partitionAgeSkipMinutes finished
  have eligible : (evaluatePartition found (.fromConfig config) late).eligible = true := by
    refine evaluatePartition_eligible.mpr ⟨(mem_scanPartitions.mp member).1, old, ?_⟩
    exact admits_mono (kept.trans files.symm.subperm) admitted
  have selected : found ∈
      (selectPartitions (.fromConfig config) (scanPartitions config _) fun _ => late).1 :=
    mem_selectPartitions_of_eligible member fun _ => eligible
  exact settles [] (by simp) _ lists (fun _ => late) (fun _ => after) found selected key_eq

/-- No partition settles: not after any successful compaction, with any healthy output, whatever
else was written before its commit, and however long one waits. -/
theorem compacted_partition_never_settles {config : CompactionConfig} {stats : PartitionStats}
    (run : CompactedRun config stats) (concurrent : List S3Object)
    (output : HealthyOutput config stats) (finished : Int) :
    ¬Settles config stats.key (run.store ++ concurrent ++ output.objects) finished := by
  have selected := CycleReplies.selected_of_compacted run.scanned run.compacted
  obtain ⟨member, index, eligible⟩ := mem_selectPartitions selected
  obtain ⟨nonempty, -, admitted⟩ := evaluatePartition_eligible.mp eligible
  have files := files_perm_storedFiles run.lists member
  refine not_settles_of_subperm nonempty ?_ admitted finished
  rw [storedFiles_append, storedFiles_append, List.append_assoc]
  exact files.subperm.trans (List.sublist_append_left _ _).subperm

/-! ### Two small files -/

/-- A small file of one hour. -/
def smallObject (name : String) : S3Object where
  key := "raw/events/event_date=2024-06-11/event_hour=10/" ++ name ++ ".snappy.parquet"
  size := 1000
  lastModified := 0

/-- One small file is tolerated. -/
def oneSmallFile : CompactionConfig :=
  { smallFileCountThreshold := 1 }

/-- A partition with two small files. -/
def twoSmallFiles : PartitionStats where
  eventDate := "2024-06-11"
  eventHour := 10
  files := [(smallObject "part-0").toFile, (smallObject "part-1").toFile]

/-- A run which compacts it. -/
def compactsTwoSmallFiles : CompactedRun oneSmallFile twoSmallFiles where
  replies := { CycleReplies.unreadableLock with
    scanPartitions := .ok [twoSmallFiles]
    acquire := fun _ => .ok true }
  runId := "4f1c0a9be27d"
  started := hours 1
  store := [smallObject "part-0", smallObject "part-1"]
  pages := [[smallObject "part-0", smallObject "part-1"]]
  lists := by
    have listing : tableListing oneSmallFile [smallObject "part-0", smallObject "part-1"] =
        [smallObject "part-0", smallObject "part-1"] := by decide +kernel
    rw [Lists, listing]
    exact List.Perm.refl _
  scanned := congrArg Except.ok (by decide +kernel)
  turn := 0
  compacted := by decide +kernel
  succeeded := ⟨_, rfl⟩

/-- The new file alone is within the thresholds. -/
def oneNewFile : HealthyOutput oneSmallFile twoSmallFiles where
  objects := [smallObject "part-2"]
  inside := by decide +kernel
  fileCount_le := by decide +kernel
  smallFileCount_le := by decide +kernel

theorem compacted_partition_never_settles_twoSmallFiles :
    ¬Settles oneSmallFile twoSmallFiles.key
      (compactsTwoSmallFiles.store ++ [] ++ oneNewFile.objects) (hours 1) :=
  compacted_partition_never_settles compactsTwoSmallFiles [] oneNewFile (hours 1)

theorem twoSmallFiles_does_not_settle :
    ¬Settles oneSmallFile twoSmallFiles.key
      ([smallObject "part-0", smallObject "part-1"] ++ [smallObject "part-2"]) (hours 1) := by
  have nonempty : twoSmallFiles.files ≠ [] := by simp [twoSmallFiles]
  have stored : storedFiles oneSmallFile twoSmallFiles.key
      ([smallObject "part-0", smallObject "part-1"] ++ [smallObject "part-2"]) =
        twoSmallFiles.files ++ [(smallObject "part-2").toFile] := by decide +kernel
  refine not_settles_of_subperm nonempty ?_ (by decide +kernel) (hours 1)
  rw [stored]
  exact (List.sublist_append_left _ _).subperm

end Lakehouse
