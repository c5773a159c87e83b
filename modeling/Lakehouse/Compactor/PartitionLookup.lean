import Lakehouse.Compactor.DeltaTable
import Lakehouse.Compactor.LockManager
import Lakehouse.Compactor.ScanInvariance

/-!
# Looking partitions up by their ids

Targeted runs, counts after a rewrite and locks name a partition by its id.  Ids and keys determine
each other, and a scan returns each key once, so every lookup finds the partition which is meant.
-/

namespace Lakehouse

variable {config : CompactionConfig} {pages : List (List S3Object)} {stats found : PartitionStats}

/-! ## Ids and lock keys -/

/-- The partitions of a scan have distinct ids. -/
theorem nodup_partitionIds (config : CompactionConfig) (pages : List (List S3Object)) :
    ((scanPartitions config pages).map PartitionStats.partitionId).Nodup := by
  have distinct := List.pairwise_map.mp (nodup_keys_scanPartitions config pages)
  refine List.pairwise_map.mpr (distinct.imp fun {left right} keys ids => ?_)
  exact keys (PartitionStats.partitionId_eq_iff.mp ids)

/-- The partitions of a scan have distinct lock keys. -/
theorem nodup_storagePaths (manager : LockManager) (config : CompactionConfig)
    (pages : List (List S3Object)) :
    ((scanPartitions config pages).map fun stats =>
      manager.storagePath stats.partitionId).Nodup := by
  have distinct := List.pairwise_map.mp (nodup_partitionIds config pages)
  refine List.pairwise_map.mpr (distinct.imp fun {left right} ids paths => ?_)
  exact ids (lockFilePath_inj.mp paths)

/-! ## Lookups -/

/-- The id of a partition leads to the scanned partition with its key. -/
theorem findPartition_scanPartitions (member : found ∈ scanPartitions config pages)
    (same : found.key = stats.key) :
    findPartition (scanPartitions config pages) stats.partitionId = some found := by
  cases search : findPartition (scanPartitions config pages) stats.partitionId with
  | none => exact absurd same (findPartition_eq_none.mp search found member)
  | some other =>
      obtain ⟨other_mem, ids⟩ := findPartition_eq_some search
      have keys := (PartitionStats.partitionId_eq_iff.mp ids).trans same.symm
      rw [eq_of_mem_scanPartitions other_mem member keys]

theorem countPartitionFiles_of_mem (member : found ∈ scanPartitions config pages)
    (same : found.key = stats.key) :
    countPartitionFiles config pages stats = ((found.fileCount : Int), found.totalBytes) := by
  rw [countPartitionFiles, findPartition_scanPartitions member same]

/-- No partition of a scan is counted as empty. -/
theorem countPartitionFiles_eq_zero_iff :
    countPartitionFiles config pages stats = (0, 0) ↔
      ∀ found ∈ scanPartitions config pages, found.key ≠ stats.key := by
  constructor
  · intro zero found member same
    rw [countPartitionFiles_of_mem member same] at zero
    have nonempty := (mem_scanPartitions.mp member).1
    have length : (found.files.length : Int) = 0 := congrArg Prod.fst zero
    exact nonempty (List.length_eq_zero_iff.mp (Int.ofNat_eq_zero.mp length))
  · intro absent
    rw [countPartitionFiles, findPartition_eq_none.mpr absent]

/-- **A partition id identifies one partition**, in a scan, among the locks and in a later scan. -/
theorem partitionId_identifies (config : CompactionConfig) (pages : List (List S3Object)) :
    (∀ (date date' : String) (hour hour' : Int),
        partitionIdText date hour = partitionIdText date' hour' → date = date' ∧ hour = hour') ∧
      ((scanPartitions config pages).map PartitionStats.partitionId).Nodup ∧
      (∀ manager : LockManager, ((scanPartitions config pages).map fun stats =>
        manager.storagePath stats.partitionId).Nodup) ∧
      (∀ stats ∈ scanPartitions config pages,
        findPartition (scanPartitions config pages) stats.partitionId = some stats) ∧
      ∀ stats ∈ scanPartitions config pages, ∀ fresh : List (List S3Object),
        (∀ found ∈ scanPartitions config fresh,
          found.eventDate = stats.eventDate ∧ found.eventHour = stats.eventHour →
            countPartitionFiles config fresh stats = ((found.fileCount : Int), found.totalBytes)) ∧
        (countPartitionFiles config fresh stats = (0, 0) ↔
          ¬∃ found ∈ scanPartitions config fresh,
            found.eventDate = stats.eventDate ∧ found.eventHour = stats.eventHour) := by
  refine ⟨fun _ _ _ _ same => partitionIdText_inj.mp same, nodup_partitionIds config pages,
    fun manager => nodup_storagePaths manager config pages,
    fun stats member => findPartition_scanPartitions member rfl, fun stats _ fresh => ⟨?_, ?_⟩⟩
  · rintro found member ⟨dates, hours⟩
    exact countPartitionFiles_of_mem member (Prod.ext dates hours)
  · rw [countPartitionFiles_eq_zero_iff]
    constructor
    · rintro absent ⟨found, member, dates, hours⟩
      exact absent found member (Prod.ext dates hours)
    · intro absent found member same
      exact absent ⟨found, member, Prod.mk.inj same⟩

end Lakehouse
