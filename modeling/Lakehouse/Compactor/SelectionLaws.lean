import Lakehouse.Compactor.PartitionSelection

/-!
# The laws of the selection

What makes a partition eligible is said without the helper predicates of the policy: `IsRipe`.  A
selection at one time is the split of its input by this predicate, in the order of the input, and
each parameter of the policy moves the verdict in one direction only.
-/

namespace Lakehouse

namespace PartitionStats

variable (stats : PartitionStats) (policy : PartitionSelectionPolicy) (now : Int)

/-- Some file was modified after the cutoff. -/
def HasRecentFile : Prop :=
  ∃ file ∈ stats.files, file.lastModified > now - minutes policy.partitionAgeSkipMinutes

/-- Enough small files, or enough files. -/
def IsCrowded : Prop :=
  (stats.files.countP (fun file => file.sizeBytes < policy.smallFileThresholdBytes) : Int) >
      policy.smallFileCountThreshold ∨
    (stats.files.length : Int) > policy.partitionFileCountThreshold

/-- The partition has files, none of them recent, and is crowded. -/
def IsRipe : Prop :=
  stats.files ≠ [] ∧ ¬stats.HasRecentFile policy now ∧ stats.IsCrowded policy

instance : Decidable (stats.HasRecentFile policy now) :=
  inferInstanceAs (Decidable (∃ file ∈ stats.files, _))

instance : Decidable (stats.IsCrowded policy) :=
  inferInstanceAs (Decidable (_ ∨ _))

instance : Decidable (stats.IsRipe policy now) :=
  inferInstanceAs (Decidable (_ ∧ _ ∧ _))

end PartitionStats

open PartitionStats

variable {stats : PartitionStats} {policy : PartitionSelectionPolicy} {now : Int}

/-! ## One verdict -/

theorem admits_iff_isCrowded : policy.admits stats = true ↔ stats.IsCrowded policy := by
  have small : (stats.smallFiles policy.smallFileThresholdBytes).length =
      stats.files.countP fun file => file.sizeBytes < policy.smallFileThresholdBytes :=
    List.countP_eq_length_filter.symm
  simp [PartitionSelectionPolicy.admits, isPartitionEligible, IsCrowded, small, fileCount]

theorem partitionIsTooRecent_iff (nonempty : stats.files ≠ []) :
    partitionIsTooRecent stats policy.partitionAgeSkipMinutes now = true ↔
      stats.HasRecentFile policy now := by
  rw [← Bool.not_eq_false, partitionIsTooRecent_eq_false]
  simp [nonempty, HasRecentFile]

theorem evaluatePartition_eligible_iff_isRipe :
    (evaluatePartition stats policy now).eligible = true ↔ stats.IsRipe policy now := by
  rw [evaluatePartition_eligible, admits_iff_isCrowded]
  simp [IsRipe, HasRecentFile]

theorem evaluatePartition_of_empty (empty : stats.files = []) :
    (evaluatePartition stats policy now).skipReason = some .empty := by
  have count : stats.fileCount = 0 := List.length_eq_zero_iff.mpr empty
  simp [evaluatePartition, count]

theorem evaluatePartition_of_recent (recent : stats.HasRecentFile policy now) :
    (evaluatePartition stats policy now).skipReason = some .tooRecent := by
  obtain ⟨file, member, newer⟩ := recent
  have nonempty : stats.files ≠ [] := List.ne_nil_of_mem member
  have count : stats.fileCount ≠ 0 := fun zero => nonempty (List.length_eq_zero_iff.mp zero)
  have too_recent := (partitionIsTooRecent_iff nonempty).mpr ⟨file, member, newer⟩
  simp [evaluatePartition, PartitionSelectionPolicy.verdict, count, too_recent]

theorem evaluatePartition_of_old (nonempty : stats.files ≠ [])
    (old : ¬stats.HasRecentFile policy now) :
    (evaluatePartition stats policy now).skipReason =
      if stats.IsCrowded policy then none else some .healthy := by
  have count : stats.fileCount ≠ 0 := fun zero => nonempty (List.length_eq_zero_iff.mp zero)
  have not_recent : ¬partitionIsTooRecent stats policy.partitionAgeSkipMinutes now = true :=
    fun recent => old ((partitionIsTooRecent_iff nonempty).mp recent)
  simp [evaluatePartition, PartitionSelectionPolicy.verdict, count, not_recent,
    admits_iff_isCrowded]

/-- The reasons of the verdict, in their order. -/
theorem evaluatePartition_skipReason :
    (evaluatePartition stats policy now).skipReason =
      if stats.files = [] then some .empty
      else if stats.HasRecentFile policy now then some .tooRecent
      else if stats.IsCrowded policy then none
      else some .healthy := by
  split
  · rename_i empty
    exact evaluatePartition_of_empty empty
  · rename_i nonempty
    split
    · rename_i recent
      exact evaluatePartition_of_recent recent
    · rename_i old
      exact evaluatePartition_of_old nonempty old

theorem evaluatePartition_tooRecent :
    (evaluatePartition stats policy now).skipReason = some .tooRecent ↔
      stats.HasRecentFile policy now := by
  rw [evaluatePartition_skipReason]
  by_cases recent : stats.HasRecentFile policy now
  · obtain ⟨file, member, -⟩ := id recent
    have nonempty : stats.files ≠ [] := List.ne_nil_of_mem member
    simp [nonempty, recent]
  · have other_reason :
        (if stats.IsCrowded policy then none else some SkipReason.healthy) ≠ some .tooRecent := by
      split <;> simp
    by_cases empty : stats.files = []
    · simp [empty, recent]
    · simp [empty, recent, other_reason]

/-! ## The split -/

theorem selectPartitions_eligible (policy : PartitionSelectionPolicy)
    (partitions : List PartitionStats) (now : Int) :
    (selectPartitions policy partitions fun _ => now).1 =
      partitions.filter fun stats => stats.IsRipe policy now := by
  induction partitions with
  | nil => rfl
  | cons first rest ih =>
      have verdict := @evaluatePartition_eligible_iff_isRipe first policy now
      simp only [selectPartitions, ih]
      split
      · rename_i eligible
        rw [List.filter_cons_of_pos (by simpa using verdict.mp eligible)]
      · rename_i refused
        have not_ripe : ¬first.IsRipe policy now := fun ripe => refused (verdict.mpr ripe)
        rw [List.filter_cons_of_neg (by simpa using not_ripe)]

theorem selectPartitions_skipped (policy : PartitionSelectionPolicy)
    (partitions : List PartitionStats) (now : Int) :
    (selectPartitions policy partitions fun _ => now).2 =
      (partitions.filter fun stats => ¬stats.IsRipe policy now).map fun stats =>
        evaluatePartition stats policy now := by
  induction partitions with
  | nil => rfl
  | cons first rest ih =>
      have verdict := @evaluatePartition_eligible_iff_isRipe first policy now
      simp only [selectPartitions, ih]
      split
      · rename_i eligible
        rw [List.filter_cons_of_neg (by simpa using verdict.mp eligible)]
      · rename_i refused
        have not_ripe : ¬first.IsRipe policy now := fun ripe => refused (verdict.mpr ripe)
        rw [List.filter_cons_of_pos (by simpa using not_ripe), List.map_cons]

/-- The eligible partitions are the ripe ones and the skipped ones the others, each part in the
order of the input, and every skipped one carries the first reason which applies. -/
theorem selectPartitions_split (policy : PartitionSelectionPolicy)
    (partitions : List PartitionStats) (now : Int) :
    (selectPartitions policy partitions fun _ => now).1 =
        partitions.filter (fun stats => stats.IsRipe policy now) ∧
      (selectPartitions policy partitions fun _ => now).2.map PartitionSelectionResult.stats =
        partitions.filter (fun stats => ¬stats.IsRipe policy now) ∧
      ((selectPartitions policy partitions fun _ => now).1 ++
        (selectPartitions policy partitions fun _ => now).2.map
          PartitionSelectionResult.stats).Perm partitions ∧
      ∀ result ∈ (selectPartitions policy partitions fun _ => now).2,
        (result.skipReason = some .empty ↔ result.stats.files = []) ∧
        (result.skipReason = some .tooRecent ↔
          result.stats.files ≠ [] ∧ result.stats.HasRecentFile policy now) ∧
        (result.skipReason = some .healthy ↔
          result.stats.files ≠ [] ∧ ¬result.stats.HasRecentFile policy now) := by
  have skipped : (selectPartitions policy partitions fun _ => now).2.map
      PartitionSelectionResult.stats =
        partitions.filter (fun stats => ¬stats.IsRipe policy now) := by
    rw [selectPartitions_skipped, List.map_map]
    exact (List.map_congr_left fun stats _ => evaluatePartition_stats stats policy now).trans
      (List.map_id _)
  refine ⟨selectPartitions_eligible policy partitions now, skipped, ?_, ?_⟩
  · rw [skipped, selectPartitions_eligible]
    simpa using List.filter_append_perm (fun stats => decide (stats.IsRipe policy now)) partitions
  · intro result member
    rw [selectPartitions_skipped] at member
    obtain ⟨stats, refused, rfl⟩ := List.mem_map.mp member
    have not_ripe : ¬stats.IsRipe policy now := by simpa using (List.mem_filter.mp refused).2
    rw [evaluatePartition_stats, evaluatePartition_skipReason]
    by_cases empty : stats.files = []
    · simp [empty]
    · by_cases recent : stats.HasRecentFile policy now
      · simp [empty, recent]
      · have not_crowded : ¬stats.IsCrowded policy := fun crowded =>
          not_ripe ⟨empty, recent, crowded⟩
        simp [empty, recent, not_crowded]

/-! ## Monotonicity -/

/-- The first policy skips at least as long, and its count thresholds are at least as large. -/
structure PartitionSelectionPolicy.StricterThan (strict lax : PartitionSelectionPolicy) : Prop where
  bytes : strict.smallFileThresholdBytes = lax.smallFileThresholdBytes
  smallFiles : lax.smallFileCountThreshold ≤ strict.smallFileCountThreshold
  files : lax.partitionFileCountThreshold ≤ strict.partitionFileCountThreshold
  age : lax.partitionAgeSkipMinutes ≤ strict.partitionAgeSkipMinutes

theorem not_hasRecentFile_iff :
    ¬stats.HasRecentFile policy now ↔
      ∀ file ∈ stats.files, file.lastModified ≤ now - minutes policy.partitionAgeSkipMinutes := by
  simp [HasRecentFile]

/-- What is old for a shorter age or at an earlier time stays old. -/
theorem not_hasRecentFile_mono {other : PartitionSelectionPolicy} {later : Int}
    (cutoff : now - minutes policy.partitionAgeSkipMinutes ≤
      later - minutes other.partitionAgeSkipMinutes)
    (old : ¬stats.HasRecentFile policy now) : ¬stats.HasRecentFile other later := by
  rw [not_hasRecentFile_iff] at old ⊢
  exact fun file member => (old file member).trans cutoff

theorem isCrowded_of_stricterThan {strict : PartitionSelectionPolicy}
    (stricter : strict.StricterThan policy) (crowded : stats.IsCrowded strict) :
    stats.IsCrowded policy := by
  rcases crowded with small | count
  · left
    rw [stricter.bytes] at small
    exact lt_of_le_of_lt stricter.smallFiles small
  · exact .inr (lt_of_le_of_lt stricter.files count)

theorem isCrowded_of_larger_threshold {bytes : Int}
    (larger : policy.smallFileThresholdBytes ≤ bytes)
    (crowded : stats.IsCrowded policy) :
    stats.IsCrowded { policy with smallFileThresholdBytes := bytes } := by
  rcases crowded with small | count
  · left
    refine lt_of_lt_of_le small (Int.ofNat_le.mpr (List.countP_mono_left fun file _ fits => ?_))
    simp only [decide_eq_true_eq] at fits ⊢
    exact lt_of_lt_of_le fits larger
  · exact .inr count

theorem isCrowded_of_subperm {larger : PartitionStats}
    (more : stats.files.Subperm larger.files)
    (crowded : stats.IsCrowded policy) : larger.IsCrowded policy :=
  admits_iff_isCrowded.mp (admits_mono more (admits_iff_isCrowded.mpr crowded))

theorem isRipe_later {later : Int} (after : now ≤ later) (ripe : stats.IsRipe policy now) :
    stats.IsRipe policy later := by
  obtain ⟨nonempty, old, crowded⟩ := ripe
  have cutoff : now - minutes policy.partitionAgeSkipMinutes ≤
      later - minutes policy.partitionAgeSkipMinutes := by omega
  exact ⟨nonempty, not_hasRecentFile_mono cutoff old, crowded⟩

/-- Files which are old do not make a partition less ripe. -/
theorem isRipe_of_added {added larger : List ParquetFileInfo}
    (same : larger.Perm (stats.files ++ added))
    (added_old : ∀ file ∈ added,
      ¬file.lastModified > now - minutes policy.partitionAgeSkipMinutes)
    (ripe : stats.IsRipe policy now) :
    PartitionStats.IsRipe { stats with files := larger } policy now := by
  obtain ⟨nonempty, old, crowded⟩ := ripe
  have more : stats.files.Subperm larger :=
    (List.sublist_append_left stats.files added).subperm.trans same.symm.subperm
  refine ⟨?_, ?_, isCrowded_of_subperm more crowded⟩
  · rintro rfl
    exact nonempty (List.subperm_nil.mp more)
  · rintro ⟨file, member, newer⟩
    rcases List.mem_append.mp (same.mem_iff.mp member) with before | new
    · exact old ⟨file, before, newer⟩
    · exact added_old file new newer

theorem hasRecentFile_of_added {added larger : List ParquetFileInfo}
    (same : larger.Perm (stats.files ++ added)) (recent : stats.HasRecentFile policy now) :
    PartitionStats.HasRecentFile { stats with files := larger } policy now := by
  obtain ⟨file, member, newer⟩ := recent
  exact ⟨file, same.symm.mem_iff.mp (List.mem_append_left added member), newer⟩

theorem isRipe_of_stricterThan {strict : PartitionSelectionPolicy}
    (stricter : strict.StricterThan policy) (ripe : stats.IsRipe strict now) :
    stats.IsRipe policy now := by
  obtain ⟨nonempty, old, crowded⟩ := ripe
  have cutoff : now - minutes strict.partitionAgeSkipMinutes ≤
      now - minutes policy.partitionAgeSkipMinutes := by
    have age := stricter.age
    unfold minutes
    omega
  exact ⟨nonempty, not_hasRecentFile_mono cutoff old, isCrowded_of_stricterThan stricter crowded⟩

theorem isRipe_of_larger_threshold {bytes : Int}
    (larger : policy.smallFileThresholdBytes ≤ bytes) (ripe : stats.IsRipe policy now) :
    stats.IsRipe { policy with smallFileThresholdBytes := bytes } now :=
  ⟨ripe.1, ripe.2.1, isCrowded_of_larger_threshold larger ripe.2.2⟩

end Lakehouse
