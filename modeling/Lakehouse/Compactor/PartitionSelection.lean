import Lakehouse.Compactor.FileScanner

/-!
# Partition selection

`selectPartitions` splits scanned partitions into eligible and skipped ones.  Called without `now`
it reads the clock anew for every partition, so its time argument is a sequence of readings; a
call with `now` is the constant sequence.  The times here are those of an unbounded line;
`DatetimeSelection` has the selection which raises where a cutoff is no `datetime`.
-/

namespace Lakehouse

/-- Why a partition is not compacted. -/
inductive SkipReason
  | tooRecent
  | healthy
  | empty
  deriving DecidableEq, Repr

/-- The thresholds of the selection. -/
structure PartitionSelectionPolicy where
  smallFileThresholdBytes : Int
  smallFileCountThreshold : Int
  partitionFileCountThreshold : Int
  partitionAgeSkipMinutes : Int
  deriving DecidableEq, Repr

def PartitionSelectionPolicy.fromConfig (config : CompactionConfig) : PartitionSelectionPolicy where
  smallFileThresholdBytes := config.smallFileThresholdBytes
  smallFileCountThreshold := config.smallFileCountThreshold
  partitionFileCountThreshold := config.partitionFileCountThreshold
  partitionAgeSkipMinutes := config.partitionAgeSkipMinutes

/-- The verdict on one partition. -/
structure PartitionSelectionResult where
  stats : PartitionStats
  eligible : Bool
  skipReason : Option SkipReason := none
  smallFileCount : Int := 0
  deriving DecidableEq, Repr

/-- The two count rules of the policy. -/
def PartitionSelectionPolicy.admits (policy : PartitionSelectionPolicy)
    (stats : PartitionStats) : Bool :=
  isPartitionEligible stats policy.smallFileThresholdBytes policy.smallFileCountThreshold
    policy.partitionFileCountThreshold

/-- The verdict on a partition with files: too recent first, then the count rules. -/
def PartitionSelectionPolicy.verdict (policy : PartitionSelectionPolicy) (stats : PartitionStats)
    (tooRecent : Bool) : PartitionSelectionResult :=
  if tooRecent then
    { stats
      eligible := false
      skipReason := some .tooRecent
      smallFileCount := (stats.smallFiles policy.smallFileThresholdBytes).length }
  else
    { stats
      eligible := policy.admits stats
      skipReason := if policy.admits stats then none else some .healthy
      smallFileCount := (stats.smallFiles policy.smallFileThresholdBytes).length }

/-- Empty first; the cutoff is taken on the line of times, where it always exists. -/
def evaluatePartition (stats : PartitionStats) (policy : PartitionSelectionPolicy)
    (now : Int) : PartitionSelectionResult :=
  if stats.fileCount = 0 then
    { stats, eligible := false, skipReason := some .empty }
  else
    policy.verdict stats (partitionIsTooRecent stats policy.partitionAgeSkipMinutes now)

/-- Split the partitions in their order; `clock` is the reading used for each of them. -/
def selectPartitions (policy : PartitionSelectionPolicy) :
    List PartitionStats → (Nat → Int) → List PartitionStats × List PartitionSelectionResult
  | [], _ => ([], [])
  | stats :: rest, clock =>
      let result := evaluatePartition stats policy (clock 0)
      let later := selectPartitions policy rest fun index => clock (index + 1)
      if result.eligible then (stats :: later.1, later.2) else (later.1, result :: later.2)

/-! ## Verdicts -/

theorem partitionIsTooRecent_eq_false {stats : PartitionStats} {skipMinutes : Int}
    {now : Int} :
    partitionIsTooRecent stats skipMinutes now = false ↔
      stats.files ≠ [] ∧ ∀ file ∈ stats.files, file.lastModified ≤ now - minutes skipMinutes := by
  unfold partitionIsTooRecent
  cases latest : (stats.files.map ParquetFileInfo.lastModified).max? with
  | none =>
      have empty : stats.files = [] := by simpa [List.max?_eq_none_iff] using latest
      simp [empty]
  | some value =>
      have spec := List.max?_eq_some_iff.mp latest
      have nonempty : stats.files ≠ [] := by
        intro empty
        simp [empty] at latest
      have bound : value ≤ now - minutes skipMinutes ↔
          ∀ file ∈ stats.files, file.lastModified ≤ now - minutes skipMinutes := by
        constructor
        · intro within file member
          exact (spec.2 _ (List.mem_map_of_mem member)).trans within
        · intro all
          obtain ⟨file, member, rfl⟩ := List.mem_map.mp spec.1
          exact all file member
      simp [nonempty, bound]

/-- Eligible: old enough throughout, nonempty, and admitted by a count rule. -/
theorem evaluatePartition_eligible {stats : PartitionStats} {policy : PartitionSelectionPolicy}
    {now : Int} :
    (evaluatePartition stats policy now).eligible = true ↔
      stats.files ≠ [] ∧
        (∀ file ∈ stats.files, file.lastModified ≤ now - minutes policy.partitionAgeSkipMinutes) ∧
        policy.admits stats = true := by
  unfold evaluatePartition
  by_cases empty : stats.fileCount = 0
  · have files_nil : stats.files = [] := List.length_eq_zero_iff.mp empty
    simp [empty, files_nil]
  · have nonempty : stats.files ≠ [] := by
      intro files_nil
      exact empty (by simp [PartitionStats.fileCount, files_nil])
    cases recent : partitionIsTooRecent stats policy.partitionAgeSkipMinutes now with
    | true =>
        simp only [empty, PartitionSelectionPolicy.verdict, if_false, if_true, Bool.false_eq_true,
          false_iff]
        rintro ⟨-, old, -⟩
        have not_recent := partitionIsTooRecent_eq_false.mpr ⟨nonempty, old⟩
        exact Bool.false_ne_true (not_recent.symm.trans recent)
    | false =>
        have old := (partitionIsTooRecent_eq_false.mp recent).2
        simp only [empty, PartitionSelectionPolicy.verdict, if_false, Bool.false_eq_true, nonempty,
          ne_eq, not_false_eq_true, true_and]
        exact ⟨fun admitted => ⟨old, admitted⟩, fun eligible => eligible.2⟩

/-- More files do not make a partition less eligible. -/
theorem admits_mono {policy : PartitionSelectionPolicy} {stats larger : PartitionStats}
    (more : stats.files.Subperm larger.files) (admitted : policy.admits stats = true) :
    policy.admits larger = true := by
  have count : stats.fileCount ≤ larger.fileCount := more.length_le
  have small : (stats.smallFiles policy.smallFileThresholdBytes).length ≤
      (larger.smallFiles policy.smallFileThresholdBytes).length :=
    (more.filter fun file : ParquetFileInfo =>
      isSmallFile file.sizeBytes policy.smallFileThresholdBytes).length_le
  simp only [PartitionSelectionPolicy.admits, isPartitionEligible, gt_iff_lt,
    Bool.if_true_left, Bool.if_false_right, Bool.and_true, Bool.or_eq_true,
    decide_eq_true_eq] at admitted ⊢
  omega

@[simp]
theorem evaluatePartition_stats (stats : PartitionStats) (policy : PartitionSelectionPolicy)
    (now : Int) : (evaluatePartition stats policy now).stats = stats := by
  unfold evaluatePartition PartitionSelectionPolicy.verdict
  split
  · rfl
  · split <;> rfl

/-- The partitions selected come from the input, each found eligible at some reading. -/
theorem mem_selectPartitions {policy : PartitionSelectionPolicy} {partitions : List PartitionStats}
    {clock : Nat → Int} {stats : PartitionStats}
    (selected : stats ∈ (selectPartitions policy partitions clock).1) :
    stats ∈ partitions ∧
      ∃ index, (evaluatePartition stats policy (clock index)).eligible = true := by
  induction partitions generalizing clock with
  | nil => simp [selectPartitions] at selected
  | cons first rest ih =>
      simp only [selectPartitions] at selected
      split at selected
      · rename_i eligible
        rcases List.mem_cons.mp selected with rfl | later
        · exact ⟨List.mem_cons_self, 0, eligible⟩
        · obtain ⟨member, index, found⟩ := ih later
          exact ⟨List.mem_cons_of_mem first member, index + 1, found⟩
      · obtain ⟨member, index, found⟩ := ih selected
        exact ⟨List.mem_cons_of_mem first member, index + 1, found⟩

/-- A partition which is eligible at every reading is selected. -/
theorem mem_selectPartitions_of_eligible {policy : PartitionSelectionPolicy}
    {partitions : List PartitionStats} {clock : Nat → Int} {stats : PartitionStats}
    (member : stats ∈ partitions)
    (eligible : ∀ index, (evaluatePartition stats policy (clock index)).eligible = true) :
    stats ∈ (selectPartitions policy partitions clock).1 := by
  induction partitions generalizing clock with
  | nil => simp at member
  | cons first rest ih =>
      simp only [selectPartitions]
      rcases List.mem_cons.mp member with rfl | later
      · simp [eligible 0]
      · have selected := ih later fun index => eligible (index + 1)
        split
        · exact List.mem_cons_of_mem _ selected
        · exact selected

/-- Every input lands on one side. -/
theorem selectPartitions_length (policy : PartitionSelectionPolicy)
    (partitions : List PartitionStats) (clock : Nat → Int) :
    (selectPartitions policy partitions clock).1.length +
      (selectPartitions policy partitions clock).2.length = partitions.length := by
  induction partitions generalizing clock with
  | nil => rfl
  | cons first rest ih =>
      have later := ih fun index => clock (index + 1)
      simp only [selectPartitions]
      split <;> simp only [List.length_cons] <;> omega

/-- The selected partitions keep the order of the input. -/
theorem selectPartitions_sublist (policy : PartitionSelectionPolicy)
    (partitions : List PartitionStats) (clock : Nat → Int) :
    (selectPartitions policy partitions clock).1.Sublist partitions := by
  induction partitions generalizing clock with
  | nil => exact List.Sublist.slnil
  | cons first rest ih =>
      simp only [selectPartitions]
      split
      · exact (ih _).cons_cons first
      · exact (ih _).cons first

end Lakehouse
