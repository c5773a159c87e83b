import Lakehouse.Compactor.DatetimeArithmetic
import Lakehouse.Compactor.SelectionLaws

/-!
# The selection on datetimes

`now - timedelta(minutes=skip_minutes)` raises `OverflowError` where it is no `datetime`.  Where it
is one, the selection is that on the line of times; a partition without files is judged before the
cutoff is computed.
-/

namespace Lakehouse

open Foundation.Calendar (InRange)

namespace Datetime

/-- A partition without files counts as too recent. -/
def partitionIsTooRecent (stats : PartitionStats) (skipMinutes now : Int) :
    Except PyException Bool :=
  match (stats.files.map ParquetFileInfo.lastModified).max? with
  | none => .ok true
  | some latest => do
      let cutoff ← minusDelta now (minutes skipMinutes)
      return latest > cutoff

/-- Empty first, then too recent, then the count rules. -/
def evaluatePartition (stats : PartitionStats) (policy : PartitionSelectionPolicy) (now : Int) :
    Except PyException PartitionSelectionResult :=
  if stats.fileCount = 0 then
    .ok { stats, eligible := false, skipReason := some .empty }
  else do
    let tooRecent ← partitionIsTooRecent stats policy.partitionAgeSkipMinutes now
    return policy.verdict stats tooRecent

/-- Split the partitions in their order; the first cutoff out of range ends the selection. -/
def selectPartitions (policy : PartitionSelectionPolicy) :
    List PartitionStats → (Nat → Int) →
      Except PyException (List PartitionStats × List PartitionSelectionResult)
  | [], _ => .ok ([], [])
  | stats :: rest, clock => do
      let result ← evaluatePartition stats policy (clock 0)
      let later ← selectPartitions policy rest fun index => clock (index + 1)
      return if result.eligible then (stats :: later.1, later.2) else (later.1, result :: later.2)

end Datetime

/-- A time and its cutoff are datetimes. -/
structure PartitionSelectionPolicy.JudgesAt (policy : PartitionSelectionPolicy) (now : Int) :
    Prop where
  time : InRange now
  cutoff : InRange (now - minutes policy.partitionAgeSkipMinutes)

namespace Datetime

open PartitionStats

variable {stats : PartitionStats} {policy : PartitionSelectionPolicy} {now : Int}

/-! ## In range -/

theorem partitionIsTooRecent_eq (judges : policy.JudgesAt now) :
    partitionIsTooRecent stats policy.partitionAgeSkipMinutes now =
      .ok (Lakehouse.partitionIsTooRecent stats policy.partitionAgeSkipMinutes now) := by
  unfold partitionIsTooRecent Lakehouse.partitionIsTooRecent
  cases (stats.files.map ParquetFileInfo.lastModified).max? with
  | none => rfl
  | some latest =>
      simp only [minusDelta_eq judges.time judges.cutoff]
      rfl

theorem evaluatePartition_eq (judges : policy.JudgesAt now) :
    evaluatePartition stats policy now = .ok (Lakehouse.evaluatePartition stats policy now) := by
  unfold evaluatePartition Lakehouse.evaluatePartition
  split
  · rfl
  · rw [partitionIsTooRecent_eq judges]
    rfl

/-- A selection whose cutoffs are all in range is the one on the line of times. -/
theorem selectPartitions_eq {partitions : List PartitionStats} {clock : Nat → Int}
    (judges : ∀ index, policy.JudgesAt (clock index)) :
    selectPartitions policy partitions clock =
      .ok (Lakehouse.selectPartitions policy partitions clock) := by
  induction partitions generalizing clock with
  | nil => rfl
  | cons stats rest ih =>
      rw [selectPartitions, evaluatePartition_eq (judges 0), ok_bind,
        ih fun index => judges (index + 1), ok_bind, Lakehouse.selectPartitions]
      rfl

/-- A partition with files which gets a verdict has a cutoff in range. -/
theorem judgesAt_of_verdict {result : PartitionSelectionResult} (range : InRange now)
    (nonempty : stats.files ≠ []) (verdict : evaluatePartition stats policy now = .ok result) :
    policy.JudgesAt now := by
  have count : stats.fileCount ≠ 0 := fun zero => nonempty (List.length_eq_zero_iff.mp zero)
  rw [evaluatePartition, if_neg count] at verdict
  obtain ⟨tooRecent, judged, -⟩ := exists_of_bind_eq_ok verdict
  unfold partitionIsTooRecent at judged
  cases latest : (stats.files.map ParquetFileInfo.lastModified).max? with
  | none =>
      have empty : stats.files = [] := by simpa [List.max?_eq_none_iff] using latest
      exact absurd empty nonempty
  | some value =>
      rw [latest] at judged
      obtain ⟨cutoff, computed, -⟩ := exists_of_bind_eq_ok judged
      exact ⟨range, (inRange_of_minusDelta computed).2⟩

/-- A verdict is the one on the line of times. -/
theorem eq_of_verdict {result : PartitionSelectionResult} (range : InRange now)
    (verdict : evaluatePartition stats policy now = .ok result) :
    result = Lakehouse.evaluatePartition stats policy now := by
  by_cases empty : stats.files = []
  · have count : stats.fileCount = 0 := List.length_eq_zero_iff.mpr empty
    rw [evaluatePartition, if_pos count] at verdict
    rw [Lakehouse.evaluatePartition, if_pos count]
    exact (Except.ok.inj verdict).symm
  · rw [evaluatePartition_eq (judgesAt_of_verdict range empty verdict)] at verdict
    exact (Except.ok.inj verdict).symm

/-! ## The split -/

/-- The eligible partitions are the ripe ones and the skipped ones the others, each part in the
order of the input, and every skipped one carries the first reason which applies. -/
theorem selectPartitions_exact (policy : PartitionSelectionPolicy)
    (partitions : List PartitionStats) (now : Int) (judges : policy.JudgesAt now) :
    ∃ eligible skipped,
      selectPartitions policy partitions (fun _ => now) = .ok (eligible, skipped) ∧
      eligible = partitions.filter (fun stats => stats.IsRipe policy now) ∧
      skipped.map PartitionSelectionResult.stats =
        partitions.filter (fun stats => ¬stats.IsRipe policy now) ∧
      (eligible ++ skipped.map PartitionSelectionResult.stats).Perm partitions ∧
      ∀ result ∈ skipped,
        (result.skipReason = some .empty ↔ result.stats.files = []) ∧
        (result.skipReason = some .tooRecent ↔
          result.stats.files ≠ [] ∧ result.stats.HasRecentFile policy now) ∧
        (result.skipReason = some .healthy ↔
          result.stats.files ≠ [] ∧ ¬result.stats.HasRecentFile policy now) :=
  ⟨_, _, selectPartitions_eq fun _ => judges, selectPartitions_split policy partitions now⟩

/-- A small file of minute 0. -/
private def smallOldFile : PartitionStats where
  eventDate := "2024-06-11"
  eventHour := 10
  files := [⟨"part-0.parquet", 5, 0⟩]

/-- One small file makes a partition eligible, once it is so old. -/
private def singleFilePolicy (skipMinutes : Int) : PartitionSelectionPolicy where
  smallFileThresholdBytes := 10
  smallFileCountThreshold := 0
  partitionFileCountThreshold := 100
  partitionAgeSkipMinutes := skipMinutes

/-- A cutoff 3800 years ago raises. -/
theorem selectPartitions_longSkip :
    selectPartitions (singleFilePolicy 2000000000) [smallOldFile] (fun _ => minutes 2) =
      .error dateOverflow := by
  decide +kernel

theorem selectPartitions_exact_sample :
    ∃ eligible skipped,
      selectPartitions (singleFilePolicy 1) [smallOldFile] (fun _ => minutes 2) =
        .ok (eligible, skipped) ∧
      eligible = [smallOldFile] := by
  obtain ⟨eligible, skipped, selected, eligible_eq, -⟩ := selectPartitions_exact
    (singleFilePolicy 1) [smallOldFile] (minutes 2) ⟨by decide, by decide⟩
  exact ⟨eligible, skipped, selected, eligible_eq.trans (by decide)⟩

/-! ## Monotonicity -/

/-- The partition gets a verdict which fulfils the condition. -/
def Verdict (stats : PartitionStats) (policy : PartitionSelectionPolicy) (now : Int)
    (condition : PartitionSelectionResult → Prop) : Prop :=
  ∃ result, evaluatePartition stats policy now = .ok result ∧ condition result

def Eligible (stats : PartitionStats) (policy : PartitionSelectionPolicy) (now : Int) : Prop :=
  Verdict stats policy now fun result => result.eligible = true

def Ineligible (stats : PartitionStats) (policy : PartitionSelectionPolicy) (now : Int) : Prop :=
  Verdict stats policy now fun result => result.eligible = false

def TooRecent (stats : PartitionStats) (policy : PartitionSelectionPolicy) (now : Int) : Prop :=
  Verdict stats policy now fun result => result.skipReason = some .tooRecent

theorem eligible_iff (range : InRange now) :
    Eligible stats policy now ↔ policy.JudgesAt now ∧ stats.IsRipe policy now := by
  constructor
  · rintro ⟨result, verdict, eligible⟩
    obtain rfl := eq_of_verdict range verdict
    have ripe := evaluatePartition_eligible_iff_isRipe.mp eligible
    exact ⟨judgesAt_of_verdict range ripe.1 verdict, ripe⟩
  · rintro ⟨judges, ripe⟩
    exact ⟨_, evaluatePartition_eq judges, evaluatePartition_eligible_iff_isRipe.mpr ripe⟩

theorem tooRecent_iff (range : InRange now) :
    TooRecent stats policy now ↔ policy.JudgesAt now ∧ stats.HasRecentFile policy now := by
  constructor
  · rintro ⟨result, verdict, reason⟩
    obtain rfl := eq_of_verdict range verdict
    have recent := evaluatePartition_tooRecent.mp reason
    obtain ⟨file, member, -⟩ := id recent
    exact ⟨judgesAt_of_verdict range (List.ne_nil_of_mem member) verdict, recent⟩
  · rintro ⟨judges, recent⟩
    exact ⟨_, evaluatePartition_eq judges, evaluatePartition_tooRecent.mpr recent⟩

/-- A verdict other than eligible says that the partition is not ripe. -/
theorem not_isRipe_of_ineligible (range : InRange now)
    (ineligible : Ineligible stats policy now) : ¬stats.IsRipe policy now := by
  obtain ⟨result, verdict, refused⟩ := ineligible
  obtain rfl := eq_of_verdict range verdict
  rw [← evaluatePartition_eligible_iff_isRipe, refused]
  exact Bool.false_ne_true

theorem ineligible_of_not_isRipe (judges : policy.JudgesAt now)
    (not_ripe : ¬stats.IsRipe policy now) : Ineligible stats policy now :=
  ⟨_, evaluatePartition_eq judges, Bool.eq_false_iff.mpr fun eligible =>
    not_ripe (evaluatePartition_eligible_iff_isRipe.mp eligible)⟩

/-- Each of the parameters moves the verdict in one direction, wherever there is a verdict. -/
theorem evaluatePartition_monotone (stats : PartitionStats) (policy : PartitionSelectionPolicy)
    (now : Int) (range : InRange now) :
    (∀ later, now ≤ later → policy.JudgesAt later →
        Eligible stats policy now → Eligible stats policy later) ∧
      (∀ added larger : List ParquetFileInfo, larger.Perm (stats.files ++ added) →
        (∀ file ∈ added,
          ¬file.lastModified > now - minutes policy.partitionAgeSkipMinutes) →
        Eligible stats policy now → Eligible { stats with files := larger } policy now) ∧
      (∀ added larger : List ParquetFileInfo, larger.Perm (stats.files ++ added) →
        TooRecent stats policy now → TooRecent { stats with files := larger } policy now) ∧
      (∀ strict : PartitionSelectionPolicy, strict.StricterThan policy → strict.JudgesAt now →
        Ineligible stats policy now → Ineligible stats strict now) ∧
      (∀ bytes, policy.smallFileThresholdBytes ≤ bytes → Eligible stats policy now →
        Eligible stats { policy with smallFileThresholdBytes := bytes } now) := by
  refine ⟨?_, ?_, ?_, ?_, ?_⟩
  · intro later after judges eligible
    rw [eligible_iff range] at eligible
    rw [eligible_iff judges.time]
    exact ⟨judges, isRipe_later after eligible.2⟩
  · intro added larger same added_old eligible
    rw [eligible_iff range] at eligible ⊢
    exact ⟨eligible.1, isRipe_of_added same added_old eligible.2⟩
  · intro added larger same recent
    rw [tooRecent_iff range] at recent ⊢
    exact ⟨recent.1, hasRecentFile_of_added same recent.2⟩
  · intro strict stricter judges ineligible
    have not_ripe := not_isRipe_of_ineligible range ineligible
    exact ineligible_of_not_isRipe judges fun ripe =>
      not_ripe (isRipe_of_stricterThan stricter ripe)
  · intro bytes larger eligible
    rw [eligible_iff range] at eligible ⊢
    exact ⟨⟨range, eligible.1.cutoff⟩, isRipe_of_larger_threshold larger eligible.2⟩

/-- With an age 7600 years below zero, a partition is eligible in 1970, and 500 years later there is
no cutoff. -/
theorem eligible_then_overflow :
    Eligible smallOldFile (singleFilePolicy (-4000000000)) 0 ∧
      evaluatePartition smallOldFile (singleFilePolicy (-4000000000)) (minutes 262980000) =
        .error dateOverflow := by
  refine ⟨⟨⟨smallOldFile, true, none, 1⟩, ?_, rfl⟩, ?_⟩ <;> decide +kernel

theorem evaluatePartition_monotone_sample :
    Eligible smallOldFile (singleFilePolicy 1) (minutes 2) ∧
      Eligible { smallOldFile with files := smallOldFile.files ++ smallOldFile.files }
        (singleFilePolicy 1) (minutes 1) ∧
      TooRecent { smallOldFile with files := smallOldFile.files ++ smallOldFile.files }
        (singleFilePolicy 1) 0 ∧
      Ineligible smallOldFile (singleFilePolicy 2) 0 ∧
      Eligible smallOldFile { singleFilePolicy 1 with smallFileThresholdBytes := 20 }
        (minutes 1) := by
  obtain ⟨later, adding, -, -, larger⟩ :=
    evaluatePartition_monotone smallOldFile (singleFilePolicy 1) (minutes 1) (by decide)
  obtain ⟨-, -, recent, stricter, -⟩ :=
    evaluatePartition_monotone smallOldFile (singleFilePolicy 1) 0 (by decide)
  have eligible : Eligible smallOldFile (singleFilePolicy 1) (minutes 1) :=
    (eligible_iff (by decide)).mpr ⟨⟨by decide, by decide⟩, by decide⟩
  have too_recent : TooRecent smallOldFile (singleFilePolicy 1) 0 :=
    (tooRecent_iff (by decide)).mpr ⟨⟨by decide, by decide⟩, by decide⟩
  have ineligible : Ineligible smallOldFile (singleFilePolicy 1) 0 :=
    ineligible_of_not_isRipe ⟨by decide, by decide⟩ (by decide)
  refine ⟨later _ (by decide) ⟨by decide, by decide⟩ eligible,
    adding _ _ (List.Perm.refl _) (by decide) eligible, recent _ _ (List.Perm.refl _) too_recent,
    stricter _ ⟨?_, ?_, ?_, ?_⟩ ⟨by decide, by decide⟩ ineligible,
    larger 20 (by decide) eligible⟩ <;> decide

end Datetime

end Lakehouse
