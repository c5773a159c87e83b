import Mathlib.Data.List.Count
import Lakehouse.Compactor.SelectionLaws

/-!
# Scans of one listing in different orders

A scan files every Parquet object of the table once, under its own partition, and returns the
partitions in strictly increasing order.  The order and the paging of the listing only show in the
order of the files of a partition, which no verdict of the selection depends on.
-/

namespace Lakehouse

open Foundation

variable {config : CompactionConfig} {pages pages' : List (List S3Object)}

/-! ## Objects and files -/

/-- A data file of the partition: a Parquet object outside the log whose key is parsed to it. -/
def S3Object.BelongsTo (object : S3Object) (config : CompactionConfig) (key : String × Int) :
    Prop :=
  ".parquet".toList <:+ object.key.toList ∧ ¬"_delta_log".toList <:+: object.key.toList ∧
    parsePartitionFromKey object.key config = some key

instance (object : S3Object) (config : CompactionConfig) (key : String × Int) :
    Decidable (object.BelongsTo config key) :=
  inferInstanceAs (Decidable (_ ∧ _ ∧ _))

theorem scannedPartition_eq_some {object : S3Object} {key : String × Int} :
    scannedPartition config object = some key ↔ object.BelongsTo config key := by
  by_cases log : "_delta_log".toList <:+: object.key.toList
  · rw [scannedPartition_of_log log]
    exact ⟨fun found => absurd found.symm (Option.some_ne_none key), fun inside =>
      absurd log inside.2.1⟩
  · by_cases parquet : ".parquet".toList <:+ object.key.toList
    · rw [scannedPartition_of_data log parquet]
      exact ⟨fun found => ⟨parquet, log, found⟩, fun inside => inside.2.2⟩
    · have skipped : scannedPartition config object = none := if_pos (.inr parquet)
      rw [skipped]
      exact ⟨fun found => absurd found.symm (Option.some_ne_none key), fun inside =>
        absurd inside.1 parquet⟩

theorem toFile_injective : Function.Injective S3Object.toFile := by
  rintro ⟨key, size, lastModified⟩ ⟨key', size', lastModified'⟩ same
  obtain ⟨rfl, rfl, rfl⟩ := ParquetFileInfo.mk.inj same
  rfl

/-- A file is listed in a partition as often as its object belongs there. -/
theorem count_toFile_filesOf (key : String × Int) (objects : List S3Object) (object : S3Object) :
    (filesOf config key objects).count object.toFile =
      if object.BelongsTo config key then objects.count object else 0 := by
  rw [filesOf, List.count_map_of_injective _ _ toFile_injective, Dict.members]
  split
  · rename_i inside
    exact List.count_filter (by simpa using scannedPartition_eq_some.mpr inside)
  · rename_i outside
    refine List.count_eq_zero.mpr fun member => outside ?_
    exact scannedPartition_eq_some.mp (by simpa using (List.mem_filter.mp member).2)

/-! ## The order of the partitions -/

/-- The strict order of the tuples `(event_date, event_hour)`. -/
def PartitionStats.StrictlyPrecedes (left right : PartitionStats) : Prop :=
  left.eventDate < right.eventDate ∨
    (left.eventDate = right.eventDate ∧ left.eventHour < right.eventHour)

private instance precedes_total : Std.Total PartitionStats.Precedes where
  total left right := by
    by_cases before : left.eventDate < right.eventDate
    · exact .inl (.inl before)
    · by_cases after : right.eventDate < left.eventDate
      · exact .inr (.inl after)
      · have same : left.eventDate = right.eventDate :=
          String.le_antisymm (String.not_lt.mp after) (String.not_lt.mp before)
        rcases le_total left.eventHour right.eventHour with le | ge
        · exact .inl (.inr ⟨same, le⟩)
        · exact .inr (.inr ⟨same.symm, ge⟩)

private instance precedes_trans : IsTrans PartitionStats PartitionStats.Precedes where
  trans first second third := by
    rintro (before | ⟨same, le⟩) (before' | ⟨same', le'⟩)
    · exact .inl (String.lt_trans before before')
    · exact .inl (same' ▸ before)
    · exact .inl (same.symm ▸ before')
    · exact .inr ⟨same.trans same', le.trans le'⟩

/-- In the dictionary, each partition stands under its own key. -/
theorem key_of_mem_scannedDict {entry : (String × Int) × PartitionStats}
    (member : entry ∈ scannedDict config pages) : entry.2.key = entry.1 := by
  have nodup : ((scannedDict config pages).map Prod.fst).Nodup := by
    rw [scannedDict_eq_group]
    exact Dict.nodup_keys_group _ _ _ _
  have found := (Dict.mem_iff_get? nodup).mp member
  rw [get?_scannedDict] at found
  split at found
  · simp at found
  · exact congrArg PartitionStats.key (Option.some.inj found).symm

theorem nodup_keys_scanPartitions (config : CompactionConfig) (pages : List (List S3Object)) :
    ((scanPartitions config pages).map PartitionStats.key).Nodup := by
  have keys : ((scannedDict config pages).map Prod.snd).map PartitionStats.key =
      (scannedDict config pages).map Prod.fst := by
    rw [List.map_map]
    exact List.map_congr_left fun entry member => key_of_mem_scannedDict member
  have sorted := (List.perm_insertionSort PartitionStats.Precedes
    ((scannedDict config pages).map Prod.snd)).map PartitionStats.key
  rw [scanPartitions, sorted.nodup_iff, keys, scannedDict_eq_group]
  exact Dict.nodup_keys_group _ _ _ _

theorem scanPartitions_pairwise (config : CompactionConfig) (pages : List (List S3Object)) :
    (scanPartitions config pages).Pairwise PartitionStats.StrictlyPrecedes := by
  have sorted : (scanPartitions config pages).Pairwise PartitionStats.Precedes :=
    List.pairwise_insertionSort _ _
  have distinct := List.pairwise_map.mp (nodup_keys_scanPartitions config pages)
  refine (sorted.and distinct).imp fun {left right} related => ?_
  obtain ⟨before | ⟨same, le⟩, differ⟩ := related
  · exact .inl before
  · refine .inr ⟨same, lt_of_le_of_ne le fun hours => differ ?_⟩
    rw [PartitionStats.key, PartitionStats.key, same, hours]

/-! ## Permuted listings -/

/-- The same partition with the same files, up to their order. -/
def PartitionStats.SameUpToOrder (left right : PartitionStats) : Prop :=
  left.key = right.key ∧ left.files.Perm right.files

theorem mem_keys_scanPartitions {key : String × Int} :
    key ∈ (scanPartitions config pages).map PartitionStats.key ↔
      filesOf config key pages.flatten ≠ [] := by
  constructor
  · intro member
    obtain ⟨stats, found, rfl⟩ := List.mem_map.mp member
    obtain ⟨nonempty, files⟩ := mem_scanPartitions.mp found
    rwa [← files]
  · intro nonempty
    exact List.mem_map.mpr
      ⟨⟨key.1, key.2, filesOf config key pages.flatten⟩, mem_scanPartitions.mpr ⟨nonempty, rfl⟩,
        rfl⟩

/-- Permuted listings show the same partitions in the same order. -/
theorem keys_scanPartitions_eq (same : pages.flatten.Perm pages'.flatten) :
    (scanPartitions config pages).map PartitionStats.key =
      (scanPartitions config pages').map PartitionStats.key := by
  have members : ((scanPartitions config pages).map PartitionStats.key).Perm
      ((scanPartitions config pages').map PartitionStats.key) := by
    rw [List.perm_ext_iff_of_nodup (nodup_keys_scanPartitions config pages)
      (nodup_keys_scanPartitions config pages')]
    intro key
    rw [mem_keys_scanPartitions, mem_keys_scanPartitions]
    have files := filesOf_perm config key same
    exact not_congr ⟨fun empty => (empty ▸ files).nil_eq.symm, fun empty => (empty ▸ files).eq_nil⟩
  have sorted : ∀ listing : List (List S3Object),
      ((scanPartitions config listing).map PartitionStats.key).Pairwise fun left right =>
        left.1 < right.1 ∨ (left.1 = right.1 ∧ left.2 < right.2) :=
    fun listing => List.pairwise_map.mpr (scanPartitions_pairwise config listing)
  refine members.eq_of_pairwise ?_ (sorted pages) (sorted pages')
  rintro ⟨date, hour⟩ ⟨date', hour'⟩ - - (before | ⟨same_date, less⟩)
    (before' | ⟨equal, less'⟩)
  · exact absurd before' (String.lt_asymm before)
  · exact absurd before (equal ▸ String.lt_irrefl _)
  · exact absurd before' (same_date ▸ String.lt_irrefl _)
  · exact absurd less' (lt_asymm less)

/-- Lists whose keys agree are related, if elements with one key are. -/
theorem forall₂_of_map_eq {α κ : Type} {related : α → α → Prop} {keyOf : α → κ}
    {left right : List α} (keys : left.map keyOf = right.map keyOf)
    (agree : ∀ a ∈ left, ∀ b ∈ right, keyOf a = keyOf b → related a b) :
    List.Forall₂ related left right := by
  induction left generalizing right with
  | nil =>
      obtain rfl : right = [] := by simpa using keys.symm
      exact .nil
  | cons first left ih =>
      cases right with
      | nil => simp at keys
      | cons first' right =>
          obtain ⟨head, tail⟩ := List.cons.inj keys
          refine .cons (agree _ List.mem_cons_self _ List.mem_cons_self head) (ih tail ?_)
          exact fun a a_mem b b_mem =>
            agree a (List.mem_cons_of_mem _ a_mem) b (List.mem_cons_of_mem _ b_mem)

theorem scanPartitions_sameUpToOrder (same : pages.flatten.Perm pages'.flatten) :
    List.Forall₂ PartitionStats.SameUpToOrder (scanPartitions config pages)
      (scanPartitions config pages') := by
  refine forall₂_of_map_eq (keys_scanPartitions_eq same) ?_
  intro left left_mem right right_mem keys
  refine ⟨keys, ?_⟩
  rw [(mem_scanPartitions.mp left_mem).2, (mem_scanPartitions.mp right_mem).2, keys]
  exact filesOf_perm config right.key same

/-! ## Verdicts on permuted files -/

section Verdicts

variable {left right : PartitionStats} {policy : PartitionSelectionPolicy} {now : Int}

theorem hasRecentFile_congr (same : left.files.Perm right.files) :
    left.HasRecentFile policy now ↔ right.HasRecentFile policy now := by
  simp only [PartitionStats.HasRecentFile, same.mem_iff]

theorem isCrowded_congr (same : left.files.Perm right.files) :
    left.IsCrowded policy ↔ right.IsCrowded policy := by
  simp only [PartitionStats.IsCrowded, same.countP_eq, same.length_eq]

/-- Two partitions which are the same up to order get the same verdict. -/
structure PartitionSelectionResult.SameVerdict (left right : PartitionSelectionResult) : Prop where
  stats : left.stats.SameUpToOrder right.stats
  eligible : left.eligible = right.eligible
  skipReason : left.skipReason = right.skipReason

theorem evaluatePartition_sameVerdict (policy : PartitionSelectionPolicy) (now : Int)
    (same : left.SameUpToOrder right) :
    (evaluatePartition left policy now).SameVerdict (evaluatePartition right policy now) := by
  have empty : left.files = [] ↔ right.files = [] :=
    ⟨fun nil => (nil ▸ same.2).nil_eq.symm, fun nil => (nil ▸ same.2).eq_nil⟩
  have recent := @hasRecentFile_congr left right policy now same.2
  have crowded := @isCrowded_congr left right policy same.2
  refine ⟨?_, ?_, ?_⟩
  · simpa using same
  · rw [Bool.eq_iff_iff, evaluatePartition_eligible_iff_isRipe,
      evaluatePartition_eligible_iff_isRipe]
    exact and_congr (not_congr empty) (and_congr (not_congr recent) crowded)
  · simp only [evaluatePartition_skipReason, empty, recent, crowded]

theorem selectPartitions_sameVerdict (policy : PartitionSelectionPolicy) (now : Int)
    {partitions partitions' : List PartitionStats}
    (same : List.Forall₂ PartitionStats.SameUpToOrder partitions partitions') :
    List.Forall₂ PartitionStats.SameUpToOrder
        (selectPartitions policy partitions fun _ => now).1
        (selectPartitions policy partitions' fun _ => now).1 ∧
      List.Forall₂ PartitionSelectionResult.SameVerdict
        (selectPartitions policy partitions fun _ => now).2
        (selectPartitions policy partitions' fun _ => now).2 := by
  induction same with
  | nil => exact ⟨.nil, .nil⟩
  | cons head _ ih =>
      have verdict := evaluatePartition_sameVerdict policy now head
      simp only [selectPartitions, verdict.eligible]
      split
      · exact ⟨.cons head ih.1, ih.2⟩
      · exact ⟨ih.1, .cons verdict ih.2⟩

end Verdicts

/-! ## What a scan does -/

/-- Every data file of the listing is in exactly one partition, as often as it is listed, and
nothing else is; the partitions are in strictly increasing order and not empty; and a permuted
listing gives the same partitions and verdicts. -/
theorem scanPartitions_exact (config : CompactionConfig) (pages : List (List S3Object)) :
    (∀ stats ∈ scanPartitions config pages, ∀ object : S3Object,
        stats.files.count object.toFile =
          if object.BelongsTo config stats.key then pages.flatten.count object else 0) ∧
      (∀ object ∈ pages.flatten, ∀ key, object.BelongsTo config key →
        ∃! stats, stats ∈ scanPartitions config pages ∧ object.toFile ∈ stats.files) ∧
      (scanPartitions config pages).Pairwise PartitionStats.StrictlyPrecedes ∧
      (∀ stats ∈ scanPartitions config pages, stats.files ≠ []) ∧
      ∀ pages' : List (List S3Object), pages.flatten.Perm pages'.flatten →
        List.Forall₂ PartitionStats.SameUpToOrder (scanPartitions config pages)
          (scanPartitions config pages') ∧
        ∀ policy now,
          List.Forall₂ PartitionStats.SameUpToOrder
            (selectPartitions policy (scanPartitions config pages) fun _ => now).1
            (selectPartitions policy (scanPartitions config pages') fun _ => now).1 ∧
          List.Forall₂ PartitionSelectionResult.SameVerdict
            (selectPartitions policy (scanPartitions config pages) fun _ => now).2
            (selectPartitions policy (scanPartitions config pages') fun _ => now).2 := by
  have counts : ∀ stats ∈ scanPartitions config pages, ∀ object : S3Object,
      stats.files.count object.toFile =
        if object.BelongsTo config stats.key then pages.flatten.count object else 0 := by
    intro stats member object
    rw [(mem_scanPartitions.mp member).2]
    exact count_toFile_filesOf _ _ _
  refine ⟨counts, ?_, scanPartitions_pairwise config pages,
    fun stats member => (mem_scanPartitions.mp member).1, fun pages' same => ?_⟩
  · intro object listed key inside
    have filed := toFile_mem_filesOf listed (scannedPartition_eq_some.mpr inside)
    refine ⟨⟨key.1, key.2, filesOf config key pages.flatten⟩,
      ⟨mem_scanPartitions.mpr ⟨List.ne_nil_of_mem filed, rfl⟩, filed⟩, ?_⟩
    rintro other ⟨other_mem, other_filed⟩
    have keys : other.key = key := by
      have positive := List.count_pos_iff.mpr other_filed
      rw [counts other other_mem object] at positive
      split at positive
      · rename_i other_inside
        exact Option.some.inj (other_inside.2.2.symm.trans inside.2.2)
      · simp at positive
    exact eq_of_mem_scanPartitions other_mem
      (mem_scanPartitions.mpr ⟨List.ne_nil_of_mem filed, rfl⟩) keys
  · have partitions := @scanPartitions_sameUpToOrder config pages pages' same
    exact ⟨partitions, fun policy now => selectPartitions_sameVerdict policy now partitions⟩

end Lakehouse
