import Lakehouse.Compactor.DatetimeSelection
import Lakehouse.Compactor.DeltaTable

/-!
# Selection and the history of a table

A rewrite marks files removed and leaves their objects, so the store holds every file which a commit
has ever written.  The selection therefore judges a partition by its whole history: a compaction
adds files to what is judged and takes none away.
-/

namespace Lakehouse

open Foundation

/-- The files which a commit writes. -/
def Commit.written : Commit → List DataFile
  | .append files _ => files
  | .rewrite _ _ output _ _ => output

/-- The files which a history has written, replaced or not. -/
def everWritten (history : List Commit) : List DataFile := history.flatMap Commit.written

/-- The partition as if all its files were live. -/
def writtenStats (location : TableLocation) (history : List Commit) (key : String × Int) :
    PartitionStats where
  eventDate := key.1
  eventHour := key.2
  files := ((everWritten history).filter fun file => file.key = key).map fun file =>
    (file.toObject location).toFile

namespace DeltaTable

/-- The data files in the store, live or not. -/
def dataFiles (table : DeltaTable) : List DataFile := table.live ++ table.removed

/-- A commit adds what it writes, and moves files between the two lists. -/
theorem dataFiles_commit (table : DeltaTable) (entry : Commit) :
    (table.commit entry).dataFiles.Perm (table.dataFiles ++ entry.written) := by
  cases entry with
  | append files log =>
      simp only [dataFiles, commit, Commit.written, List.append_assoc]
      exact List.perm_append_comm.append_left table.live
  | rewrite key replaces output inside log =>
      let marked : DataFile → Bool := fun file => decide (file.key = key) && replaces file
      have removed : (table.liveFiles key).filter replaces = table.live.filter marked := by
        rw [liveFiles, List.filter_filter]
        exact List.filter_congr fun file _ => Bool.and_comm _ _
      have split : (table.live.filter (fun file => !marked file) ++ table.live.filter marked).Perm
          table.live :=
        List.perm_append_comm.trans (List.filter_append_perm marked table.live)
      have gathered : ∀ kept moved : List DataFile,
          (kept ++ output ++ (table.removed ++ moved)).Perm
            (kept ++ moved ++ table.removed ++ output) := by
        intro kept moved
        have last : (output ++ (table.removed ++ moved)).Perm (moved ++ table.removed ++ output) :=
          List.perm_append_comm.trans (List.perm_append_comm.append_right output)
        simpa only [List.append_assoc] using last.append_left kept
      simp only [dataFiles, commit, Commit.written, removed]
      exact (gathered _ _).trans ((split.append_right table.removed).append_right output)

/-- The store holds every file which was ever written, and no other. -/
theorem dataFiles_perm {history : List Commit} {table : DeltaTable}
    (run : machine.exec {} history = some table) : table.dataFiles.Perm (everWritten history) := by
  have later : ∀ {start : DeltaTable} {entries : List Commit},
      machine.exec start entries = some table →
        table.dataFiles.Perm (start.dataFiles ++ everWritten entries) := by
    intro start entries ran
    induction entries generalizing start with
    | nil =>
        obtain rfl := Option.some.inj ran
        simp [everWritten]
    | cons entry entries ih =>
        obtain ⟨next, taken, rest⟩ := machine.exec_cons_eq_some ran
        obtain rfl := Option.some.inj taken
        refine (ih rest).trans ?_
        have first := (start.dataFiles_commit entry).append_right (everWritten entries)
        rwa [List.append_assoc] at first
  simpa [dataFiles] using later run

variable {config : CompactionConfig} {location : TableLocation} {history : List Commit}
  {table : DeltaTable}

/-- A scan finds every file which was ever written to a partition. -/
theorem storedFiles_perm (addresses : config.Addresses location) (visible : ¬PathHidden config)
    (run : machine.exec {} history = some table) (key : String × Int) :
    (storedFiles config key (table.store location config.minioBucket)).Perm
      (writtenStats location history key).files := by
  have ever := ((dataFiles_perm run).filter fun file => file.key = key).map
    fun file => (file.toObject location).toFile
  rw [storedFiles_store addresses visible, liveFiles, removedFiles, ← List.filter_append]
  exact ever

end DeltaTable

/-! ## Selection -/

section Selection

variable {config : CompactionConfig} {location : TableLocation}
  {policy : PartitionSelectionPolicy} {now : Int}

/-- The verdict depends only on which files there are. -/
theorem isRipe_congr {stats same : PartitionStats} (files : stats.files.Perm same.files) :
    stats.IsRipe policy now ↔ same.IsRipe policy now := by
  have nonempty : stats.files = [] ↔ same.files = [] :=
    ⟨fun empty => (empty ▸ files).nil_eq.symm, fun empty => (empty ▸ files).eq_nil⟩
  simp only [PartitionStats.IsRipe, PartitionStats.HasRecentFile, PartitionStats.IsCrowded, ne_eq,
    nonempty, files.mem_iff, files.countP_eq, files.length_eq]

theorem written_sublist (earlier later : List Commit) (key : String × Int) :
    (writtenStats location earlier key).files.Sublist
      (writtenStats location (earlier ++ later) key).files := by
  simp only [writtenStats, everWritten, List.flatMap_append, List.filter_append, List.map_append]
  exact List.sublist_append_left _ _

/-- The selection judges a partition by every file which was ever written to it: what is selected is
ripe with all of them, and once they are crowded, the partition is selected whenever none of them is
recent, whatever was appended or compacted since. -/
theorem selection_remembers (addresses : config.Addresses location) {earlier later : List Commit}
    {table : DeltaTable} (run : DeltaTable.machine.exec {} (earlier ++ later) = some table)
    {pages : List (List S3Object)}
    (lists : Lists config (table.store location config.minioBucket) pages) (clock : Nat → Int)
    (judges : ∀ index, (PartitionSelectionPolicy.fromConfig config).JudgesAt (clock index))
    (key : String × Int) :
    ∃ eligible skipped,
      Datetime.selectPartitions (.fromConfig config) (scanPartitions config pages) clock =
        .ok (eligible, skipped) ∧
      (∀ stats ∈ eligible, stats.key = key → ∃ index,
        (writtenStats location (earlier ++ later) key).IsRipe (.fromConfig config)
          (clock index)) ∧
      (¬PathHidden config →
        (writtenStats location earlier key).IsCrowded (.fromConfig config) →
        (writtenStats location earlier key).files ≠ [] →
        (∀ index, ¬(writtenStats location (earlier ++ later) key).HasRecentFile
          (.fromConfig config) (clock index)) →
        ∃ stats ∈ eligible, stats.key = key) := by
  refine ⟨_, _, Datetime.selectPartitions_eq judges, ?_, ?_⟩
  · rintro stats selected rfl
    obtain ⟨member, index, eligible⟩ := mem_selectPartitions selected
    have found := files_perm_storedFiles lists member
    have visible : ¬PathHidden config := by
      intro hidden
      rw [DeltaTable.storedFiles_store_hidden addresses hidden] at found
      exact (mem_scanPartitions.mp member).1 found.eq_nil
    refine ⟨index, ?_⟩
    rw [← isRipe_congr (found.trans (DeltaTable.storedFiles_perm addresses visible run stats.key))]
    exact evaluatePartition_eligible_iff_isRipe.mp eligible
  · intro visible crowded nonempty old
    have more : (writtenStats location earlier key).files.Sublist
        (writtenStats location (earlier ++ later) key).files := written_sublist earlier later key
    have still_nonempty : (writtenStats location (earlier ++ later) key).files ≠ [] := by
      intro empty
      rw [empty] at more
      exact nonempty (List.sublist_nil.mp more)
    have ripe : ∀ index, (writtenStats location (earlier ++ later) key).IsRipe
        (.fromConfig config) (clock index) := fun index =>
      ⟨still_nonempty, old index, isCrowded_of_subperm more.subperm crowded⟩
    have ever := DeltaTable.storedFiles_perm addresses visible run key
    have stored : storedFiles config key (table.store location config.minioBucket) ≠ [] :=
      fun empty => still_nonempty (empty ▸ ever).nil_eq.symm
    obtain ⟨stats, member, rfl⟩ := exists_mem_scanPartitions lists stored
    refine ⟨stats, mem_selectPartitions_of_eligible member fun index => ?_, rfl⟩
    have files := (files_perm_storedFiles lists member).trans ever
    exact evaluatePartition_eligible_iff_isRipe.mpr ((isRipe_congr files).mpr (ripe index))

def singleFileTolerated : CompactionConfig := { smallFileCountThreshold := 1 }

/-- An hour with two small files, which are then replaced by one. -/
def overwrittenTable : DeltaTable :=
  DeltaTable.commit (DeltaTable.commit {} DeltaTable.appendTwo) DeltaTable.overwriteHour

/-- The hour is selected again for the files which it has no more. -/
theorem selection_remembers_overwriteHour :
    ∃ eligible skipped,
      Datetime.selectPartitions (.fromConfig singleFileTolerated)
          (scanPartitions singleFileTolerated (DeltaTable.defaultPages overwrittenTable))
          (fun _ => hours 1) = .ok (eligible, skipped) ∧
        ∃ stats ∈ eligible, stats.key = ("2024-06-11", 10) := by
  have addresses : singleFileTolerated.Addresses DeltaTable.defaultLocation :=
    ⟨by decide +kernel, by decide⟩
  have run : DeltaTable.machine.exec {} ([DeltaTable.appendTwo] ++ [DeltaTable.overwriteHour]) =
      some overwrittenTable := rfl
  have lists : Lists singleFileTolerated
      (overwrittenTable.store DeltaTable.defaultLocation singleFileTolerated.minioBucket)
      (DeltaTable.defaultPages overwrittenTable) := by
    rw [Lists, DeltaTable.defaultPages, List.flatten_singleton]
    exact .rfl
  obtain ⟨eligible, skipped, selected, -, remembers⟩ := selection_remembers addresses run lists
    (fun _ => hours 1) (fun _ => ⟨by decide, by decide⟩) ("2024-06-11", 10)
  exact ⟨eligible, skipped, selected, remembers (by decide +kernel) (by decide +kernel)
    (by decide +kernel) fun _ => by decide +kernel⟩

end Selection

end Lakehouse
