import Lakehouse.Compactor.CompactionDaemon
import Lakehouse.Compactor.ObjectKeys
import Lakehouse.Compactor.TableLocation
import Lakehouse.Compactor.TargetSizing
import Lakehouse.Foundation.Machine

/-!
# The scanner and the Delta snapshot

A Delta table as its log describes it: the files which are live, and those which a rewrite has
marked removed and which stay in the store, at the place where Spark keeps the table.  A scanner
which looks there counts both, so it agrees with the snapshot of a partition exactly while no
rewrite has replaced a file of it.
-/

namespace Lakehouse

open Foundation

/-- A data file as Spark names it; its characters keep it from looking like anything else. -/
structure DataFile where
  eventDate : String
  eventHour : Nat
  /-- The file name without `.parquet`. -/
  stem : String
  size : Nat
  lastModified : Int
  date_ne : eventDate ≠ ""
  date_chars : ∀ c ∈ eventDate.toList, c.isDigit = true ∨ c = '-' ∨ c = '+'
  stem_chars : ∀ c ∈ stem.toList, c.isAlphanum = true ∨ c = '-' ∨ c = '.'

namespace DataFile

/-- The partition of the file. -/
def key (file : DataFile) : String × Int := (file.eventDate, (file.eventHour : Int))

/-- The object which holds the file of a table at the given place. -/
def toObject (location : TableLocation) (file : DataFile) : S3Object where
  key := location.objectKey
    (partitionIdText file.eventDate file.eventHour ++ "/" ++ file.stem ++ ".parquet")
  size := file.size
  lastModified := file.lastModified

end DataFile

/-- The table path looks like a log path to the scanner. -/
def PathHidden (config : CompactionConfig) : Prop :=
  "_delta_log".toList <:+: config.tableKeyPrefix.toList

instance (config : CompactionConfig) : Decidable (PathHidden config) :=
  inferInstanceAs (Decidable (_ <:+: _))

/-- A commit or checkpoint file of the log. -/
structure LogFile where
  name : String
  size : Nat
  lastModified : Int

def LogFile.toObject (location : TableLocation) (file : LogFile) : S3Object where
  key := location.objectKey ("_delta_log/" ++ file.name)
  size := file.size
  lastModified := file.lastModified

/-- What the log of a table says about its files. -/
structure DeltaTable where
  /-- The files of the current snapshot. -/
  live : List DataFile := []
  /-- The files marked removed, whose objects are still there. -/
  removed : List DataFile := []
  log : List LogFile := []

/-- A commit of the streaming job or of a compaction, with the log file it writes. -/
inductive Commit
  | append (files : List DataFile) (entry : LogFile)
  /-- A rewrite of one partition.  An overwrite replaces all its files, `OPTIMIZE` picks some. -/
  | rewrite (key : String × Int) (replaces : DataFile → Bool) (output : List DataFile)
      (output_inside : ∀ file ∈ output, file.key = key) (entry : LogFile)

namespace DeltaTable

/-- The objects of a table at the given place. -/
def objects (location : TableLocation) (table : DeltaTable) : List S3Object :=
  (table.live ++ table.removed).map (DataFile.toObject location) ++
    table.log.map (LogFile.toObject location)

/-- The objects in each bucket of the store. -/
def store (location : TableLocation) (table : DeltaTable) (bucket : String) : List S3Object :=
  if bucket = location.bucket then table.objects location else []

/-- The live files of a partition. -/
def liveFiles (table : DeltaTable) (key : String × Int) : List DataFile :=
  table.live.filter fun file => file.key = key

/-- The removed files of a partition. -/
def removedFiles (table : DeltaTable) (key : String × Int) : List DataFile :=
  table.removed.filter fun file => file.key = key

/-- Number and total size of the live files of a partition. -/
def snapshot (table : DeltaTable) (key : String × Int) : Int × Int :=
  ((table.liveFiles key).length, ((table.liveFiles key).map fun file => (file.size : Int)).sum)

/-- The live files which a commit replaces. -/
def replaced (table : DeltaTable) : Commit → List DataFile
  | .append _ _ => []
  | .rewrite key replaces _ _ _ => (table.liveFiles key).filter replaces

/-- Apply a commit. -/
def commit (table : DeltaTable) : Commit → DeltaTable
  | .append files entry =>
      { table with live := table.live ++ files, log := table.log ++ [entry] }
  | .rewrite key replaces output _ entry =>
      { live :=
          table.live.filter (fun file => !(decide (file.key = key) && replaces file)) ++ output
        removed := table.removed ++ (table.liveFiles key).filter replaces
        log := table.log ++ [entry] }

/-- Commits happen one after the other; each is possible. -/
def machine : Machine DeltaTable Commit where
  step table entry := some (table.commit entry)

/-- The commit replaces no live file of the partition. -/
def KeepsFiles (key : String × Int) (table : DeltaTable) (entry : Commit) : Prop :=
  (table.replaced entry).filter (fun file => file.key = key) = []

end DeltaTable

/-- `_count_partition_files`, from the pages of its listing. -/
def countPartitionFiles (config : CompactionConfig) (pages : List (List S3Object))
    (stats : PartitionStats) : Int × Int :=
  match findPartition (scanPartitions config pages) stats.partitionId with
  | some found => (found.fileCount, found.totalBytes)
  | none => (0, 0)

/-! ## What the scanner counts -/

theorem PartitionStats.partitionId_eq_iff {left right : PartitionStats} :
    left.partitionId = right.partitionId ↔ left.key = right.key := by
  rw [partitionId, partitionId, partitionIdText_inj, key, key, Prod.mk.injEq]

theorem findPartition_eq_some {partitions : List PartitionStats} {found : PartitionStats}
    {partitionId : String}
    (search : findPartition partitions partitionId = some found) :
    found ∈ partitions ∧ found.partitionId = partitionId := by
  refine ⟨List.mem_of_find?_eq_some search, ?_⟩
  simpa using List.find?_some search

theorem findPartition_eq_none {partitions : List PartitionStats} {stats : PartitionStats} :
    findPartition partitions stats.partitionId = none ↔
      ∀ found ∈ partitions, found.key ≠ stats.key := by
  rw [findPartition, List.find?_eq_none]
  simp only [decide_eq_true_eq, PartitionStats.partitionId_eq_iff, ne_eq]

/-- The count is that of the stored files, whether or not there are any. -/
theorem countPartitionFiles_eq {config : CompactionConfig} {store : List S3Object}
    {pages : List (List S3Object)} (lists : Lists config store pages) (stats : PartitionStats) :
    countPartitionFiles config pages stats =
      (((storedFiles config stats.key store).length : Int),
        ((storedFiles config stats.key store).map ParquetFileInfo.sizeBytes).sum) := by
  unfold countPartitionFiles
  cases search : findPartition (scanPartitions config pages) stats.partitionId with
  | none =>
      have absent : storedFiles config stats.key store = [] := by
        by_contra nonempty
        obtain ⟨found, member, same⟩ := exists_mem_scanPartitions lists nonempty
        exact findPartition_eq_none.mp search found member same
      simp [absent]
  | some found =>
      obtain ⟨member, ids⟩ := findPartition_eq_some search
      have same := PartitionStats.partitionId_eq_iff.mp ids
      have files := files_perm_storedFiles lists member
      rw [same] at files
      have count : found.fileCount = (storedFiles config stats.key store).length :=
        files.length_eq
      have bytes : found.totalBytes =
          ((storedFiles config stats.key store).map ParquetFileInfo.sizeBytes).sum :=
        (files.map _).sum_eq
      simp [count, bytes]

namespace DataFile

variable {config : CompactionConfig} {location : TableLocation} (file : DataFile)

theorem char_not_mem_date {c : Char} (plain : c.isDigit = false ∧ c ≠ '-' ∧ c ≠ '+') :
    c ∉ file.eventDate.toList := by
  intro member
  obtain ⟨not_digit, not_minus, not_plus⟩ := plain
  rcases file.date_chars c member with digit | minus | plus
  · simp [not_digit] at digit
  · exact not_minus minus
  · exact not_plus plus

theorem char_not_mem_stem {c : Char} (plain : c.isAlphanum = false ∧ c ≠ '-' ∧ c ≠ '.') :
    c ∉ file.stem.toList := by
  intro member
  obtain ⟨not_alphanum, not_minus, not_dot⟩ := plain
  rcases file.stem_chars c member with alphanum | minus | dot
  · simp [not_alphanum] at alphanum
  · exact not_minus minus
  · exact not_dot dot

/-- Where the scanner looks, the keys are those which it expects. -/
theorem toObject_key (addresses : config.Addresses location) :
    (file.toObject location).key =
      dataKey config file.eventDate file.eventHour file.stem := by
  rw [toObject, config.objectKey_of_addresses addresses, dataKey]
  simp only [String.append_assoc]

/-- The scanner files a data file under its partition, unless the table path hides it. -/
theorem scannedPartition_toObject (addresses : config.Addresses location) :
    scannedPartition config (file.toObject location) =
      if PathHidden config then none else some file.key := by
  have key_eq := file.toObject_key addresses
  have looks_like_log : "_delta_log".toList <:+: (file.toObject location).key.toList ↔
      PathHidden config := by
    rw [key_eq]
    exact deltaLog_infix_dataKey (file.char_not_mem_date (c := '_') (by decide))
      (file.char_not_mem_stem (c := '_') (by decide))
  have parsed : parsePartitionFromKey (file.toObject location).key config = some file.key := by
    rw [key_eq]
    exact parsePartitionFromKey_dataKey file.date_ne
      (file.char_not_mem_date (c := '/') (by decide))
      (file.char_not_mem_stem (c := '\n') (by decide))
  have parquet : ".parquet".toList <:+ (file.toObject location).key.toList := by
    rw [key_eq, dataKey, String.toList_append]
    exact List.suffix_append _ _
  by_cases hides : PathHidden config
  · rw [if_pos hides, scannedPartition_of_log (looks_like_log.mpr hides)]
  · have data := mt looks_like_log.mp hides
    rw [if_neg hides, scannedPartition_of_data data parquet, parsed]

/-- The listing of the table shows every data file. -/
theorem mem_listing (addresses : config.Addresses location) :
    (config.tableKeyPrefix ++ "/").toList.isPrefixOf (file.toObject location).key.toList =
      true := by
  rw [file.toObject_key addresses]
  simp only [dataKey, String.toList_append, List.isPrefixOf_iff_prefix, List.append_assoc]
  rw [← List.append_assoc]
  exact List.prefix_append _ _

end DataFile

/-- The scanner skips the files of the log. -/
theorem LogFile.scannedPartition_toObject {config : CompactionConfig} {location : TableLocation}
    (file : LogFile) : scannedPartition config (file.toObject location) = none := by
  have log : "_delta_log".toList <:+: ("_delta_log/" ++ file.name).toList := by
    have cut : "_delta_log/".toList = "_delta_log".toList ++ "/".toList := by decide
    rw [String.toList_append, cut, List.append_assoc]
    exact List.infix_append' [] _ _
  have inside : "_delta_log".toList <:+: (file.toObject location).key.toList := by
    rw [toObject, TableLocation.objectKey]
    split
    · exact log
    · rw [String.toList_append]
      exact log.trans (List.suffix_append _ _).isInfix
  exact scannedPartition_of_log inside

/-! ## Runs of commits -/

namespace DeltaTable

variable {config : CompactionConfig} {location : TableLocation} {key : String × Int}

theorem store_of_addresses (addresses : config.Addresses location) (table : DeltaTable) :
    table.store location config.minioBucket = table.objects location :=
  if_pos (congrArg TableLocation.bucket addresses.same)

theorem tableListing_toObject (addresses : config.Addresses location) (files : List DataFile) :
    tableListing config (files.map (DataFile.toObject location)) =
      files.map (DataFile.toObject location) := by
  refine List.filter_eq_self.mpr fun object member => ?_
  obtain ⟨file, -, rfl⟩ := List.mem_map.mp member
  exact file.mem_listing addresses

/-- A scan of the store finds the live and the removed files of a partition. -/
theorem storedFiles_store (addresses : config.Addresses location) (visible : ¬PathHidden config)
    (table : DeltaTable) :
    storedFiles config key (table.store location config.minioBucket) =
      (table.liveFiles key ++ table.removedFiles key).map fun file =>
        (file.toObject location).toFile := by
  have no_log : storedFiles config key (table.log.map (LogFile.toObject location)) = [] := by
    refine filesOf_eq_nil fun object member => ?_
    obtain ⟨file, -, rfl⟩ := List.mem_map.mp (List.mem_of_mem_filter member)
    simp [file.scannedPartition_toObject]
  have members : Dict.members (scannedPartition config) key
      ((table.live ++ table.removed).map (DataFile.toObject location)) =
        ((table.live ++ table.removed).filter fun file => file.key = key).map
          (DataFile.toObject location) := by
    refine Dict.members_map _ fun file _ => ?_
    rw [file.scannedPartition_toObject addresses, if_neg visible]
  rw [table.store_of_addresses addresses, objects, storedFiles_append, no_log, List.append_nil,
    storedFiles, tableListing_toObject addresses, filesOf, members, List.filter_append,
    List.map_map]
  simp only [liveFiles, removedFiles, Function.comp_def]

/-- Under a hidden path a scan finds nothing. -/
theorem storedFiles_store_hidden (addresses : config.Addresses location)
    (hidden : PathHidden config) (table : DeltaTable) :
    storedFiles config key (table.store location config.minioBucket) = [] := by
  refine filesOf_eq_nil fun object member => ?_
  rw [table.store_of_addresses addresses] at member
  have stored := List.mem_of_mem_filter member
  rcases List.mem_append.mp stored with data | log
  · obtain ⟨file, -, rfl⟩ := List.mem_map.mp data
    simp [file.scannedPartition_toObject addresses, hidden]
  · obtain ⟨file, -, rfl⟩ := List.mem_map.mp log
    simp [file.scannedPartition_toObject]

theorem removedFiles_commit (table : DeltaTable) (entry : Commit) :
    (table.commit entry).removedFiles key =
      table.removedFiles key ++ (table.replaced entry).filter fun file => file.key = key := by
  cases entry with
  | append files log => simp [commit, removedFiles, replaced]
  | rewrite rewritten replaces output inside log => simp [commit, removedFiles, replaced]

/-- No file of the partition is marked removed exactly when no commit has replaced one. -/
theorem removedFiles_eq_nil_iff {history : List Commit} {table : DeltaTable}
    (run : machine.exec {} history = some table) :
    table.removedFiles key = [] ↔ machine.EveryStep (KeepsFiles key) {} history := by
  constructor
  · intro none_removed
    have broken : ∀ {state next : DeltaTable} {entry : Commit}, True →
        machine.step state entry = some next → ¬KeepsFiles key state entry →
          next.removedFiles key ≠ [] := by
      intro state next entry _ taken replaces
      obtain rfl := Option.some.inj taken
      rw [removedFiles_commit]
      exact fun empty => replaces (List.append_eq_nil_iff.mp empty).2
    have stuck : ∀ {state next : DeltaTable} {entry : Commit}, state.removedFiles key ≠ [] →
        machine.step state entry = some next → next.removedFiles key ≠ [] := by
      intro state next entry removed taken
      obtain rfl := Option.some.inj taken
      rw [removedFiles_commit]
      exact fun empty => removed (List.append_eq_nil_iff.mp empty).1
    exact (machine.everyStep_or_of_trap (fun _ _ => trivial) broken stuck trivial
      run).resolve_right (not_not.mpr none_removed)
  · have kept : ∀ {state next : DeltaTable} {entry : Commit}, state.removedFiles key = [] →
        KeepsFiles key state entry → machine.step state entry = some next →
          next.removedFiles key = [] := by
      intro state next entry none_removed keeps taken
      obtain rfl := Option.some.inj taken
      rw [removedFiles_commit, none_removed, keeps]
      rfl
    exact machine.exec_invariant_of_everyStep kept rfl run

/-- The scanner reports what the snapshot holds, also as the input of the planned file count. -/
def ScannerAgrees (config : CompactionConfig) (pages : List (List S3Object)) (table : DeltaTable)
    (stats : PartitionStats) : Prop :=
  countPartitionFiles config pages stats = table.snapshot stats.key ∧
    estimateOutputFileCount (countPartitionFiles config pages stats).2
        config.targetFileSizeBytes =
      estimateOutputFileCount (table.snapshot stats.key).2 config.targetFileSizeBytes

/-- A scanner which looks where the table stands agrees with the snapshot of a partition exactly
when no rewrite has replaced a file of it, or, under a table path which hides all files, when the
partition has none. -/
theorem scannerAgrees_iff (addresses : config.Addresses location) {history : List Commit}
    {table : DeltaTable} (run : machine.exec {} history = some table)
    {pages : List (List S3Object)}
    (lists : Lists config (table.store location config.minioBucket) pages)
    (stats : PartitionStats) :
    ScannerAgrees config pages table stats ↔
      if PathHidden config then table.liveFiles stats.key = []
      else machine.EveryStep (KeepsFiles stats.key) {} history := by
  have agrees : ScannerAgrees config pages table stats ↔
      countPartitionFiles config pages stats = table.snapshot stats.key :=
    ⟨And.left, fun same => ⟨same, by rw [same]⟩⟩
  rw [agrees, countPartitionFiles_eq lists, snapshot, Prod.mk.injEq]
  split
  · rename_i hidden
    rw [storedFiles_store_hidden addresses hidden]
    constructor
    · rintro ⟨count, -⟩
      exact List.length_eq_zero_iff.mp (by simpa using count.symm)
    · intro empty
      simp [empty]
  · rename_i visible
    rw [storedFiles_store addresses visible, ← removedFiles_eq_nil_iff run]
    constructor
    · rintro ⟨count, -⟩
      exact List.length_eq_zero_iff.mp (by simpa using count)
    · intro none_removed
      rw [none_removed, List.append_nil, List.map_map]
      simp [DataFile.toObject, S3Object.toFile, Function.comp_def]

/-! ### One overwrite -/

/-- A file of one hour. -/
def hourFile (stem : String) (size : Nat)
    (stem_chars : ∀ c ∈ stem.toList, c.isAlphanum = true ∨ c = '-' ∨ c = '.') : DataFile where
  eventDate := "2024-06-11"
  eventHour := 10
  stem := stem
  size := size
  lastModified := 0
  date_ne := by decide
  date_chars := by decide
  stem_chars := stem_chars

/-- The streaming job appends two files. -/
def appendTwo : Commit :=
  .append [hourFile "part-0" 1000 (by decide), hourFile "part-1" 1000 (by decide)]
    { name := "00000000000000000000.json", size := 100, lastModified := 0 }

/-- A compaction replaces them by one. -/
def overwriteHour : Commit :=
  .rewrite ("2024-06-11", 10) (fun _ => true) [hourFile "part-2" 2000 (by decide)]
    (by simp [hourFile, DataFile.key])
    { name := "00000000000000000001.json", size := 100, lastModified := 0 }

def hourStats : PartitionStats where
  eventDate := "2024-06-11"
  eventHour := 10

/-- The place which the default table path names. -/
def defaultLocation : TableLocation := ⟨"lakehouse", "raw/events"⟩

theorem addresses_defaultLocation : CompactionConfig.Addresses {} defaultLocation :=
  ⟨by decide +kernel, by decide⟩

/-- One page with what the scanner lists of the table. -/
def defaultPages (table : DeltaTable) : List (List S3Object) :=
  [tableListing {} (table.store defaultLocation "lakehouse")]

theorem scannerAgrees_appendTwo :
    ScannerAgrees {} (defaultPages (commit {} appendTwo)) (commit {} appendTwo) hourStats := by
  have run : machine.exec {} [appendTwo] = some (commit {} appendTwo) := rfl
  have lists : Lists {} (store defaultLocation (commit {} appendTwo) "lakehouse")
      (defaultPages (commit {} appendTwo)) := by simp [Lists, defaultPages]
  refine (scannerAgrees_iff addresses_defaultLocation run lists hourStats).mpr ?_
  have visible : ¬PathHidden {} := by decide +kernel
  rw [if_neg visible]
  exact ⟨rfl, trivial⟩

/-- After the overwrite the scanner reports three files of 4000 bytes, and one of 2000 is live. -/
theorem overwriteHour_scanner_disagrees :
    machine.exec {} [appendTwo, overwriteHour] = some (commit (commit {} appendTwo) overwriteHour) ∧
      ¬ScannerAgrees {} (defaultPages (commit (commit {} appendTwo) overwriteHour))
        (commit (commit {} appendTwo) overwriteHour) hourStats := by
  refine ⟨rfl, fun agrees => absurd agrees.1 ?_⟩
  decide +kernel

end DeltaTable

end Lakehouse
