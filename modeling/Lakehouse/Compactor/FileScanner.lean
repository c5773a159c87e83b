import Mathlib.Algebra.Ring.Int.Defs
import Mathlib.Data.List.Infix
import Mathlib.Data.List.Sort
import Lakehouse.Compactor.Config
import Lakehouse.Compactor.Exceptions
import Lakehouse.Foundation.Dict
import Lakehouse.Foundation.Pattern
import Lakehouse.Time

/-!
# The file scanner

`scanPartitions` groups the Parquet objects of a listing by the partition in their keys.  Its
specification is `mem_scanPartitions`: the partitions returned are those with a nonempty list
`filesOf`, each with exactly that list.
-/

namespace Lakehouse

open Foundation

/-- One entry of a `list_objects_v2` response. -/
structure S3Object where
  /-- `obj["Key"]`. -/
  key : String
  /-- `obj["Size"]`. -/
  size : Int
  /-- `obj["LastModified"]`. -/
  lastModified : Int
  deriving DecidableEq, Repr

/-- What the scanner keeps of an object. -/
structure ParquetFileInfo where
  key : String
  sizeBytes : Int
  lastModified : Int
  deriving DecidableEq, Repr

/-- The files found in one partition. -/
structure PartitionStats where
  eventDate : String
  eventHour : Int
  files : List ParquetFileInfo := []
  deriving DecidableEq, Repr

/-- Whether a file is smaller than the threshold. -/
def isSmallFile (sizeBytes thresholdBytes : Int) : Bool :=
  sizeBytes < thresholdBytes

/-- The text `event_date=<date>/event_hour=<hour>`. -/
def partitionIdText (eventDate : String) (eventHour : Int) : String :=
  "event_date=" ++ eventDate ++ "/event_hour=" ++ toString eventHour

namespace PartitionStats

variable (stats : PartitionStats)

def partitionId : String := partitionIdText stats.eventDate stats.eventHour

def fileCount : Nat := stats.files.length

def totalBytes : Int := (stats.files.map ParquetFileInfo.sizeBytes).sum

def smallFiles (thresholdBytes : Int) : List ParquetFileInfo :=
  stats.files.filter fun file => isSmallFile file.sizeBytes thresholdBytes

/-- The pair which identifies the partition in the dictionary of a scan. -/
def key : String × Int := (stats.eventDate, stats.eventHour)

/-- The id is a function of the key. -/
theorem partitionId_eq_of_key_eq {left right : PartitionStats} (same : left.key = right.key) :
    left.partitionId = right.partitionId := by
  obtain ⟨date, hour⟩ := Prod.mk.inj same
  rw [partitionId, partitionId, date, hour]

end PartitionStats

/-- The two count thresholds, each with a strict comparison. -/
def isPartitionEligible (stats : PartitionStats)
    (smallFileThresholdBytes smallFileCountThreshold partitionFileCountThreshold : Int) : Bool :=
  let smallCount : Int := (stats.smallFiles smallFileThresholdBytes).length
  if smallCount > smallFileCountThreshold then true
  else if (stats.fileCount : Int) > partitionFileCountThreshold then true
  else false

/-- A partition without files counts as too recent.  The cutoff is one on the line of times. -/
def partitionIsTooRecent (stats : PartitionStats) (skipMinutes : Int) (now : Int) : Bool :=
  match (stats.files.map ParquetFileInfo.lastModified).max? with
  | none => true
  | some latest => latest > now - minutes skipMinutes

/-! ## Object keys -/

/-- The zeros of the blocks of decimal digits (category `Nd`) which `\d` accepts. -/
def decimalZeros : List Nat :=
  [0x0030, 0x0660, 0x06F0, 0x07C0, 0x0966, 0x09E6, 0x0A66, 0x0AE6, 0x0B66, 0x0BE6, 0x0C66, 0x0CE6,
    0x0D66, 0x0DE6, 0x0E50, 0x0ED0, 0x0F20, 0x1040, 0x1090, 0x17E0, 0x1810, 0x1946, 0x19D0, 0x1A80,
    0x1A90, 0x1B50, 0x1BB0, 0x1C40, 0x1C50, 0xA620, 0xA8D0, 0xA900, 0xA9D0, 0xA9F0, 0xAA50, 0xABF0,
    0xFF10, 0x104A0, 0x10D30, 0x11066, 0x110F0, 0x11136, 0x111D0, 0x112F0, 0x11450, 0x114D0,
    0x11650, 0x116C0, 0x11730, 0x118E0, 0x11950, 0x11C50, 0x11D50, 0x11DA0, 0x16A60, 0x16AC0,
    0x16B50, 0x1D7CE, 0x1D7D8, 0x1D7E2, 0x1D7EC, 0x1D7F6, 0x1E140, 0x1E2F0, 0x1E950, 0x1FBF0]

/-- The value of a decimal digit of any script. -/
def decimalValue? (c : Char) : Option Nat :=
  decimalZeros.findSome? fun start =>
    if start ≤ c.toNat ∧ c.toNat < start + 10 then some (c.toNat - start) else none

/-- `int(text)` of a run of decimal digits. -/
def intOfDigits (digits : List Char) : Int :=
  digits.foldl (fun value c => 10 * value + (decimalValue? c).getD 0) (0 : Nat)

/-- The pattern `<prefix>/event_date=([^/]+)/event_hour=(\d+)/.*\.parquet$`. -/
def partitionRe (config : CompactionConfig) : List PatternItem :=
  [.literal ((rstripSlash config.tableKeyPrefix).toList ++ "/event_date=".toList),
    .capture (· != '/'),
    .literal "/event_hour=".toList,
    .capture fun c => (decimalValue? c).isSome,
    .literal "/".toList,
    .many (· != '\n'),
    .literal ".parquet".toList,
    .lineEnd]

/-- The partition in a key, found by an unanchored search. -/
def parsePartitionFromKey (key : String) (config : CompactionConfig) : Option (String × Int) :=
  match Pattern.search (partitionRe config) key.toList with
  | some [eventDate, eventHour] => some (String.ofList eventDate, intOfDigits eventHour)
  | _ => none

/-! ## Listing and scanning -/

def deltaLogPrefix (config : CompactionConfig) : String :=
  config.tableKeyPrefix ++ "/_delta_log/"

/-- The objects of a bucket whose keys start with the given text. -/
def listObjectsV2 (objects : List S3Object) (keyStart : String) : List S3Object :=
  objects.filter fun object => keyStart.toList.isPrefixOf object.key.toList

/-- Raise `TableNotFoundError` when nothing is stored under `_delta_log/`. -/
def verifyDeltaTableExists (config : CompactionConfig) (objects : List S3Object) :
    Except PyException Unit :=
  let keyCount := ((listObjectsV2 objects (deltaLogPrefix config)).take 1).length
  if keyCount = 0 then
    .error
      { type := .tableNotFoundError
        message := "Delta table not found at " ++ config.deltaTablePath ++ " (no objects under " ++
          deltaLogPrefix config ++ ")" }
  else
    .ok ()

/-- The partition an object is filed under, or `none` where the scan skips the object. -/
def scannedPartition (config : CompactionConfig) (object : S3Object) : Option (String × Int) :=
  if "_delta_log".toList <:+: object.key.toList ∨ ¬".parquet".toList <:+ object.key.toList then
    none
  else
    parsePartitionFromKey object.key config

theorem scannedPartition_of_log {config : CompactionConfig} {object : S3Object}
    (log : "_delta_log".toList <:+: object.key.toList) : scannedPartition config object = none :=
  if_pos (.inl log)

theorem scannedPartition_of_data {config : CompactionConfig} {object : S3Object}
    (data : ¬"_delta_log".toList <:+: object.key.toList)
    (parquet : ".parquet".toList <:+ object.key.toList) :
    scannedPartition config object = parsePartitionFromKey object.key config :=
  if_neg (not_or.mpr ⟨data, not_not.mpr parquet⟩)

/-- The entry which a scan appends for an object. -/
def S3Object.toFile (object : S3Object) : ParquetFileInfo where
  key := object.key
  sizeBytes := object.size
  lastModified := object.lastModified

/-- The order of the tuples `(event_date, event_hour)`. -/
def PartitionStats.Precedes (left right : PartitionStats) : Prop :=
  left.eventDate < right.eventDate ∨
    (left.eventDate = right.eventDate ∧ left.eventHour ≤ right.eventHour)

instance : DecidableRel PartitionStats.Precedes := fun _ _ =>
  inferInstanceAs (Decidable (_ ∨ (_ ∧ _)))

/-- The dictionary which the nested loop of `scan_partitions` fills. -/
def scannedDict (config : CompactionConfig) (pages : List (List S3Object)) :
    List ((String × Int) × PartitionStats) :=
  pages.foldl
    (fun partitions page =>
      page.foldl
        (Dict.file (scannedPartition config)
          (fun key => { eventDate := key.1, eventHour := key.2 })
          fun stats object => { stats with files := stats.files ++ [object.toFile] })
        partitions)
    []

/-- Group the listed Parquet objects by partition, sorted by date and hour. -/
def scanPartitions (config : CompactionConfig) (pages : List (List S3Object)) :
    List PartitionStats :=
  ((scannedDict config pages).map Prod.snd).insertionSort PartitionStats.Precedes

/-- The files listed for one partition, in listing order. -/
def filesOf (config : CompactionConfig) (key : String × Int) (objects : List S3Object) :
    List ParquetFileInfo :=
  (Dict.members (scannedPartition config) key objects).map S3Object.toFile

/-! ## What a scan returns -/

@[simp]
theorem filesOf_nil (config : CompactionConfig) (key : String × Int) :
    filesOf config key [] = [] := rfl

@[simp]
theorem filesOf_append (config : CompactionConfig) (key : String × Int)
    (first last : List S3Object) :
    filesOf config key (first ++ last) = filesOf config key first ++ filesOf config key last := by
  simp [filesOf, Dict.members]

theorem filesOf_perm (config : CompactionConfig) (key : String × Int)
    {objects objects' : List S3Object} (same : objects.Perm objects') :
    (filesOf config key objects).Perm (filesOf config key objects') :=
  (same.filter _).map _

/-- Objects of other partitions, and objects outside every partition, leave a list unchanged. -/
theorem filesOf_eq_nil {config : CompactionConfig} {key : String × Int}
    {objects : List S3Object}
    (elsewhere : ∀ object ∈ objects, scannedPartition config object ≠ some key) :
    filesOf config key objects = [] := by
  simpa [filesOf, Dict.members, List.filter_eq_nil_iff] using elsewhere

theorem toFile_mem_filesOf {config : CompactionConfig} {key : String × Int}
    {objects : List S3Object} {object : S3Object} (member : object ∈ objects)
    (inside : scannedPartition config object = some key) :
    object.toFile ∈ filesOf config key objects := by
  apply List.mem_map_of_mem
  simpa [Dict.members] using ⟨member, inside⟩

private theorem foldl_append_files (stats : PartitionStats) (objects : List S3Object) :
    objects.foldl
        (fun stats object => { stats with files := stats.files ++ [S3Object.toFile object] })
        stats =
      { stats with files := stats.files ++ objects.map S3Object.toFile } := by
  induction objects generalizing stats with
  | nil => simp
  | cons object objects ih => simp [ih]

/-- Paging does not matter to the dictionary. -/
theorem scannedDict_eq_group (config : CompactionConfig) (pages : List (List S3Object)) :
    scannedDict config pages =
      Dict.group (scannedPartition config)
        (fun key => { eventDate := key.1, eventHour := key.2 })
        (fun stats object => { stats with files := stats.files ++ [object.toFile] })
        pages.flatten := by
  rw [scannedDict, Dict.group, List.foldl_flatten]

theorem get?_scannedDict (config : CompactionConfig) (pages : List (List S3Object))
    (key : String × Int) :
    Dict.get? (scannedDict config pages) key =
      if filesOf config key pages.flatten = [] then none
      else some
        { eventDate := key.1, eventHour := key.2, files := filesOf config key pages.flatten } := by
  simp only [scannedDict_eq_group, Dict.get?_group, foldl_append_files, filesOf,
    List.map_eq_nil_iff, List.nil_append]

/-- A scan returns the partitions with at least one file, each with exactly its files. -/
theorem mem_scanPartitions {config : CompactionConfig} {pages : List (List S3Object)}
    {stats : PartitionStats} :
    stats ∈ scanPartitions config pages ↔
      stats.files ≠ [] ∧ stats.files = filesOf config stats.key pages.flatten := by
  have nodup : ((scannedDict config pages).map Prod.fst).Nodup := by
    rw [scannedDict_eq_group]
    exact Dict.nodup_keys_group _ _ _ _
  rw [scanPartitions, List.mem_insertionSort, List.mem_map]
  constructor
  · rintro ⟨⟨key, value⟩, member, rfl⟩
    have found := (Dict.mem_iff_get? nodup).mp member
    rw [get?_scannedDict] at found
    split at found
    · simp at found
    · rename_i nonempty
      obtain rfl := Option.some.inj found
      exact ⟨nonempty, rfl⟩
  · rintro ⟨nonempty, files_eq⟩
    refine ⟨(stats.key, stats), (Dict.mem_iff_get? nodup).mpr ?_, rfl⟩
    rw [get?_scannedDict, ← files_eq, if_neg nonempty]
    rfl

/-! ## The listing of a store -/

/-- What `list_objects_v2` shows of the table in a store. -/
def tableListing (config : CompactionConfig) (store : List S3Object) : List S3Object :=
  listObjectsV2 store (config.tableKeyPrefix ++ "/")

@[simp]
theorem tableListing_append (config : CompactionConfig) (first last : List S3Object) :
    tableListing config (first ++ last) =
      tableListing config first ++ tableListing config last := by
  simp [tableListing, listObjectsV2]

/-- Pages which list the table of a store, in any order. -/
def Lists (config : CompactionConfig) (store : List S3Object) (pages : List (List S3Object)) :
    Prop :=
  pages.flatten.Perm (tableListing config store)

/-- The files which a scan of the store finds for a partition. -/
def storedFiles (config : CompactionConfig) (key : String × Int) (store : List S3Object) :
    List ParquetFileInfo :=
  filesOf config key (tableListing config store)

@[simp]
theorem storedFiles_append (config : CompactionConfig) (key : String × Int)
    (first last : List S3Object) :
    storedFiles config key (first ++ last) =
      storedFiles config key first ++ storedFiles config key last := by
  simp [storedFiles]

theorem files_perm_storedFiles {config : CompactionConfig} {store : List S3Object}
    {pages : List (List S3Object)} (lists : Lists config store pages) {stats : PartitionStats}
    (member : stats ∈ scanPartitions config pages) :
    stats.files.Perm (storedFiles config stats.key store) := by
  rw [(mem_scanPartitions.mp member).2]
  exact filesOf_perm config stats.key lists

/-- A partition with stored files is found by every scan. -/
theorem exists_mem_scanPartitions {config : CompactionConfig} {store : List S3Object}
    {pages : List (List S3Object)} (lists : Lists config store pages) {key : String × Int}
    (nonempty : storedFiles config key store ≠ []) :
    ∃ stats ∈ scanPartitions config pages, stats.key = key := by
  refine ⟨⟨key.1, key.2, filesOf config key pages.flatten⟩, mem_scanPartitions.mpr ⟨?_, rfl⟩, rfl⟩
  intro empty
  have files := filesOf_perm config key lists
  have files_nil : filesOf config key pages.flatten = [] := empty
  rw [files_nil] at files
  exact nonempty files.nil_eq.symm

/-- Two scanned partitions with one key are the same partition. -/
theorem eq_of_mem_scanPartitions {config : CompactionConfig} {pages : List (List S3Object)}
    {left right : PartitionStats} (left_mem : left ∈ scanPartitions config pages)
    (right_mem : right ∈ scanPartitions config pages) (same : left.key = right.key) :
    left = right := by
  have left_files := (mem_scanPartitions.mp left_mem).2
  have right_files := (mem_scanPartitions.mp right_mem).2
  obtain ⟨leftDate, leftHour, leftFiles⟩ := left
  obtain ⟨rightDate, rightHour, rightFiles⟩ := right
  obtain ⟨rfl, rfl⟩ := Prod.mk.inj same
  exact congrArg _ (left_files.trans right_files.symm)

end Lakehouse
