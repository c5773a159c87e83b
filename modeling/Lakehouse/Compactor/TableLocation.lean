import Lakehouse.Compactor.Config

/-!
# The two spellings of the location of a table

Spark is given the table path.  The scanner and the table check take the bucket from a setting of
its own and only the key prefix from the path.
-/

namespace Lakehouse

/-- A place in the object store. -/
structure TableLocation where
  bucket : String
  keyPrefix : String
  deriving DecidableEq

/-- The key of what stands at a path below the place. -/
def TableLocation.objectKey (location : TableLocation) (path : String) : String :=
  if location.keyPrefix = "" then path else location.keyPrefix ++ "/" ++ path

/-- A table path, cut into scheme, bucket and key. -/
structure TablePath where
  scheme : String
  bucket : String
  /-- What follows the slash behind the bucket, if there is a slash. -/
  key : Option String
  scheme_eq : scheme = "s3a://" ∨ scheme = "s3://"
  bucket_ne : bucket ≠ ""
  bucket_free : '/' ∉ bucket.toList

namespace TablePath

variable (path : TablePath)

def text : String := path.scheme ++ path.bucket ++ path.key.elim "" ("/" ++ ·)

/-- The place which the path names; trailing slashes of a key are not part of it. -/
def location : TableLocation where
  bucket := path.bucket
  keyPrefix := rstripSlash (path.key.getD "")

/-- The path without its scheme. -/
theorem stripScheme_text :
    stripScheme path.text.toList =
      path.bucket.toList ++ (path.key.elim "" ("/" ++ ·)).toList := by
  have long : "s3a://".toList = ['s', '3', 'a', ':', '/', '/'] := by decide
  have short : "s3://".toList = ['s', '3', ':', '/', '/'] := by decide
  rw [text, String.toList_append, String.toList_append, List.append_assoc]
  rcases path.scheme_eq with scheme | scheme
  · rw [scheme, stripScheme, long]
    simp
  · rw [scheme, stripScheme, long, short]
    simp

theorem dropWhile_bucket (rest : List Char) :
    (path.bucket.toList ++ rest).dropWhile (· != '/') = rest.dropWhile (· != '/') := by
  refine List.dropWhile_append_of_pos fun c member => ?_
  have other : c ≠ '/' := fun same => path.bucket_free (same ▸ member)
  simpa using other

end TablePath

namespace CompactionConfig

variable {config : CompactionConfig} {path : TablePath}

/-- Where `scan_partitions` and `verify_delta_table_exists` look. -/
def scannedLocation (config : CompactionConfig) : TableLocation where
  bucket := config.minioBucket
  keyPrefix := config.tableKeyPrefix

/-- The scanner looks where the table stands, below some key. -/
structure Addresses (config : CompactionConfig) (location : TableLocation) : Prop where
  same : config.scannedLocation = location
  keyed : location.keyPrefix ≠ ""

theorem objectKey_of_addresses {location : TableLocation} (addresses : config.Addresses location)
    (below : String) : location.objectKey below = config.tableKeyPrefix ++ "/" ++ below := by
  obtain ⟨rfl, keyed⟩ := addresses
  exact if_neg keyed

/-- A key loses its trailing slashes; without a key the bucket takes its place. -/
theorem tableKeyPrefix_text (spelled : config.deltaTablePath = path.text) :
    config.tableKeyPrefix = rstripSlash (path.key.getD path.bucket) := by
  have slash : "/".toList = ['/'] := by decide
  rw [tableKeyPrefix, spelled, path.stripScheme_text, afterFirstSlash, path.dropWhile_bucket]
  cases path.key with
  | none => simp
  | some key => simp [slash]

theorem tableKeyPrefix_eq_iff (spelled : config.deltaTablePath = path.text) :
    config.tableKeyPrefix = rstripSlash (path.key.getD "") ↔ path.key.isSome = true := by
  rw [tableKeyPrefix_text spelled]
  cases path.key with
  | some key => simp
  | none =>
      have kept : rstripSlash path.bucket = path.bucket := by
        rw [rstripSlash, List.rdropWhile_eq_self_iff.mpr, String.ofList_toList]
        intro nonempty last
        have slash : path.bucket.toList.getLast nonempty = '/' := by simpa using last
        exact path.bucket_free (slash ▸ List.getLast_mem nonempty)
      have empty : rstripSlash "" = "" := by decide
      simp [kept, empty, path.bucket_ne]

/-- **The scanner and Spark address the same table** exactly where the bucket of the path is the
configured one and the path has a slash behind it. -/
theorem scannedLocation_eq_iff (spelled : config.deltaTablePath = path.text) :
    config.scannedLocation = path.location ↔
      config.minioBucket = path.bucket ∧ path.key.isSome = true := by
  rw [scannedLocation, TablePath.location, TableLocation.mk.injEq, tableKeyPrefix_eq_iff spelled]

/-- The configured bucket, and a key with slashes inside and at its end. -/
theorem scannedLocation_eq_iff_sample :
    ∃ path : TablePath, path.bucket = "lakehouse" ∧ path.key = some "raw//events//" ∧
      (({ deltaTablePath := "s3://lakehouse/raw//events//" } : CompactionConfig).scannedLocation =
          path.location ↔
        "lakehouse" = path.bucket ∧ path.key.isSome = true) :=
  ⟨⟨"s3://", "lakehouse", some "raw//events//", .inr rfl, by decide, by decide⟩, rfl, rfl,
    scannedLocation_eq_iff (by decide)⟩

/-- Another bucket in the path, and a path without a key. -/
theorem scans_another_place :
    (∃ path : TablePath, path.text = "s3a://analytics/raw/events" ∧
      ({ deltaTablePath := "s3a://analytics/raw/events" } : CompactionConfig).scannedLocation ≠
        path.location) ∧
    ∃ path : TablePath, path.text = "s3a://lakehouse" ∧
      ({ deltaTablePath := "s3a://lakehouse" } : CompactionConfig).scannedLocation ≠
        path.location :=
  ⟨⟨⟨"s3a://", "analytics", some "raw/events", .inl rfl, by decide, by decide⟩, by decide,
      by decide⟩,
    ⟨⟨"s3a://", "lakehouse", none, .inl rfl, by decide, by decide⟩, by decide, by decide⟩⟩

end CompactionConfig

end Lakehouse
