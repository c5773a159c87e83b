import Mathlib.Data.List.DropRight

/-!
# Configuration of the compactor

The fields of `CompactionConfig` which the modelled functions read, with their defaults, and the
key prefix derived from the table path.
-/

namespace Lakehouse

/-- Settings of the compactor. -/
structure CompactionConfig where
  minioBucket : String := "lakehouse"
  deltaTablePath : String := "s3a://lakehouse/raw/events"
  smallFileThresholdBytes : Int := 32 * 1024 * 1024
  smallFileCountThreshold : Int := 20
  partitionFileCountThreshold : Int := 100
  targetFileSizeBytes : Int := 128 * 1024 * 1024
  partitionAgeSkipMinutes : Int := 30
  lockTimeoutSeconds : Int := 3600
  lockBasePath : String := "locks/compaction"
  useDeltaOptimize : Bool := false
  deriving DecidableEq, Repr

/-- `text.rstrip("/")`. -/
def rstripSlash (text : String) : String :=
  String.ofList (text.toList.rdropWhile (· == '/'))

@[simp]
theorem rstripSlash_rstripSlash (text : String) :
    rstripSlash (rstripSlash text) = rstripSlash text := by
  simp [rstripSlash, List.rdropWhile_idempotent]

/-- Remove the first of the two schemes that the path starts with. -/
def stripScheme (path : List Char) : List Char :=
  if "s3a://".toList.isPrefixOf path then
    path.drop "s3a://".toList.length
  else if "s3://".toList.isPrefixOf path then
    path.drop "s3://".toList.length
  else
    path

/-- The text after the first slash, or the whole text where there is none. -/
def afterFirstSlash (path : List Char) : List Char :=
  match path.dropWhile (· != '/') with
  | [] => path
  | _ :: rest => rest

namespace CompactionConfig

/-- Key prefix of the table inside its bucket, without trailing slashes. -/
def tableKeyPrefix (config : CompactionConfig) : String :=
  rstripSlash (String.ofList (afterFirstSlash (stripScheme config.deltaTablePath.toList)))

@[simp]
theorem rstripSlash_tableKeyPrefix (config : CompactionConfig) :
    rstripSlash config.tableKeyPrefix = config.tableKeyPrefix :=
  rstripSlash_rstripSlash _

example : ({} : CompactionConfig).tableKeyPrefix = "raw/events" := by decide

end CompactionConfig

end Lakehouse
