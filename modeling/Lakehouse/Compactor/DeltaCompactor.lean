import Lakehouse.Compactor.Config
import Lakehouse.Compactor.Metrics
import Lakehouse.Compactor.TargetSizing
import Lakehouse.Foundation.Program

/-!
# The Delta compactor

`compact_partition` and its two ways of rewriting a partition, as programs over the calls to Spark
and to the scanner.  A data frame is the expression which the code builds; Spark evaluates it when
it is asked whether it is empty, and when it is saved.
-/

namespace Lakehouse

open Foundation

def clusterColumns : List String := ["user_id", "account_id", "event_timestamp"]

/-- A lazily evaluated data frame. -/
inductive DataFrame
  /-- `spark.read.format("delta").load(path)` -/
  | load (path : String)
  /-- `frame.where(condition)` -/
  | filter (frame : DataFrame) (condition : String)
  | repartition (frame : DataFrame) (count : Int)
  | sortWithinPartitions (frame : DataFrame) (columns : List String)
  deriving DecidableEq

/-- An `OPTIMIZE` statement. -/
structure OptimizeStatement where
  tablePath : String
  predicate : String
  zorderBy : List String
  deriving DecidableEq

/-- The text which is passed to `spark.sql`. -/
def OptimizeStatement.text (statement : OptimizeStatement) : String :=
  "\n        OPTIMIZE delta." ++ "\x60" ++ statement.tablePath ++ "\x60" ++ "\n        WHERE " ++
    statement.predicate ++ "\n        ZORDER BY (" ++ ", ".intercalate statement.zorderBy ++
    ")\n        "

/-- The calls of the compactor to its environment. -/
inductive SparkCall
  | sql (statement : OptimizeStatement)
  /-- The analysis of a frame when it is built. -/
  | analyse (frame : DataFrame)
  /-- `frame.rdd.isEmpty()` -/
  | isEmpty (frame : DataFrame)
  /-- `frame.write.format("delta").mode("overwrite").option("replaceWhere", …).save(path)` -/
  | save (frame : DataFrame) (replaceWhere path : String)
  /-- `_count_partition_files` -/
  | countPartitionFiles (stats : PartitionStats)
  /-- `time.perf_counter()`, in milliseconds. -/
  | perfCounter
  deriving DecidableEq

abbrev SparkReply : SparkCall → Type
  | .sql _ => Except PyException Unit
  | .analyse _ => Except PyException Unit
  | .isEmpty _ => Except PyException Bool
  | .save _ _ _ => Except PyException Unit
  | .countPartitionFiles _ => Except PyException (Int × Int)
  | .perfCounter => Int

abbrev SparkProgram := Program SparkCall SparkReply PyException

/-- Perform a call which can raise. -/
def invoke (request : SparkCall) {α : Type} (read : SparkReply request → Except PyException α) :
    SparkProgram α := do
  let reply ← Program.perform request
  Program.ofExcept (read reply)

def replaceWhereClause (stats : PartitionStats) : String :=
  "event_date = '" ++ stats.eventDate ++ "' AND event_hour = " ++ toString stats.eventHour

def validatePartitionHasData (stats : PartitionStats) : Except PyException Unit :=
  if stats.fileCount = 0 ∨ stats.totalBytes = 0 then
    .error (.emptyPartitionError ("Partition " ++ stats.partitionId ++
      " has no data files to compact"))
  else
    .ok ()

/-- The record which both ways of rewriting return. -/
def compactionMetrics (stats : PartitionStats) (after : Int × Int) (durationMillis : Int)
    (method : CompactionMethod) : CompactionOf stats :=
  ⟨{ partitionId := stats.partitionId
     filesBefore := stats.fileCount
     filesAfter := after.1
     bytesBefore := stats.totalBytes
     bytesAfter := after.2
     durationMillis := durationMillis
     method := method }, ⟨rfl, rfl, rfl⟩⟩

/-- The end of both ways of rewriting: the duration, and the count of the files afterwards. -/
def measureAfter (stats : PartitionStats) (started : Int) (method : CompactionMethod) :
    SparkProgram (CompactionOf stats) := do
  let finished ← Program.perform .perfCounter
  let after ← invoke (.countPartitionFiles stats) id
  return compactionMetrics stats after (finished - started) method

def compactWithDeltaOptimize (config : CompactionConfig) (stats : PartitionStats) :
    SparkProgram (CompactionOf stats) := do
  let started ← Program.perform .perfCounter
  let statement : OptimizeStatement :=
    { tablePath := config.deltaTablePath
      predicate := replaceWhereClause stats
      zorderBy := clusterColumns }
  invoke (.sql statement) id
  measureAfter stats started .deltaOptimize

/-- The rows of the partition, as the table is read. -/
def partitionFrame (config : CompactionConfig) (stats : PartitionStats) : DataFrame :=
  .filter (.load config.deltaTablePath) (replaceWhereClause stats)

/-- The rows of the partition, as they are written. -/
def clusteredFrame (config : CompactionConfig) (stats : PartitionStats) (count : Int) :
    DataFrame :=
  .sortWithinPartitions (.repartition (partitionFrame config stats) count) clusterColumns

def compactWithZorderInspiredClustering (config : CompactionConfig) (stats : PartitionStats) :
    SparkProgram (CompactionOf stats) := do
  let started ← Program.perform .perfCounter
  let numOutputFiles ← Program.ofExcept
    (estimateOutputFileCount stats.totalBytes config.targetFileSizeBytes)
  invoke (.analyse (partitionFrame config stats)) id
  if ← invoke (.isEmpty (partitionFrame config stats)) id then
    Program.raise (.emptyPartitionError ("Partition " ++ stats.partitionId ++
      " returned no rows from Delta read"))
  else
    invoke (.save (clusteredFrame config stats numOutputFiles) (replaceWhereClause stats)
      config.deltaTablePath) id
    measureAfter stats started .zorderInspired

/-- The rewrite in the way the configuration asks for; a failed `OPTIMIZE` falls back. -/
def rewritePartition (config : CompactionConfig) (stats : PartitionStats) :
    SparkProgram (CompactionOf stats) :=
  if config.useDeltaOptimize then do
    match ← (compactWithDeltaOptimize config stats).attempt with
    | .ok result => return result
    | .error _ => compactWithZorderInspiredClustering config stats
  else
    compactWithZorderInspiredClustering config stats

/-- The validation and the first sizing stand outside the `try`. -/
def compactPartition (config : CompactionConfig) (stats : PartitionStats) :
    SparkProgram (CompactionOf stats) := do
  Program.ofExcept (validatePartitionHasData stats)
  let _ ← Program.ofExcept
    (estimateOutputFileCount stats.totalBytes config.targetFileSizeBytes)
  match ← (rewritePartition config stats).attempt with
  | .ok result => return result
  | .error exc =>
      if exc.type = .emptyPartitionError then
        Program.raise exc
      else
        Program.raise (.sparkCompactionError stats.partitionId exc)

/-! ## The calls of the overwrite -/

/-- The calls which can change the table. -/
def SparkCall.IsWrite : SparkCall → Prop
  | .sql _ => True
  | .save _ _ _ => True
  | _ => False

section Calls

variable {allowed : SparkCall → Prop} {config : CompactionConfig} {stats : PartitionStats}

theorem everyCall_invoke {request : SparkCall} {α : Type}
    {read : SparkReply request → Except PyException α} (permitted : allowed request) :
    (invoke request read).EveryCall allowed := by
  refine Program.everyCall_bind ((Program.everyCall_perform _).mpr permitted) fun reply => ?_
  exact Program.everyCall_ofExcept _

theorem everyCall_measureAfter (reads : ∀ request : SparkCall, ¬request.IsWrite → allowed request)
    (started : Int) (method : CompactionMethod) :
    (measureAfter stats started method).EveryCall allowed := by
  refine Program.everyCall_bind ((Program.everyCall_perform _).mpr (reads _ id)) fun finished => ?_
  exact Program.everyCall_bind (everyCall_invoke (reads _ id)) fun after => trivial

/-- The overwrite saves the clustered frame with the estimated number of files. -/
theorem everyCall_clustering (reads : ∀ request : SparkCall, ¬request.IsWrite → allowed request)
    (saves : ∀ count,
      estimateOutputFileCount stats.totalBytes config.targetFileSizeBytes = .ok count →
        allowed (.save (clusteredFrame config stats count) (replaceWhereClause stats)
          config.deltaTablePath)) :
    (compactWithZorderInspiredClustering config stats).EveryCall allowed := by
  refine Program.everyCall_bind ((Program.everyCall_perform _).mpr (reads _ id)) fun started => ?_
  cases sized : estimateOutputFileCount stats.totalBytes config.targetFileSizeBytes with
  | error exc => trivial
  | ok count =>
      rw [Program.ofExcept_ok, Program.done_bind]
      refine Program.everyCall_bind (everyCall_invoke (reads _ id)) fun _ => ?_
      refine Program.everyCall_bind (everyCall_invoke (reads _ id)) fun empty => ?_
      cases empty with
      | true => trivial
      | false =>
          refine Program.everyCall_bind (everyCall_invoke (saves count sized)) fun _ => ?_
          exact everyCall_measureAfter reads started .zorderInspired

end Calls

end Lakehouse
