import Lakehouse.Compactor.DeltaCompactor

/-!
# The rewrites which one compaction commits

`compactPartition` against arbitrary replies of Spark and of the object store, with the commits
it leaves behind.  A successful `save` commits one rewrite, a successful `OPTIMIZE` commits one if
there was anything to rewrite, and a call which raises commits nothing.
-/

namespace Lakehouse

open Foundation

/-- How the calls of one compaction behave.  A call which raises has not committed here; where the
rows of the table are at stake, `SparkChoices` lets it raise after its commit. -/
structure SparkReplies where
  /-- The `OPTIMIZE` statement, and whether it rewrote any files. -/
  optimize : Except PyException Bool
  analyse : Except PyException Unit
  isEmpty : Except PyException Bool
  save : Except PyException Unit
  /-- `_count_partition_files` after `OPTIMIZE`. -/
  countAfterOptimize : Except PyException (Int × Int)
  /-- `_count_partition_files` after the overwrite. -/
  countAfterOverwrite : Except PyException (Int × Int)
  /-- Readings of the clock, by the number of earlier calls. -/
  perfCounter : Nat → Int

/-- What one compaction has done so far. -/
structure SparkLog where
  calls : Nat := 0
  /-- Whether `save` has been called. -/
  overwrote : Bool := false
  /-- The rewrites committed, each with its method. -/
  commits : List CompactionMethod := []
  deriving DecidableEq

namespace SparkReplies

variable (replies : SparkReplies)

/-- The count of the files after the last rewrite. -/
def countReply (log : SparkLog) : Except PyException (Int × Int) :=
  if log.overwrote then replies.countAfterOverwrite else replies.countAfterOptimize

/-- Answer a call and keep what it commits. -/
def handle : (request : SparkCall) → SparkLog → SparkReply request × SparkLog
  | .sql _, log =>
      match replies.optimize with
      | .ok true =>
          (.ok (), { log with calls := log.calls + 1, commits := log.commits ++ [.deltaOptimize] })
      | .ok false => (.ok (), { log with calls := log.calls + 1 })
      | .error exc => (.error exc, { log with calls := log.calls + 1 })
  | .analyse _, log => (replies.analyse, { log with calls := log.calls + 1 })
  | .isEmpty _, log => (replies.isEmpty, { log with calls := log.calls + 1 })
  | .save _ _ _, log =>
      match replies.save with
      | .ok () =>
          (.ok (),
            { calls := log.calls + 1
              overwrote := true
              commits := log.commits ++ [.zorderInspired] })
      | .error exc => (.error exc, { log with calls := log.calls + 1, overwrote := true })
  | .countPartitionFiles _, log =>
      (replies.countReply log, { log with calls := log.calls + 1 })
  | .perfCounter, log => (replies.perfCounter log.calls, { log with calls := log.calls + 1 })

/-- Compact a partition: how the call ends, and what it has done. -/
def runCompaction (config : CompactionConfig) (stats : PartitionStats) :
    Except PyException (CompactionOf stats) × SparkLog :=
  (compactPartition config stats).runWith replies.handle {}

/-! ## The two ways of rewriting -/

theorem runWith_invoke {request : SparkCall} {α : Type}
    (read : SparkReply request → Except PyException α) (log : SparkLog) :
    (invoke request read).runWith replies.handle log =
      (read (replies.handle request log).1, (replies.handle request log).2) := by
  simp only [invoke, Program.perform_bind, Program.runWith_call]
  cases read (replies.handle request log).1 <;> rfl

/-- The count decides whether the end of a rewrite succeeds; nothing is committed there. -/
theorem runWith_measureAfter (stats : PartitionStats) (started : Int) (method : CompactionMethod)
    (log : SparkLog) :
    ∃ result, (measureAfter stats started method).runWith replies.handle log =
        (result, { log with calls := log.calls + 2 }) ∧
      (result.isOk ↔ (replies.countReply log).isOk) := by
  simp only [measureAfter, Program.perform_bind, Program.runWith_call, Program.runWith_bind,
    runWith_invoke, handle, id]
  have same : replies.countReply { log with calls := log.calls + 1 } = replies.countReply log :=
    rfl
  rw [same]
  cases replies.countReply log with
  | error exc => exact ⟨.error exc, rfl, Iff.rfl⟩
  | ok after => exact ⟨.ok _, rfl, Iff.rfl⟩

/-- The overwrite is reached and commits. -/
def Overwrites : Prop :=
  replies.analyse = .ok () ∧ replies.isEmpty = .ok false ∧ replies.save = .ok ()

/-- The overwrite, given its number of files: it raises without a commit, or it commits once and
the count decides. -/
theorem runWith_overwrite (config : CompactionConfig) (stats : PartitionStats) {count : Int}
    (sized : estimateOutputFileCount stats.totalBytes config.targetFileSizeBytes = .ok count)
    (log : SparkLog) :
    ∃ result later,
      (compactWithZorderInspiredClustering config stats).runWith replies.handle log =
        (result, later) ∧
      ((¬replies.Overwrites ∧ result.isOk = false ∧ later.commits = log.commits) ∨
        (replies.Overwrites ∧ later.commits = log.commits ++ [.zorderInspired] ∧
          (result.isOk ↔ replies.countAfterOverwrite.isOk))) := by
  simp only [compactWithZorderInspiredClustering, Program.perform_bind, Program.runWith_call,
    Program.runWith_bind, sized, Program.ofExcept_ok, Program.runWith_done, runWith_invoke]
  simp only [handle, id]
  cases analysed : replies.analyse with
  | error exc => exact ⟨_, _, rfl, .inl ⟨by simp [Overwrites, analysed], rfl, rfl⟩⟩
  | ok done =>
      cases emptied : replies.isEmpty with
      | error exc => exact ⟨_, _, rfl, .inl ⟨by simp [Overwrites, emptied], rfl, rfl⟩⟩
      | ok empty =>
          cases empty with
          | true => exact ⟨_, _, rfl, .inl ⟨by simp [Overwrites, emptied], rfl, rfl⟩⟩
          | false =>
              simp only [Bool.false_eq_true, if_false, Program.runWith_bind, runWith_invoke]
              simp only [handle, id]
              cases saved : replies.save with
              | error exc => exact ⟨_, _, rfl, .inl ⟨by simp [Overwrites, saved], rfl, rfl⟩⟩
              | ok committed =>
                  obtain ⟨result, run, decides⟩ := replies.runWith_measureAfter stats
                    (replies.perfCounter log.calls) .zorderInspired
                    { calls := log.calls + 1 + 1 + 1 + 1
                      overwrote := true
                      commits := log.commits ++ [.zorderInspired] }
                  refine ⟨result, _, run, .inr ⟨⟨analysed, emptied, saved⟩, rfl, ?_⟩⟩
                  simpa [countReply] using decides

/-- `OPTIMIZE` commits if it rewrote anything; then the count decides. -/
theorem runWith_optimize (config : CompactionConfig) (stats : PartitionStats) :
    ∃ result later,
      (compactWithDeltaOptimize config stats).runWith replies.handle {} = (result, later) ∧
      later.commits = (if replies.optimize = .ok true then [.deltaOptimize] else []) ∧
      (result.isOk ↔ replies.optimize.isOk ∧ replies.countAfterOptimize.isOk) := by
  simp only [compactWithDeltaOptimize, Program.perform_bind, Program.runWith_call,
    Program.runWith_bind, runWith_invoke]
  simp only [handle, id]
  cases optimized : replies.optimize with
  | error exc => exact ⟨_, _, rfl, by simp, by simp [Except.isOk, Except.toBool]⟩
  | ok rewrote =>
      cases rewrote with
      | true =>
          obtain ⟨result, run, decides⟩ := replies.runWith_measureAfter stats
            (replies.perfCounter 0) .deltaOptimize
            { calls := 2, commits := [.deltaOptimize] }
          exact ⟨result, _, run, by simp, by
            simpa [countReply, Except.isOk, Except.toBool] using decides⟩
      | false =>
          obtain ⟨result, run, decides⟩ := replies.runWith_measureAfter stats
            (replies.perfCounter 0) .deltaOptimize { calls := 2 }
          exact ⟨result, _, run, by simp, by
            simpa [countReply, Except.isOk, Except.toBool] using decides⟩

/-! ## The whole compaction -/

/-- Each rewrite which is committed is followed by a count which returns. -/
structure CountsReturn (config : CompactionConfig) : Prop where
  afterOptimize : config.useDeltaOptimize = true → replies.optimize = .ok true →
    replies.countAfterOptimize.isOk
  /-- The overwrite is reached directly, or when the `OPTIMIZE` path raises. -/
  afterOverwrite :
    (config.useDeltaOptimize = true →
      ¬(replies.optimize.isOk ∧ replies.countAfterOptimize.isOk)) →
    replies.Overwrites → replies.countAfterOverwrite.isOk

/-- At most one rewrite is committed, and none by a call which raises. -/
def CommitsCleanly {α : Type} (outcome : Except PyException α × SparkLog) : Prop :=
  outcome.2.commits.length ≤ 1 ∧ ∀ exc, outcome.1 = .error exc → outcome.2.commits = []

/-- An overwrite is clean exactly if nothing was committed before it, and its own commit is
counted. -/
theorem commitsCleanly_overwrite (config : CompactionConfig) (stats : PartitionStats) {count : Int}
    (sized : estimateOutputFileCount stats.totalBytes config.targetFileSizeBytes = .ok count)
    (log : SparkLog) :
    CommitsCleanly
        ((compactWithZorderInspiredClustering config stats).runWith replies.handle log) ↔
      log.commits = [] ∧ (replies.Overwrites → replies.countAfterOverwrite.isOk) := by
  obtain ⟨result, later, run, ⟨stops, raises, commits⟩ | ⟨writes, commits, decides⟩⟩ :=
    replies.runWith_overwrite config stats sized log
  · rw [run]
    cases result with
    | ok part => simp [Except.isOk, Except.toBool] at raises
    | error exc =>
        simp only [CommitsCleanly, commits, stops, Except.error.injEq, forall_eq', false_imp_iff,
          and_true]
        exact ⟨fun clean => clean.2, fun nothing => ⟨by simp [nothing], nothing⟩⟩
  · rw [run]
    cases result with
    | ok part =>
        have counted : replies.countAfterOverwrite.isOk := decides.mp rfl
        simp only [CommitsCleanly, commits, counted, List.length_append, List.length_singleton,
          reduceCtorEq, false_imp_iff, implies_true, and_true]
        rw [← List.length_eq_zero_iff]
        omega
    | error exc =>
        have uncounted : ¬replies.countAfterOverwrite.isOk = true := fun counted => by
          simpa [Except.isOk, Except.toBool] using decides.mpr counted
        simp [CommitsCleanly, commits, uncounted, writes]

theorem commitsCleanly_rewritePartition (config : CompactionConfig) (stats : PartitionStats)
    {count : Int}
    (sized : estimateOutputFileCount stats.totalBytes config.targetFileSizeBytes = .ok count) :
    CommitsCleanly ((rewritePartition config stats).runWith replies.handle {}) ↔
      replies.CountsReturn config := by
  have overwrite := replies.commitsCleanly_overwrite config stats sized
  cases mode : config.useDeltaOptimize with
  | false =>
      simp only [rewritePartition, mode, Bool.false_eq_true, if_false, overwrite, true_and]
      constructor
      · intro counted
        exact ⟨by simp [mode], fun _ => counted⟩
      · intro returns
        exact returns.afterOverwrite (by simp [mode])
  | true =>
      obtain ⟨first, middle, run, commits, returns⟩ := replies.runWith_optimize config stats
      simp only [rewritePartition, mode, if_true, Program.runWith_bind, Program.runWith_attempt,
        run]
      cases first with
      | ok part =>
          have optimized := returns.mp rfl
          refine ⟨fun _ => ⟨fun _ _ => optimized.2, fun reached => absurd optimized
            (reached mode)⟩, fun _ => ⟨?_, fun exc raised => ?_⟩⟩
          · simp only [Program.pure_eq, Program.runWith_done, commits]
            split <;> simp
          · simp at raised
      | error exc =>
          have failed : ¬(replies.optimize.isOk = true ∧ replies.countAfterOptimize.isOk = true) :=
            fun optimized => by simpa [Except.isOk, Except.toBool] using returns.mpr optimized
          rw [overwrite, commits]
          constructor
          · rintro ⟨nothing, counted⟩
            refine ⟨fun _ rewrote => ?_, fun _ => counted⟩
            simp [rewrote] at nothing
          · rintro ⟨counted, later⟩
            refine ⟨if_neg fun rewrote => failed ⟨by rw [rewrote]; rfl, counted mode rewrote⟩, ?_⟩
            exact later fun _ => failed

/-- A compaction is clean exactly if its checks stop it, or each rewrite which is committed is
followed by a count which returns. -/
theorem commitsCleanly_iff (config : CompactionConfig) (stats : PartitionStats) :
    CommitsCleanly (replies.runCompaction config stats) ↔
      (validatePartitionHasData stats = .ok () →
        (∃ count, estimateOutputFileCount stats.totalBytes config.targetFileSizeBytes =
          .ok count) →
          replies.CountsReturn config) := by
  simp only [runCompaction, compactPartition, Program.runWith_bind, Program.runWith_ofExcept,
    Program.runWith_attempt]
  cases validated : validatePartitionHasData stats with
  | error exc => simp [CommitsCleanly]
  | ok valid =>
      cases sized : estimateOutputFileCount stats.totalBytes config.targetFileSizeBytes with
      | error exc => simp [CommitsCleanly]
      | ok count =>
          rw [← replies.commitsCleanly_rewritePartition config stats sized]
          simp only [Except.ok.injEq, exists_eq', forall_const]
          rcases (rewritePartition config stats).runWith replies.handle {} with ⟨result, later⟩
          cases result with
          | ok part => simp [CommitsCleanly]
          | error exc =>
              simp only
              split <;> simp [CommitsCleanly]

/-- Everything succeeds except for the listing after the overwrite. -/
def lostListing : SparkReplies where
  optimize := .ok true
  analyse := .ok ()
  isEmpty := .ok false
  save := .ok ()
  countAfterOptimize := .ok (1, 1000)
  countAfterOverwrite :=
    .error
      { type := .other "EndpointConnectionError"
        message := "Could not connect to the endpoint URL: \"http://minio:9000/lakehouse\"" }
  perfCounter := fun calls => calls

/-- Two small files of one hour. -/
def twoFiles : PartitionStats :=
  ⟨"2024-06-11", 10, [⟨"part-0.parquet", 500, 0⟩, ⟨"part-1.parquet", 500, 0⟩]⟩

/-- The overwrite commits, and the partition is reported as failed. -/
theorem lostListing_commits :
    (lostListing.runCompaction {} twoFiles).1.isOk = false ∧
      (lostListing.runCompaction {} twoFiles).2.commits = [.zorderInspired] ∧
      ¬CommitsCleanly (lostListing.runCompaction {} twoFiles) := by
  have fails : (lostListing.runCompaction {} twoFiles).1.isOk = false := by decide +kernel
  have commits : (lostListing.runCompaction {} twoFiles).2.commits = [.zorderInspired] := by
    decide +kernel
  refine ⟨fails, commits, fun clean => ?_⟩
  cases outcome : (lostListing.runCompaction {} twoFiles).1 with
  | ok part =>
      rw [outcome] at fails
      cases fails
  | error exc =>
      have nothing := clean.2 exc outcome
      rw [commits] at nothing
      cases nothing

/-- A listing lost after `OPTIMIZE` leads to a second rewrite. -/
example :
    (SparkReplies.runCompaction
      { lostListing with
        countAfterOptimize := lostListing.countAfterOverwrite
        countAfterOverwrite := .ok (1, 1000) }
      { useDeltaOptimize := true } twoFiles).2.commits = [.deltaOptimize, .zorderInspired] := by
  decide +kernel

end SparkReplies

end Lakehouse
