import Lakehouse.Benchmark.BenchmarkReport
import Lakehouse.Benchmark.ComparisonPair
import Lakehouse.Benchmark.HistoryFile
import Lakehouse.Compactor.FileScanner

/-!
# Benchmark sessions

The command itself: it loads the history, measures the table, labels and saves the run, prints a
table and writes the report.  With automatic labels the files tell after any sessions whether the
number of files has ever gone down, and a report which compares shows a reduction.
-/

namespace Lakehouse

open Foundation
open Foundation.Binary64 (Value)

/-! ## Measuring -/

inductive Engine
  | duckdb
  | pyspark
  deriving DecidableEq

def Engine.text : Engine → String
  | .duckdb => "duckdb"
  | .pyspark => "pyspark"

def countParquetFiles (config : CompactionConfig) (pages : List (List S3Object)) : Int × Int :=
  let partitions := scanPartitions config pages
  ((partitions.map fun stats => (stats.fileCount : Int)).sum,
    (partitions.map PartitionStats.totalBytes).sum)

/-- The listed objects which a scan files under some partition. -/
def countedObjects (config : CompactionConfig) (objects : List S3Object) : List S3Object :=
  objects.filter fun object => (scannedPartition config object).isSome

/-- Each counted object is counted once, in whatever pages the objects come. -/
theorem countParquetFiles_eq (config : CompactionConfig) (pages : List (List S3Object)) :
    countParquetFiles config pages =
      (((countedObjects config pages.flatten).length : Int),
        ((countedObjects config pages.flatten).map S3Object.size).sum) := by
  have total : ∀ {measure : PartitionStats → Int} {weight : S3Object → Int},
      (∀ date hour, measure { eventDate := date, eventHour := hour } = 0) →
      (∀ stats object, measure { stats with files := stats.files ++ [S3Object.toFile object] } =
        measure stats + weight object) →
      ((scanPartitions config pages).map measure).sum =
        ((countedObjects config pages.flatten).map weight).sum := by
    intro measure weight empty grows
    have sorted := List.perm_insertionSort PartitionStats.Precedes
      ((scannedDict config pages).map Prod.snd)
    rw [scanPartitions, (sorted.map measure).sum_eq, List.map_map, scannedDict_eq_group]
    exact Dict.sum_group _ _ _ (fun key : String × Int => empty key.1 key.2) grows _
  have counts := @total (fun stats => (stats.fileCount : Int)) (fun _ => 1) (fun _ _ => rfl)
    (fun stats object => by simp [PartitionStats.fileCount])
  have bytes := @total PartitionStats.totalBytes S3Object.size (fun _ _ => rfl)
    (fun stats object => by simp [PartitionStats.totalBytes, S3Object.toFile])
  rw [countParquetFiles]
  simp only [counts, bytes, List.map_const', List.sum_replicate, nsmul_eq_mul, mul_one]

/-- What one query shows: `ts`, the rounded runtime and the number of rows. -/
structure QueryTiming where
  timestamp : Int
  runtimeSeconds : Value
  rowCount : Nat

/-- How the surroundings of one benchmark behave. -/
structure BenchmarkSurroundings where
  config : CompactionConfig
  /-- The variable `BENCHMARK_USE_DUCKDB`. -/
  useDuckdb : Option String
  /-- The pages which each call of `scan_partitions` lists. -/
  listing : Nat → Except PyException (List (List S3Object))
  connect : Engine → Except PyException Unit
  query : Engine → String → Except PyException QueryTiming
  close : Engine → Except PyException Unit
  inventoryTimestamp : Int
  inventorySeconds : Value
  benchmarkId : String
  now : Int
  reportNow : Int
  /-- A float can hold the size of the table. -/
  sizes_fit : ∀ number pages, listing number = .ok pages →
    (countParquetFiles config pages).2.natAbs ≤ 2 ^ 800

/-- The names of `DUCKDB_QUERIES` and of `SPARK_QUERIES`. -/
def queryNames : List String :=
  ["count_by_event_type", "filter_by_region", "aggregate_by_region_date", "count_total_records"]

namespace BenchmarkSurroundings

variable (surroundings : BenchmarkSurroundings)

/-- `run_duckdb_queries` and `run_pyspark_queries` -/
def runQueries (engine : Engine) (fileCount totalBytes : Int) :
    Except PyException (List QueryBenchmarkResult) := do
  surroundings.connect engine
  let results ← queryNames.mapM fun name => do
    let timing ← surroundings.query engine name
    return {
      queryName := name
      runtimeSeconds := timing.runtimeSeconds
      inputFileCount := fileCount
      totalDataSizeMb := formatBytesMb totalBytes
      timestamp := utcNow timing.timestamp
      rowCount := timing.rowCount : QueryBenchmarkResult }
  surroundings.close engine
  return results

def measureParquetInventory : Except PyException QueryBenchmarkResult := do
  let pages ← surroundings.listing 1
  let (files, bytesTotal) := countParquetFiles surroundings.config pages
  return {
    queryName := "parquet_file_inventory"
    runtimeSeconds := surroundings.inventorySeconds
    inputFileCount := files
    totalDataSizeMb := formatBytesMb bytesTotal
    timestamp := utcNow surroundings.inventoryTimestamp
    rowCount := files }

def noParquetFiles : PyException where
  type := .other "RuntimeError"
  message := "No Parquet files found under " ++ surroundings.config.deltaTablePath ++
    ". Run `make produce` and `make stream` first."

def executeBenchmark (engine : Engine) : Except PyException BenchmarkRun := do
  let pages ← surroundings.listing 0
  let (fileCount, totalBytes) := countParquetFiles surroundings.config pages
  if fileCount = 0 then
    .error surroundings.noParquetFiles
  else
    let inventory ← surroundings.measureParquetInventory
    let queryResults ← surroundings.runQueries engine fileCount totalBytes
    return {
      benchmarkId := surroundings.benchmarkId
      phase := "pending"
      timestamp := utcNow surroundings.now
      engine := engine.text
      inputFileCount := fileCount
      totalDataSizeMb := formatBytesMb totalBytes
      tablePath := surroundings.config.deltaTablePath
      queries := queryResults ++ [inventory] }

end BenchmarkSurroundings

/-! ## The command -/

structure BenchmarkArgs where
  phase : Phase
  engine : Option Engine

/-- `args.engine or ("duckdb" if use_duckdb else "pyspark")` -/
def chosenEngine (args : BenchmarkArgs) (surroundings : BenchmarkSurroundings) : Engine :=
  args.engine.getD
    (if (surroundings.useDuckdb.getD "true").toLower = "true" then .duckdb else .pyspark)

/-- The files at `BENCHMARK_RESULTS_PATH` and `BENCHMARK_REPORT_PATH`. -/
structure BenchmarkFiles where
  history : Option (List Char) := none
  report : Option String := none

/-- The tables which are printed of a run and of the pair to compare. -/
def printTables (pair : Option BenchmarkRun × Option BenchmarkRun) (run : BenchmarkRun) :
    Except PyException (List String) :=
  match pair with
  | (some before, some after) => .ok (printComparisonTable before after)
  | _ => do
      let table ← printSingleRunTable run
      if run.phase = "before" then
        return table ++
          ["Tip: Run `make compact-once`, then `make benchmark --phase after`",
            "     (or `make benchmark` with auto phase) to generate a comparison.\n"]
      else
        return table

/-- `main` after the run has been labelled, which saves it first of all. -/
def recordBenchmark (surroundings : BenchmarkSurroundings) (history : List BenchmarkRun)
    (run : BenchmarkRun) (files : BenchmarkFiles) :
    Except LoadError (List String) × BenchmarkFiles :=
  let saved := { files with history := saveBenchmarkRun run files.history }
  match findComparisonPair id (history ++ [run]) run with
  | .error exc => (.error (.raised exc), saved)
  | .ok pair =>
      match printTables pair run with
      | .error exc => (.error (.raised exc), saved)
      | .ok printed =>
          (.ok printed,
            { saved with
              report := some (generateMarkdownReport pair.1 pair.2 surroundings.reportNow) })

/-- `main`, with what it prints before its last two lines. -/
def benchmarkMain (args : BenchmarkArgs) (surroundings : BenchmarkSurroundings)
    (files : BenchmarkFiles) : Except LoadError (List String) × BenchmarkFiles :=
  match loadBenchmarkRuns files.history with
  | .error error => (.error error, files)
  | .ok history =>
      match surroundings.executeBenchmark (chosenEngine args surroundings) with
      | .error exc => (.error (.raised exc), files)
      | .ok run =>
          match resolvePhase run args.phase history with
          | .error exc => (.error (.raised exc), files)
          | .ok label => recordBenchmark surroundings history { run with phase := label } files

/-! ## One session -/

section Session

variable {surroundings : BenchmarkSurroundings} {engine : Engine} {run : BenchmarkRun}

theorem dataSizeBytes_formatBytesMb {bytes : Int} {exponent : Nat} (low : exponent < 900)
    (small : bytes.natAbs ≤ 2 ^ exponent) (size : run.totalDataSizeMb = formatBytesMb bytes) :
    ∃ whole, run.dataSizeBytes = .ok whole := by
  have exact_size : (Binary64.quotient bytes (2 ^ 20)).AtMost exponent :=
    Binary64.atMost_quotient (by omega) (Nat.two_pow_pos 20) small
  have megabytes : (formatBytesMb bytes).AtMost exponent := exact_size.roundTo (by omega) 2
  have kilobytes : ((formatBytesMb bytes).timesNat 1024).AtMost (exponent + 10) :=
    megabytes.timesNat (by omega) (by decide)
  have whole_size : (((formatBytesMb bytes).timesNat 1024).timesNat 1024).AtMost
      (exponent + 10 + 10) := kilobytes.timesNat (by omega) (by decide)
  obtain ⟨whole, found⟩ := whole_size.exists_truncate?
  refine ⟨whole, ?_⟩
  rw [BenchmarkRun.dataSizeBytes, size]
  simp only [found]

/-- What a benchmark which is executed has found in its first scan. -/
theorem executeBenchmark_eq_ok
    (executed : surroundings.executeBenchmark engine = .ok run) :
    ∃ pages, surroundings.listing 0 = .ok pages ∧
      run.inputFileCount = (countParquetFiles surroundings.config pages).1 ∧
      run.totalDataSizeMb = formatBytesMb (countParquetFiles surroundings.config pages).2 ∧
      run.inputFileCount ≠ 0 ∧ run.phase = "pending" := by
  rw [BenchmarkSurroundings.executeBenchmark] at executed
  obtain ⟨pages, listed, executed⟩ := exists_of_bind_eq_ok executed
  by_cases none_found : (countParquetFiles surroundings.config pages).1 = 0
  · simp [none_found] at executed
  · simp only [none_found, if_false] at executed
    obtain ⟨inventory, -, executed⟩ := exists_of_bind_eq_ok executed
    obtain ⟨results, -, executed⟩ := exists_of_bind_eq_ok executed
    obtain rfl := Except.ok.inj executed
    exact ⟨pages, listed, rfl, rfl, none_found, rfl⟩

end Session

/-! ## Labelled histories -/

/-- A history with automatic labels: no run is an after-run exactly if no run has fewer files than
an earlier one. -/
structure Labelled (runs : List BenchmarkRun) : Prop where
  compared : Compared runs
  positive : ∀ run ∈ runs, 0 < run.inputFileCount
  ascending : (runs.map (·.inputFileCount)).Pairwise (· ≤ ·) ↔ ∀ run ∈ runs, run.phase = "before"

theorem labelled_nil : Labelled [] := ⟨compared_nil, by simp, by simp⟩

section Labels

variable {runs : List BenchmarkRun}

/-- A run is an after-run exactly if an earlier run has more files. -/
theorem Compared.resolvePhase_eq (compared : Compared runs) (run : BenchmarkRun) :
    resolvePhase run .auto runs =
      .ok (if ∃ earlier ∈ runs, run.inputFileCount < earlier.inputFileCount then "after"
        else "before") := by
  by_cases empty : inPhase id "before" runs = []
  · have no_runs : ∀ earlier ∈ runs, False := by
      intro earlier member
      obtain ⟨baseline, recorded, before, -⟩ := compared.exists_before member
      exact List.ne_nil_of_mem (mem_inPhase.mpr ⟨recorded, before⟩) empty
    have none_more : ¬∃ earlier ∈ runs, run.inputFileCount < earlier.inputFileCount := by
      rintro ⟨earlier, member, -⟩
      exact no_runs earlier member
    simp [resolvePhase, empty, none_more]
  · obtain ⟨baseline, member, largest, most⟩ := exists_maxBy (·.inputFileCount) empty
    obtain ⟨recorded, before⟩ := mem_inPhase.mp member
    have more_iff : (∃ earlier ∈ runs, run.inputFileCount < earlier.inputFileCount) ↔
        run.inputFileCount < baseline.inputFileCount := by
      constructor
      · rintro ⟨earlier, earlier_mem, more⟩
        obtain ⟨larger, larger_mem, larger_before, le⟩ := compared.exists_before earlier_mem
        have bound := most larger (mem_inPhase.mpr ⟨larger_mem, larger_before⟩)
        exact more.trans_le (le.trans bound)
      · exact fun more => ⟨baseline, recorded, more⟩
    have resolved : resolvePhase run .auto runs =
        if run.inputFileCount < baseline.inputFileCount then .ok "after" else .ok "before" := by
      simp [resolvePhase, empty, largest]
    simp only [resolved, more_iff]
    split <;> rfl

theorem Labelled.append (labelled : Labelled runs) {run : BenchmarkRun} {label : String}
    (positive : 0 < run.inputFileCount) (resolved : resolvePhase run .auto runs = .ok label) :
    Labelled (runs ++ [{ run with phase := label }]) := by
  obtain ⟨label', resolved', accounted⟩ := resolvePhase_auto run runs
  obtain rfl : label' = label := Except.ok.inj (resolved'.symm.trans resolved)
  refine ⟨labelled.compared.append accounted, ?_, ?_⟩
  · intro other member
    rcases List.mem_append.mp member with earlier | last
    · exact labelled.positive other earlier
    · rw [List.mem_singleton.mp last]
      exact positive
  · have chosen := Except.ok.inj (resolved.symm.trans (labelled.compared.resolvePhase_eq run))
    have before_iff : label' = "before" ↔
        ∀ earlier ∈ runs, earlier.inputFileCount ≤ run.inputFileCount := by
      rw [chosen]
      split
      · rename_i more
        obtain ⟨earlier, member, less⟩ := more
        exact ⟨fun same => absurd same (by decide), fun all =>
          absurd (all earlier member) (not_le.mpr less)⟩
      · rename_i none_more
        exact ⟨fun _ earlier member => not_lt.mp fun less => none_more ⟨earlier, member, less⟩,
          fun _ => rfl⟩
    rw [List.map_append, List.pairwise_append, labelled.ascending, List.forall_mem_append]
    simp [before_iff]

/-- The pair of a history without after-runs. -/
theorem findComparisonPair_of_before {current : BenchmarkRun} (member : current ∈ runs)
    (before : ∀ run ∈ runs, run.phase = "before") :
    findComparisonPair id runs current = .ok (none, none) := by
  have none_after : inPhase id "after" runs = [] := by
    refine List.filter_eq_nil_iff.mpr fun run recorded => ?_
    simp [before run recorded]
  simp [findComparisonPair, before current member, none_after]

/-- What is compared: the run with the most files, and one with fewer. -/
structure ShowsReduction (runs : List BenchmarkRun) (before after : BenchmarkRun) : Prop where
  before_mem : before ∈ runs
  after_mem : after ∈ runs
  most : ∀ run ∈ runs, run.inputFileCount ≤ before.inputFileCount
  fewer : after.inputFileCount < before.inputFileCount
  minus : (pctChangeInt before.inputFileCount after.inputFileCount).toList.head? = some '-'

/-- With an after-run, every run is shown with a reduction. -/
theorem Labelled.exists_pair (labelled : Labelled runs) {current : BenchmarkRun}
    (member : current ∈ runs) (some_after : ¬∀ run ∈ runs, run.phase = "before") :
    ∃ before after, findComparisonPair id runs current = .ok (some before, some after) ∧
      ShowsReduction runs before after := by
  push Not at some_after
  obtain ⟨after, after_mem, not_before⟩ := some_after
  have is_after := (labelled.compared.labelled after after_mem).resolve_left not_before
  obtain ⟨larger, larger_mem, larger_before, -⟩ :=
    labelled.compared.outnumbered after after_mem is_after
  have some_before : inPhase id "before" runs ≠ [] :=
    List.ne_nil_of_mem (mem_inPhase.mpr ⟨larger_mem, larger_before⟩)
  have has_after : inPhase id "after" runs ≠ [] :=
    List.ne_nil_of_mem (mem_inPhase.mpr ⟨after_mem, is_after⟩)
  obtain ⟨baseline, baseline_mem, largest, most⟩ := exists_maxBy (·.inputFileCount) some_before
  obtain ⟨latest, latest_mem, newest, -⟩ := exists_maxBy (·.timestamp) has_after
  have found : ∃ second ∈ runs,
      findComparisonPair id runs current = .ok (some baseline, some second) := by
    rcases labelled.compared.labelled current member with before | after
    · exact ⟨latest, (mem_inPhase.mp latest_mem).1,
        findComparisonPair_eq_iff.mpr ⟨largest, .inr ⟨before, newest⟩⟩⟩
    · exact ⟨current, member, findComparisonPair_eq_iff.mpr ⟨largest, .inl ⟨after, rfl⟩⟩⟩
  obtain ⟨second, second_mem, pair⟩ := found
  obtain ⟨-, -, fewer⟩ := labelled.compared.reduction member pair
  have positive := (labelled.positive second second_mem).trans fewer
  refine ⟨baseline, second, pair, (mem_inPhase.mp baseline_mem).1, second_mem, ?_, fewer,
    (head?_pctChangeInt positive).mpr fewer⟩
  intro run recorded
  obtain ⟨more, more_mem, more_before, le⟩ := labelled.compared.exists_before recorded
  exact le.trans (most more (mem_inPhase.mpr ⟨more_mem, more_before⟩))

end Labels

/-! ## Sessions -/

/-- What happens to the files. -/
inductive BenchmarkEvent
  | benchmark (args : BenchmarkArgs) (surroundings : BenchmarkSurroundings)
  | blank (text : BlankLine)
  | foreign (record : ForeignLine)

namespace BenchmarkEvent

def apply (files : BenchmarkFiles) : BenchmarkEvent → BenchmarkFiles
  | .benchmark args surroundings => (benchmarkMain args surroundings files).2
  | .blank text => { files with history := (HistoryEntry.blank text).append files.history }
  | .foreign record => { files with history := (HistoryEntry.foreign record).append files.history }

def IsAuto : BenchmarkEvent → Prop
  | .benchmark args _ => args.phase = .auto
  | _ => True

/-- The run which is measured, if nothing is raised. -/
def executed? : BenchmarkEvent → Option BenchmarkRun
  | .benchmark args surroundings =>
      (surroundings.executeBenchmark (chosenEngine args surroundings)).toOption
  | _ => none

end BenchmarkEvent

def runEvents (events : List BenchmarkEvent) : BenchmarkFiles :=
  events.foldl BenchmarkEvent.apply {}

/-- A run as it was before it was labelled. -/
def BenchmarkRun.unlabelled (run : BenchmarkRun) : BenchmarkRun := { run with phase := "pending" }

/-- The report is that of the last run. -/
def ReportsLast (runs : List BenchmarkRun) (report : Option String) : Prop :=
  runs = [] ∧ report = none ∨
    ∃ current ∈ runs.getLast?, ∃ pair time,
      findComparisonPair id runs current = .ok pair ∧
        report = some (generateMarkdownReport pair.1 pair.2 time)

/-- The files hold these runs and the report of the last one. -/
structure Benchmarked (files : BenchmarkFiles) (runs : List BenchmarkRun) : Prop where
  kept : Keeps files.history runs
  labelled : Labelled runs
  report : ReportsLast runs files.report

section Sessions

variable {files : BenchmarkFiles} {runs : List BenchmarkRun} {args : BenchmarkArgs}
  {surroundings : BenchmarkSurroundings} {run : BenchmarkRun}

theorem benchmarkMain_of_failed (kept : Keeps files.history runs) {exc : PyException}
    (failed : surroundings.executeBenchmark (chosenEngine args surroundings) = .error exc) :
    benchmarkMain args surroundings files = (.error (.raised exc), files) := by
  rw [benchmarkMain, kept.loaded]
  simp only [failed]

theorem exists_printTables {bytes : Int} (small : bytes.natAbs ≤ 2 ^ 800)
    (size : run.totalDataSizeMb = formatBytesMb bytes)
    (pair : Option BenchmarkRun × Option BenchmarkRun) :
    ∃ printed, printTables pair run = .ok printed := by
  obtain ⟨whole, shown⟩ := dataSizeBytes_formatBytesMb (by omega) small size
  obtain ⟨_ | before, _ | after⟩ := pair
  case some.some => exact ⟨_, rfl⟩
  all_goals
    by_cases labelled : run.phase = "before" <;>
      simp [printTables, printSingleRunTable, shown, labelled]

/-- A run which is measured is labelled and saved, and its tables and its report are written. -/
theorem benchmarkMain_of_executed (benchmarked : Benchmarked files runs) (auto : args.phase = .auto)
    (executed : surroundings.executeBenchmark (chosenEngine args surroundings) = .ok run) :
    ∃ printed later label, benchmarkMain args surroundings files = (.ok printed, later) ∧
      Benchmarked later (runs ++ [{ run with phase := label }]) := by
  obtain ⟨pages, listed, count, size, nonzero, -⟩ := executeBenchmark_eq_ok executed
  have positive : 0 < run.inputFileCount := by
    rw [countParquetFiles_eq] at count
    omega
  obtain ⟨label, resolved, -⟩ := resolvePhase_auto run runs
  have member : { run with phase := label } ∈ runs ++ [{ run with phase := label }] := by simp
  obtain ⟨pair, found⟩ := @exists_findComparisonPair _ id _ _ member
  obtain ⟨printed, shown⟩ := @exists_printTables { run with phase := label } _
    (surroundings.sizes_fit 0 pages listed) size pair
  have main_eq : benchmarkMain args surroundings files =
      (.ok printed,
        { history := saveBenchmarkRun { run with phase := label } files.history
          report := some (generateMarkdownReport pair.1 pair.2 surroundings.reportNow) }) := by
    rw [benchmarkMain, benchmarked.kept.loaded]
    simp only [executed, auto, resolved, recordBenchmark, found, shown]
  exact ⟨printed, _, label, main_eq, benchmarked.kept.append (.saved { run with phase := label }),
    benchmarked.labelled.append positive resolved, .inr ⟨_, by simp, pair, _, found, rfl⟩⟩

theorem Benchmarked.append_entry (benchmarked : Benchmarked files runs) (entry : HistoryEntry)
    (no_run : entry.run? = none) :
    Benchmarked { files with history := entry.append files.history } runs := by
  have kept := benchmarked.kept.append entry
  rw [no_run, Option.toList_none, List.append_nil] at kept
  exact ⟨kept, benchmarked.labelled, benchmarked.report⟩

/-- An event saves the run which it has measured, and with automatic labels nothing else changes. -/
theorem Benchmarked.apply (benchmarked : Benchmarked files runs) {event : BenchmarkEvent}
    (auto : event.IsAuto) :
    ∃ added, Benchmarked (event.apply files) (runs ++ added) ∧
      added.map BenchmarkRun.unlabelled = event.executed?.toList := by
  cases event with
  | benchmark args surroundings =>
      cases executed : surroundings.executeBenchmark (chosenEngine args surroundings) with
      | error exc =>
          have unchanged := benchmarkMain_of_failed benchmarked.kept executed
          refine ⟨[], ?_, ?_⟩
          · rw [BenchmarkEvent.apply, unchanged, List.append_nil]
            exact benchmarked
          · simp [BenchmarkEvent.executed?, executed, Except.toOption]
      | ok run =>
          obtain ⟨printed, later, label, main_eq, next⟩ :=
            benchmarkMain_of_executed benchmarked auto executed
          obtain ⟨pages, -, -, -, -, pending⟩ := executeBenchmark_eq_ok executed
          refine ⟨[{ run with phase := label }], ?_, ?_⟩
          · rw [BenchmarkEvent.apply, main_eq]
            exact next
          · simp [BenchmarkEvent.executed?, executed, Except.toOption, BenchmarkRun.unlabelled,
              ← pending]
  | blank text =>
      refine ⟨[], ?_, rfl⟩
      rw [BenchmarkEvent.apply, List.append_nil]
      exact benchmarked.append_entry (.blank text) rfl
  | foreign record =>
      refine ⟨[], ?_, rfl⟩
      rw [BenchmarkEvent.apply, List.append_nil]
      exact benchmarked.append_entry (.foreign record) rfl

theorem benchmarked_nil : Benchmarked {} [] :=
  ⟨keeps_fresh, labelled_nil, .inl ⟨rfl, rfl⟩⟩

theorem Benchmarked.runEvents (benchmarked : Benchmarked files runs) {events : List BenchmarkEvent}
    (auto : ∀ event ∈ events, event.IsAuto) :
    ∃ added, Benchmarked (events.foldl BenchmarkEvent.apply files) (runs ++ added) ∧
      added.map BenchmarkRun.unlabelled = events.filterMap BenchmarkEvent.executed? := by
  induction events generalizing files runs with
  | nil => exact ⟨[], by simpa using benchmarked, rfl⟩
  | cons event events ih =>
      obtain ⟨first, applied, first_eq⟩ := benchmarked.apply (auto event (by simp))
      obtain ⟨rest, ended, rest_eq⟩ := ih applied fun later member => auto later (by simp [member])
      refine ⟨first ++ rest, by simpa using ended, ?_⟩
      rw [List.map_append, first_eq, rest_eq]
      cases found : event.executed? <;> simp [found]

theorem exists_benchmarked {events : List BenchmarkEvent} (auto : ∀ event ∈ events, event.IsAuto) :
    ∃ runs, Benchmarked (runEvents events) runs ∧
      runs.map BenchmarkRun.unlabelled = events.filterMap BenchmarkEvent.executed? := by
  obtain ⟨runs, benchmarked, measured⟩ := benchmarked_nil.runEvents auto
  exact ⟨runs, benchmarked, measured⟩

/-- What a report says of the saved runs. -/
inductive ReportTells (runs : List BenchmarkRun) : Option String → Prop
  | unwritten (none_saved : runs = []) : ReportTells runs none
  | uncompared (time : Int) (some_saved : runs ≠ [])
      (ascending : (runs.map (·.inputFileCount)).Pairwise (· ≤ ·)) :
      ReportTells runs (some (generateMarkdownReport none none time))
  | compared (time : Int) (before after : BenchmarkRun) (shown : ShowsReduction runs before after)
      (fallen : ¬(runs.map (·.inputFileCount)).Pairwise (· ≤ ·)) :
      ReportTells runs (some (generateMarkdownReport (some before) (some after) time))

theorem Benchmarked.tells (benchmarked : Benchmarked files runs) :
    ReportTells runs files.report := by
  obtain ⟨none_saved, unwritten⟩ | ⟨current, last, pair, time, found, written⟩ :=
    benchmarked.report
  · rw [unwritten]
    exact .unwritten none_saved
  · have member := List.mem_of_getLast? last
    rw [written]
    by_cases all_before : ∀ run ∈ runs, run.phase = "before"
    · rw [findComparisonPair_of_before member all_before] at found
      obtain rfl := Except.ok.inj found
      exact .uncompared time (List.ne_nil_of_mem member)
        (benchmarked.labelled.ascending.mpr all_before)
    · obtain ⟨before, after, pair_eq, shown⟩ := benchmarked.labelled.exists_pair member all_before
      obtain rfl := Except.ok.inj (found.symm.trans pair_eq)
      exact .compared time before after shown (mt benchmarked.labelled.ascending.mp all_before)

/-- With automatic labels every run which is measured is saved, and the report compares a run with
the most files and one with fewer exactly if some run has fewer files than an earlier one.  After
any such events a benchmark fails only if its measurement does. -/
theorem auto_benchmarks_compare (events : List BenchmarkEvent)
    (auto : ∀ event ∈ events, event.IsAuto) :
    ∃ runs, loadBenchmarkRuns (runEvents events).history = .ok runs ∧
      runs.map BenchmarkRun.unlabelled = events.filterMap BenchmarkEvent.executed? ∧
      ReportTells runs (runEvents events).report ∧
      ∀ args surroundings run, args.phase = .auto →
        surroundings.executeBenchmark (chosenEngine args surroundings) = .ok run →
        ∃ printed, (benchmarkMain args surroundings (runEvents events)).1 = .ok printed := by
  obtain ⟨runs, benchmarked, measured⟩ := exists_benchmarked auto
  refine ⟨runs, benchmarked.kept.loaded, measured, benchmarked.tells, ?_⟩
  intro args surroundings run auto_args executed
  obtain ⟨printed, later, label, main_eq, -⟩ :=
    benchmarkMain_of_executed benchmarked auto_args executed
  exact ⟨printed, by rw [main_eq]⟩

/-! ### Three files and then one -/

theorem fits_of_listed {objects : List S3Object}
    (small : (countParquetFiles {} [objects]).2.natAbs ≤ 2 ^ 12) (_ : Nat)
    (pages : List (List S3Object)) (listed : Except.ok (ε := PyException) [objects] = .ok pages) :
    (countParquetFiles {} pages).2.natAbs ≤ 2 ^ 800 := by
  obtain rfl := Except.ok.inj listed
  have fits : ∀ exponent, 12 ≤ exponent →
      (countParquetFiles {} [objects]).2.natAbs ≤ 2 ^ exponent :=
    fun exponent large => small.trans (Nat.pow_le_pow_right (by decide) large)
  exact fits 800 (by decide)

/-- Both scans list these objects, and DuckDB shows ten rows for each query. -/
def listingObjects (objects : List S3Object)
    (small : (countParquetFiles {} [objects]).2.natAbs ≤ 2 ^ 12) : BenchmarkSurroundings where
  config := {}
  useDuckdb := none
  listing _ := .ok [objects]
  connect _ := .ok ()
  query _ _ := .ok { timestamp := 0, runtimeSeconds := Binary64.quotient 1 2, rowCount := 10 }
  close _ := .ok ()
  inventoryTimestamp := 0
  inventorySeconds := Binary64.quotient 1 4
  benchmarkId := "0123456789ab"
  now := 0
  reportNow := 0
  sizes_fit := fits_of_listed small

def hourObject (name : String) : S3Object where
  key := "raw/events/event_date=2024-06-11/event_hour=10/" ++ name ++ ".parquet"
  size := 1024
  lastModified := 0

def hourObjects : Bool → List S3Object
  | false => ["part-0", "part-1", "part-2"].map hourObject
  | true => [hourObject "part-3"]

theorem hourObjects_small (compacted : Bool) :
    (countParquetFiles {} [hourObjects compacted]).2.natAbs ≤ 2 ^ 12 := by
  cases compacted <;> decide +kernel

def hourSurroundings (compacted : Bool) : BenchmarkSurroundings :=
  listingObjects (hourObjects compacted) (hourObjects_small compacted)

def hourBenchmarks : List BenchmarkEvent :=
  [.benchmark { phase := .auto, engine := none } (hourSurroundings false),
    .benchmark { phase := .auto, engine := none } (hourSurroundings true)]

theorem hourBenchmarks_executed :
    (hourBenchmarks.filterMap BenchmarkEvent.executed?).map (·.inputFileCount) = [3, 1] := by
  decide +kernel

/-- The second report compares. -/
theorem auto_benchmarks_compare_hour :
    ∃ before after time, (runEvents hourBenchmarks).report =
      some (generateMarkdownReport (some before) (some after) time) := by
  obtain ⟨runs, -, measured, tells, -⟩ :=
    auto_benchmarks_compare hourBenchmarks (by simp [hourBenchmarks, BenchmarkEvent.IsAuto])
  have counts : runs.map (·.inputFileCount) = [3, 1] := by
    rw [← hourBenchmarks_executed, ← measured, List.map_map]
    rfl
  generalize (runEvents hourBenchmarks).report = report at tells
  cases tells with
  | unwritten none_saved => simp [none_saved] at counts
  | uncompared time some_saved ascending => simp [counts] at ascending
  | compared time before after shown fallen => exact ⟨before, after, time, rfl⟩

end Sessions

end Lakehouse
