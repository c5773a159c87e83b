import Lakehouse.Benchmark.BenchmarkSession
import Lakehouse.Compactor.TableHistory

/-!
# Benchmarks of a Delta table

A commit writes objects and deletes none, and a benchmark counts objects.  On a table which nobody
vacuums the count never goes down, however well the table is compacted, and automatic benchmarks
have nothing to compare.
-/

namespace Lakehouse

open Foundation

/-! ## Counted objects -/

namespace DeltaTable

variable {config : CompactionConfig} {location : TableLocation}

/-- How many objects of the table a benchmark counts, live and removed alike. -/
def benchmarkCount (config : CompactionConfig) (location : TableLocation) (table : DeltaTable) :
    Nat :=
  (countedObjects config
    (tableListing config (table.store location config.minioBucket))).length

theorem countParquetFiles_store {table : DeltaTable} {pages : List (List S3Object)}
    (lists : Lists config (table.store location config.minioBucket) pages) :
    (countParquetFiles config pages).1 = (table.benchmarkCount config location : Int) := by
  have counted : (countedObjects config pages.flatten).length =
      table.benchmarkCount config location := (lists.filter _).length_eq
  rw [countParquetFiles_eq]
  simp only [counted]

/-- A commit adds objects to the store and deletes none. -/
theorem store_commit_subperm (table : DeltaTable) (entry : Commit) (bucket : String) :
    (table.store location bucket).Subperm ((table.commit entry).store location bucket) := by
  have data : (table.dataFiles.map (DataFile.toObject location)).Subperm
      ((table.commit entry).dataFiles.map (DataFile.toObject location)) := by
    have written := (table.dataFiles_commit entry).symm.map (DataFile.toObject location)
    rw [List.map_append] at written
    exact (List.sublist_append_left _ _).subperm.trans written.subperm
  have log : (table.log.map (LogFile.toObject location)).Subperm
      ((table.commit entry).log.map (LogFile.toObject location)) := by
    cases entry <;> exact ((List.sublist_append_left _ _).map _).subperm
  unfold store
  split
  · exact data.append log
  · exact .refl _

theorem benchmarkCount_commit_le (table : DeltaTable) (entry : Commit) :
    table.benchmarkCount config location ≤ (table.commit entry).benchmarkCount config location :=
  (((table.store_commit_subperm entry config.minioBucket).filter _).filter _).length_le

end DeltaTable

/-! ## Commits and benchmarks -/

/-- A table, and the files of its benchmarks. -/
structure BenchmarkedTable where
  table : DeltaTable := {}
  files : BenchmarkFiles := {}

inductive TableEvent
  | commit (entry : Commit)
  | benchmark (args : BenchmarkArgs) (surroundings : BenchmarkSurroundings)

namespace BenchmarkedTable

/-- Commits and benchmarks happen one after the other. -/
def machine : Machine BenchmarkedTable TableEvent where
  step
    | state, .commit entry => some { state with table := state.table.commit entry }
    | state, .benchmark args surroundings =>
        some { state with files := (benchmarkMain args surroundings state.files).2 }

/-- A benchmark with an automatic label, whose first scan lists the bucket in which it looks for the
table. -/
def Measures (config : CompactionConfig) (location : TableLocation) (state : BenchmarkedTable) :
    TableEvent → Prop
  | .commit _ => True
  | .benchmark args surroundings =>
      args.phase = .auto ∧ surroundings.config = config ∧
        ∀ pages, surroundings.listing 0 = .ok pages →
          Lists config (state.table.store location config.minioBucket) pages

/-- The saved counts go up to the objects which are there. -/
structure Ascends (config : CompactionConfig) (location : TableLocation) (state : BenchmarkedTable)
    (runs : List BenchmarkRun) : Prop where
  benchmarked : Benchmarked state.files runs
  ascending : (runs.map (·.inputFileCount)).Pairwise (· ≤ ·)
  bounded : ∀ run ∈ runs,
    run.inputFileCount ≤ (state.table.benchmarkCount config location : Int)

variable {config : CompactionConfig} {location : TableLocation} {state next : BenchmarkedTable}
  {runs : List BenchmarkRun}

theorem Ascends.commit (ascends : Ascends config location state runs) (entry : Commit) :
    Ascends config location { state with table := state.table.commit entry } runs where
  benchmarked := ascends.benchmarked
  ascending := ascends.ascending
  bounded run member := by
    have bound := ascends.bounded run member
    have more := @DeltaTable.benchmarkCount_commit_le config location state.table entry
    dsimp only
    omega

theorem Ascends.benchmark (ascends : Ascends config location state runs) {args : BenchmarkArgs}
    {surroundings : BenchmarkSurroundings}
    (measures : Measures config location state (.benchmark args surroundings)) :
    ∃ later, Ascends config location
      { state with files := (benchmarkMain args surroundings state.files).2 } later := by
  obtain ⟨auto, rfl, lists⟩ := measures
  cases executed : surroundings.executeBenchmark (chosenEngine args surroundings) with
  | error exc =>
      rw [benchmarkMain_of_failed ascends.benchmarked.kept executed]
      exact ⟨runs, ascends⟩
  | ok run =>
      obtain ⟨pages, listed, count, -⟩ := executeBenchmark_eq_ok executed
      rw [DeltaTable.countParquetFiles_store (lists pages listed)] at count
      obtain ⟨printed, later, label, main_eq, next⟩ :=
        benchmarkMain_of_executed ascends.benchmarked auto executed
      rw [main_eq]
      refine ⟨_, next, ?_, ?_⟩
      · rw [List.map_append, List.pairwise_append]
        refine ⟨ascends.ascending, List.pairwise_singleton _ _, ?_⟩
        intro count member last last_mem
        obtain ⟨earlier, recorded, rfl⟩ := List.mem_map.mp member
        obtain rfl : last = run.inputFileCount := by simpa using last_mem
        rw [count]
        exact ascends.bounded earlier recorded
      · intro other member
        rcases List.mem_append.mp member with earlier | last
        · exact ascends.bounded other earlier
        · rw [List.mem_singleton.mp last]
          exact count.le

theorem exists_ascends_step {event : TableEvent}
    (ascends : ∃ runs, Ascends config location state runs)
    (measures : Measures config location state event)
    (taken : machine.step state event = some next) : ∃ runs, Ascends config location next runs := by
  obtain ⟨runs, ascends⟩ := ascends
  cases event with
  | commit entry =>
      obtain rfl := Option.some.inj taken
      exact ⟨runs, ascends.commit entry⟩
  | benchmark args surroundings =>
      obtain rfl := Option.some.inj taken
      exact ascends.benchmark measures

theorem ascends_empty : Ascends config location {} [] := ⟨benchmarked_nil, .nil, by simp⟩

/-- Wherever a table stands, whatever is appended to it and however it is compacted, every automatic
benchmark is labelled as one before compaction, and every report says that no runs are recorded. -/
theorem benchmarks_never_compare {history : List TableEvent}
    (ran : machine.exec {} history = some state)
    (measures : machine.EveryStep (Measures config location) {} history) :
    ∃ runs, loadBenchmarkRuns state.files.history = .ok runs ∧
      (∀ run ∈ runs, run.phase = "before") ∧
      (runs = [] ∧ state.files.report = none ∨
        runs ≠ [] ∧ ∃ time, state.files.report = some (generateMarkdownReport none none time)) := by
  obtain ⟨runs, ascends⟩ :=
    machine.exec_invariant_of_everyStep exists_ascends_step ⟨[], ascends_empty⟩ ran measures
  refine ⟨runs, ascends.benchmarked.kept.loaded,
    ascends.benchmarked.labelled.ascending.mp ascends.ascending, ?_⟩
  have tells := ascends.benchmarked.tells
  generalize state.files.report = report at tells
  cases tells with
  | unwritten none_saved => exact .inl ⟨none_saved, rfl⟩
  | uncompared time some_saved ascending => exact .inr ⟨some_saved, time, rfl⟩
  | compared time before after shown fallen => exact absurd ascends.ascending fallen

/-! ### An overwrite between two benchmarks -/

/-- The table before and after its hour is overwritten. -/
def hourTable : Bool → DeltaTable
  | false => DeltaTable.commit {} DeltaTable.appendTwo
  | true => DeltaTable.commit (DeltaTable.commit {} DeltaTable.appendTwo) DeltaTable.overwriteHour

theorem hourTable_small (compacted : Bool) :
    (countParquetFiles {} (DeltaTable.defaultPages (hourTable compacted))).2.natAbs ≤ 2 ^ 12 := by
  cases compacted <;> decide +kernel

def benchmarkOf (compacted : Bool) : TableEvent :=
  .benchmark { phase := .auto, engine := none }
    (listingObjects
      (tableListing {} ((hourTable compacted).store DeltaTable.defaultLocation "lakehouse"))
      (hourTable_small compacted))

theorem measures_benchmarkOf (compacted : Bool) (files : BenchmarkFiles) :
    Measures {} DeltaTable.defaultLocation { table := hourTable compacted, files := files }
      (benchmarkOf compacted) := by
  refine ⟨rfl, rfl, fun pages listed => ?_⟩
  obtain rfl := Except.ok.inj listed
  simp [Lists]

def overwriteBetween : List TableEvent :=
  [.commit DeltaTable.appendTwo, benchmarkOf false, .commit DeltaTable.overwriteHour,
    benchmarkOf true]

theorem benchmarks_never_compare_overwrite :
    ∃ state, machine.exec {} overwriteBetween = some state ∧
      ∃ runs, loadBenchmarkRuns state.files.history = .ok runs ∧
        ∀ run ∈ runs, run.phase = "before" := by
  have measures : machine.EveryStep (Measures {} DeltaTable.defaultLocation) {} overwriteBetween :=
    ⟨trivial, measures_benchmarkOf false _, trivial, measures_benchmarkOf true _, trivial⟩
  refine ⟨_, rfl, ?_⟩
  obtain ⟨runs, loaded, before, -⟩ := benchmarks_never_compare rfl measures
  exact ⟨runs, loaded, before⟩

end BenchmarkedTable

end Lakehouse
