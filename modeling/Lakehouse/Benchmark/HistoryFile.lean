import Lakehouse.Benchmark.BenchmarkQueries
import Lakehouse.Foundation.JsonLines

/-!
# The history file

What has been saved is loaded again, whatever blank lines and foreign records stand between the runs
of the file.
-/

namespace Lakehouse

open Foundation

/-! ## Records -/

section Members

variable {data : Members} {name : String}

theorem declared_text {value : String}
    (found : Json.Value.get? data name.toList = some (.text value.toList)) :
    member data name >>= declaredText name = .ok value := by
  rw [member, found]
  exact congrArg Except.ok String.ofList_toList

theorem declared_int {value : Int}
    (found : Json.Value.get? data name.toList = some (.number (.int value))) :
    member data name >>= declaredInt name = .ok value := by
  rw [member, found]
  rfl

theorem declared_float {value : Binary64.Value}
    (found : Json.Value.get? data name.toList = some (.number (.float value))) :
    member data name >>= declaredFloat name = .ok value := by
  rw [member, found]
  rfl

end Members

/-- A query result is read back from its members. -/
theorem QueryBenchmarkResult.ofKeywords_toDict (result : QueryBenchmarkResult) :
    QueryBenchmarkResult.ofKeywords result.toDict = .ok result := by
  have known : (result.toDict.find? fun entry =>
      !((requiredParameters ++ ["row_count"]).map String.toList).contains entry.1) = none := rfl
  have complete : (requiredParameters.filter fun name =>
      (Json.Value.get? result.toDict name.toList).isNone) = [] := rfl
  have queryName := @declared_text result.toDict "query_name" result.queryName rfl
  have runtimeSeconds := @declared_float result.toDict "runtime_seconds" result.runtimeSeconds rfl
  have inputFileCount := @declared_int result.toDict "input_file_count" result.inputFileCount rfl
  have totalDataSizeMb :=
    @declared_float result.toDict "total_data_size_mb" result.totalDataSizeMb rfl
  have timestamp := @declared_text result.toDict "timestamp" result.timestamp rfl
  have rowCount : Json.Value.get? result.toDict "row_count".toList =
      some (.number (.int result.rowCount)) := rfl
  simp only [QueryBenchmarkResult.ofKeywords, known, complete]
  rw [queryName, runtimeSeconds, inputFileCount, totalDataSizeMb, timestamp, rowCount]
  rfl

theorem mapM_queryOfValue (results : List QueryBenchmarkResult) :
    (results.map fun result => Json.Value.object result.toDict).mapM queryOfValue =
      .ok results := by
  induction results with
  | nil => rfl
  | cons result results induction =>
      rw [List.map_cons, List.mapM_cons, queryOfValue, result.ofKeywords_toDict, induction]
      rfl

/-- A run is read back from its members. -/
theorem BenchmarkRun.ofDict_toDict (run : BenchmarkRun) :
    BenchmarkRun.ofDict run.toDict = .ok run := by
  have queries : Json.Value.get? run.toDict "queries".toList =
      some (.array (run.queries.map fun result => .object result.toDict)) := rfl
  have benchmarkId := @declared_text run.toDict "benchmark_id" run.benchmarkId rfl
  have phase := @declared_text run.toDict "phase" run.phase rfl
  have timestamp := @declared_text run.toDict "timestamp" run.timestamp rfl
  have engine := @declared_text run.toDict "engine" run.engine rfl
  have inputFileCount := @declared_int run.toDict "input_file_count" run.inputFileCount rfl
  have totalDataSizeMb := @declared_float run.toDict "total_data_size_mb" run.totalDataSizeMb rfl
  have tablePath := @declared_text run.toDict "table_path" run.tablePath rfl
  rw [BenchmarkRun.ofDict, queries, Option.getD_some, elements, benchmarkId, phase, timestamp,
    engine, inputFileCount, totalDataSizeMb, tablePath]
  rw [ok_bind, mapM_queryOfValue]
  rfl

/-! ## Lines -/

/-- The line of a run is loaded as this run. -/
theorem loadLine_line (run : BenchmarkRun) : loadLine run.line = .ok (some run) := by
  have not_blank : run.line.all isPySpace = false := rfl
  have read : Json.Value.read run.line = some (.object run.toDict) := Json.Value.read_write _
  have recordType : isBenchmarkRun run.toDict = true := rfl
  simp only [loadLine, not_blank, read, recordType, run.ofDict_toDict]
  rfl

theorem loadLine_blank {line : List Char} (blank : line.all isPySpace = true) :
    loadLine line = .ok none := by
  rw [loadLine, if_pos blank]

/-- Whatever texts a run holds, its line is one line. -/
theorem isLineBoundary_of_mem_line {run : BenchmarkRun} :
    ∀ c ∈ run.line, Lines.isLineBoundary c = false := fun c member =>
  Json.isLineBoundary_of_isPrinted (Json.Value.printed_write (.object run.toDict) c member)

/-! ## The file -/

/-- A line with no visible character. -/
structure BlankLine where
  line : List Char
  blank : line.all isPySpace = true

/-- Blanks, as another program may leave them. -/
def BlankLine.ofLength (length : Nat) : BlankLine where
  line := List.replicate length ' '
  blank := by
    have space : isPySpace ' ' = true := rfl
    simp [space]

/-- A line with an object of another record type. -/
structure ForeignLine where
  line : List Char
  members : Members
  whole : ∀ c ∈ line, Lines.isLineBoundary c = false
  read : Json.Value.read line = some (.object members)
  recordType : isBenchmarkRun members = false

/-- An object of another record type, as `json.dumps` writes it. -/
def ForeignLine.ofMembers (members : Members) (recordType : isBenchmarkRun members = false) :
    ForeignLine where
  line := (Json.Value.object members).write
  members := members
  whole c member := Json.isLineBoundary_of_isPrinted (Json.Value.printed_write _ c member)
  read := Json.Value.read_write _
  recordType := recordType

/-- What is appended to the file. -/
inductive HistoryEntry
  | saved (run : BenchmarkRun)
  | blank (text : BlankLine)
  | foreign (record : ForeignLine)

namespace HistoryEntry

def line : HistoryEntry → List Char
  | .saved run => run.line
  | .blank text => text.line
  | .foreign record => record.line

/-- The run of a saved line. -/
def run? : HistoryEntry → Option BenchmarkRun
  | .saved run => some run
  | _ => none

def append (file : Option (List Char)) : HistoryEntry → Option (List Char)
  | .saved run => saveBenchmarkRun run file
  | .blank text => Lines.appendLine text.line file
  | .foreign record => Lines.appendLine record.line file

theorem append_eq (file : Option (List Char)) (entry : HistoryEntry) :
    entry.append file = Lines.appendLine entry.line file := by
  cases entry <;> rfl

end HistoryEntry

theorem loadLine_foreign (record : ForeignLine) : loadLine record.line = .ok none := by
  rw [loadLine]
  split
  · rfl
  · simp only [record.read, record.recordType]
    rfl

/-- Lines which are passed over. -/
theorem mapM_loadLine_none {lines : List (List Char)}
    (passed : ∀ line ∈ lines, loadLine line = .ok none) :
    ∃ loaded, lines.mapM loadLine = .ok loaded ∧ loaded.reduceOption = [] := by
  induction lines with
  | nil => exact ⟨[], rfl, rfl⟩
  | cons line lines induction =>
      obtain ⟨loaded, later, none_loaded⟩ :=
        induction fun line' member => passed line' (List.mem_cons_of_mem line member)
      refine ⟨none :: loaded, ?_, none_loaded⟩
      rw [List.mapM_cons, passed line List.mem_cons_self, later]
      rfl

/-- The lines of one entry alone are loaded as its run, if it is one. -/
theorem mapM_loadLine_entry (entry : HistoryEntry) :
    ∃ loaded, (Lines.splitlines (entry.line ++ ['\n'])).mapM loadLine = .ok loaded ∧
      loaded.reduceOption = entry.run?.toList := by
  cases entry with
  | saved run =>
      refine ⟨[some run], ?_, rfl⟩
      rw [HistoryEntry.line, Lines.splitlines_line isLineBoundary_of_mem_line, List.mapM_cons,
        loadLine_line]
      rfl
  | blank text =>
      refine mapM_loadLine_none fun piece member => loadLine_blank (List.all_eq_true.mpr ?_)
      intro c inside
      rcases List.mem_append.mp (Lines.mem_of_mem_splitlines member inside) with shown | last
      · exact List.all_eq_true.mp text.blank c shown
      · rw [List.mem_singleton.mp last]
        rfl
  | foreign record =>
      refine ⟨[none], ?_, rfl⟩
      rw [HistoryEntry.line, Lines.splitlines_line record.whole, List.mapM_cons,
        loadLine_foreign]
      rfl

/-- A file of whole lines from which these runs are loaded. -/
def Keeps (file : Option (List Char)) (runs : List BenchmarkRun) : Prop :=
  ∃ loaded, Lines.Holds loadLine file loaded ∧ loaded.reduceOption = runs

theorem keeps_fresh : Keeps none [] := ⟨[], Lines.holds_none, rfl⟩

theorem Keeps.loaded {file : Option (List Char)} {runs : List BenchmarkRun}
    (kept : Keeps file runs) : loadBenchmarkRuns file = .ok runs := by
  obtain ⟨loaded, holds, rfl⟩ := kept
  cases file with
  | none =>
      obtain rfl : [] = loaded := Except.ok.inj holds.lines_read
      rfl
  | some text =>
      have read : (Lines.splitlines text).mapM loadLine = .ok loaded := holds.lines_read
      rw [loadBenchmarkRuns, Lines.splitlines_universalNewlines, read]
      rfl

theorem Keeps.append {file : Option (List Char)} {runs : List BenchmarkRun}
    (kept : Keeps file runs) (entry : HistoryEntry) :
    Keeps (entry.append file) (runs ++ entry.run?.toList) := by
  obtain ⟨before, holds, rfl⟩ := kept
  obtain ⟨after, line, run_eq⟩ := mapM_loadLine_entry entry
  refine ⟨before ++ after, ?_, by rw [List.reduceOption_append, run_eq]⟩
  rw [entry.append_eq]
  exact holds.append line

/-- Any entries are appended, and their runs are kept. -/
theorem Keeps.appendAll {file : Option (List Char)} {runs : List BenchmarkRun}
    (kept : Keeps file runs) (entries : List HistoryEntry) :
    Keeps (entries.foldl HistoryEntry.append file)
      (runs ++ entries.filterMap HistoryEntry.run?) := by
  induction entries generalizing file runs with
  | nil => rwa [List.foldl_nil, List.filterMap_nil, List.append_nil]
  | cons entry entries induction =>
      have later := induction (kept.append entry)
      rw [List.append_assoc] at later
      rw [List.foldl_cons]
      cases run : entry.run? <;> simpa [run] using later

/-- The saved runs are loaded in their order. -/
theorem loadBenchmarkRuns_history (entries : List HistoryEntry) :
    loadBenchmarkRuns (entries.foldl HistoryEntry.append none) =
      .ok (entries.filterMap HistoryEntry.run?) :=
  (keeps_fresh.appendAll entries).loaded

/-- A line of blanks and the summary of a compaction are passed over. -/
example :
    let entries : List HistoryEntry := [.blank (.ofLength 3),
      .foreign (.ofMembers [Json.entry "run_id" (.ofText "0a1b2c3d4e5f")] rfl)]
    (loadBenchmarkRuns (entries.foldl HistoryEntry.append none)).toOption.map List.length =
      some 0 := by
  decide +kernel

end Lakehouse
