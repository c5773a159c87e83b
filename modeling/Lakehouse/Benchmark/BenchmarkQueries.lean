import Mathlib.Data.List.MinMax
import Mathlib.Data.List.ReduceOption
import Mathlib.Data.String.Basic
import Lakehouse.Foundation.IsoFormat
import Lakehouse.Foundation.JsonValue
import Lakehouse.Foundation.Text
import Lakehouse.Streaming.DataQuality

/-!
# Benchmark runs

The records of `benchmark_queries.py`, the file they are kept in, and the two runs which a benchmark
compares.  The file is its decoded text.  A run is reached through a reference, as a Python list
holds its elements, so that equal runs stay apart.
-/

namespace Lakehouse

open Foundation
open Foundation.Calendar (DateTime)

/-! ## Records -/

structure QueryBenchmarkResult where
  queryName : String
  runtimeSeconds : Binary64.Value
  inputFileCount : Int
  totalDataSizeMb : Binary64.Value
  timestamp : String
  rowCount : Int := 0
  deriving DecidableEq

structure BenchmarkRun where
  benchmarkId : String
  phase : String
  timestamp : String
  engine : String
  inputFileCount : Int
  totalDataSizeMb : Binary64.Value
  tablePath : String
  queries : List QueryBenchmarkResult := []
  deriving DecidableEq

/-- The members of a JSON object. -/
abbrev Members := List (List Char × Json.Value)

def textMember (name value : String) : List Char × Json.Value :=
  (name.toList, .text value.toList)

def intMember (name : String) (value : Int) : List Char × Json.Value :=
  (name.toList, .number (.int value))

def floatMember (name : String) (value : Binary64.Value) : List Char × Json.Value :=
  (name.toList, .number (.float value))

def QueryBenchmarkResult.toDict (result : QueryBenchmarkResult) : Members :=
  [textMember "query_name" result.queryName,
    floatMember "runtime_seconds" result.runtimeSeconds,
    intMember "input_file_count" result.inputFileCount,
    floatMember "total_data_size_mb" result.totalDataSizeMb,
    textMember "timestamp" result.timestamp,
    intMember "row_count" result.rowCount]

def BenchmarkRun.toDict (run : BenchmarkRun) : Members :=
  [textMember "benchmark_id" run.benchmarkId,
    textMember "phase" run.phase,
    textMember "timestamp" run.timestamp,
    textMember "engine" run.engine,
    intMember "input_file_count" run.inputFileCount,
    floatMember "total_data_size_mb" run.totalDataSizeMb,
    textMember "table_path" run.tablePath,
    ("queries".toList, .array (run.queries.map fun result => .object result.toDict)),
    textMember "record_type" "benchmark_run"]

/-- `_utc_now()` at an instant. -/
def utcNow (instant : Int) : String :=
  String.ofList (Iso.writeZulu (DateTime.ofInstant instant) (some 0))

/-! ## Loading and saving -/

/-- What ends the loading of a file. -/
inductive LoadError
  /-- The `JSONDecodeError` of a line. -/
  | decode (line : List Char)
  | raised (exc : PyException)
  /-- A member is not of the type its field is declared with.  The code keeps such a value, and the
  record is no `BenchmarkRun` of the model. -/
  | undeclared (name : String)

def attributeError (message : String) : LoadError :=
  .raised { type := .other "AttributeError", message := message }

def keyError (name : String) : LoadError :=
  .raised { type := .other "KeyError", message := "'" ++ name ++ "'" }

def typeError (message : String) : LoadError :=
  .raised { type := .other "TypeError", message := message }

/-- The name of the Python type of a value. -/
def typeName : Json.Value → String
  | .null => "NoneType"
  | .bool _ => "bool"
  | .number (.int _) => "int"
  | .number (.float _) => "float"
  | .text _ => "str"
  | .array _ => "list"
  | .object _ => "dict"

/-- `data[name]` -/
def member (data : Members) (name : String) : Except LoadError Json.Value :=
  match Json.Value.get? data name.toList with
  | some value => .ok value
  | none => .error (keyError name)

def declaredText (name : String) : Json.Value → Except LoadError String
  | .text chars => .ok (String.ofList chars)
  | _ => .error (.undeclared name)

def declaredInt (name : String) : Json.Value → Except LoadError Int
  | .number (.int value) => .ok value
  | _ => .error (.undeclared name)

def declaredFloat (name : String) : Json.Value → Except LoadError Binary64.Value
  | .number (.float value) => .ok value
  | _ => .error (.undeclared name)

/-- The parameters of `QueryBenchmarkResult` without a default. -/
def requiredParameters : List String :=
  ["query_name", "runtime_seconds", "input_file_count", "total_data_size_mb", "timestamp"]

/-- The names of missing arguments as an error lists them. -/
def listNames : List String → String
  | [] => ""
  | [name] => "'" ++ name ++ "'"
  | [name, last] => "'" ++ name ++ "' and '" ++ last ++ "'"
  | [name, next, last] => "'" ++ name ++ "', '" ++ next ++ "', and '" ++ last ++ "'"
  | name :: names => "'" ++ name ++ "', " ++ listNames names

def missingArguments (names : List String) : LoadError :=
  typeError ("QueryBenchmarkResult.__init__() missing " ++ toString names.length ++
    " required positional argument" ++ (if names.length = 1 then "" else "s") ++ ": " ++
    listNames names)

/-- `QueryBenchmarkResult(**data)` -/
def QueryBenchmarkResult.ofKeywords (data : Members) : Except LoadError QueryBenchmarkResult :=
  let known := (requiredParameters ++ ["row_count"]).map String.toList
  match data.find? fun entry => !known.contains entry.1 with
  | some entry =>
      .error (typeError ("QueryBenchmarkResult.__init__() got an unexpected keyword argument '" ++
        String.ofList entry.1 ++ "'"))
  | none =>
      match requiredParameters.filter fun name => (Json.Value.get? data name.toList).isNone with
      | [] => do
          return {
            queryName := ← member data "query_name" >>= declaredText "query_name"
            runtimeSeconds := ← member data "runtime_seconds" >>= declaredFloat "runtime_seconds"
            inputFileCount := ← member data "input_file_count" >>= declaredInt "input_file_count"
            totalDataSizeMb :=
              ← member data "total_data_size_mb" >>= declaredFloat "total_data_size_mb"
            timestamp := ← member data "timestamp" >>= declaredText "timestamp"
            rowCount :=
              ← ((Json.Value.get? data "row_count".toList).map (declaredInt "row_count")).getD
                (pure 0) }
      | missing => .error (missingArguments missing)

/-- `QueryBenchmarkResult(**q)` of any value; the module is imported under its own name. -/
def queryOfValue : Json.Value → Except LoadError QueryBenchmarkResult
  | .object data => QueryBenchmarkResult.ofKeywords data
  | value => .error (typeError ("src.benchmark.benchmark_queries.QueryBenchmarkResult() " ++
      "argument after ** must be a mapping, not " ++ typeName value))

/-- The elements a loop takes from a value. -/
def elements : Json.Value → Except LoadError (List Json.Value)
  | .array items => .ok items
  | .object data => .ok (data.map fun entry => .text entry.1)
  | .text chars => .ok (chars.map fun c => .text [c])
  | value => .error (typeError ("'" ++ typeName value ++ "' object is not iterable"))

/-- `value == text` -/
def equalsText (text : String) : Json.Value → Bool
  | .text chars => chars = text.toList
  | _ => false

/-- `data.get("record_type") == "benchmark_run"` -/
def isBenchmarkRun (data : Members) : Bool :=
  (Json.Value.get? data "record_type".toList).any (equalsText "benchmark_run")

/-- The record of an object of the record type `benchmark_run`. -/
def BenchmarkRun.ofDict (data : Members) : Except LoadError BenchmarkRun := do
  let items ← elements ((Json.Value.get? data "queries".toList).getD (.array []))
  let queries ← items.mapM queryOfValue
  return {
    benchmarkId := ← member data "benchmark_id" >>= declaredText "benchmark_id"
    phase := ← member data "phase" >>= declaredText "phase"
    timestamp := ← member data "timestamp" >>= declaredText "timestamp"
    engine := ← member data "engine" >>= declaredText "engine"
    inputFileCount := ← member data "input_file_count" >>= declaredInt "input_file_count"
    totalDataSizeMb := ← member data "total_data_size_mb" >>= declaredFloat "total_data_size_mb"
    tablePath := ← member data "table_path" >>= declaredText "table_path"
    queries := queries }

/-- What one line adds to the runs. -/
def loadLine (line : List Char) : Except LoadError (Option BenchmarkRun) :=
  if line.all isPySpace then .ok none
  else
    match Json.Value.read line with
    | none => .error (.decode line)
    | some (.object data) =>
        if isBenchmarkRun data then (BenchmarkRun.ofDict data).map some else .ok none
    | some value =>
        .error (attributeError ("'" ++ typeName value ++ "' object has no attribute 'get'"))

/-- `load_benchmark_runs` of a file which may not exist. -/
def loadBenchmarkRuns : Option (List Char) → Except LoadError (List BenchmarkRun)
  | none => .ok []
  | some text => do
      let loaded ← (Lines.splitlines (Lines.universalNewlines text)).mapM loadLine
      return loaded.reduceOption

/-- The line of a run, without its end. -/
def BenchmarkRun.line (run : BenchmarkRun) : List Char :=
  (Json.Value.object run.toDict).write

/-- `save_benchmark_run`, which appends to the file or creates it. -/
def saveBenchmarkRun (run : BenchmarkRun) (file : Option (List Char)) : Option (List Char) :=
  Lines.appendLine run.line file

/-! ## Phases -/

/-- The choices of `--phase`. -/
inductive Phase
  | before
  | after
  | auto
  deriving DecidableEq, Repr

variable {Ref : Type*}

/-- `max(runs, key=key)`, the first of the runs with the largest key. -/
def maxBy {Key : Type*} [LinearOrder Key] (key : Ref → Key) (runs : List Ref) :
    Except PyException Ref :=
  match runs.argmax key with
  | some best => .ok best
  | none => .error (.valueError "max() arg is an empty sequence")

/-- The runs of a history which carry a label. -/
def inPhase (run : Ref → BenchmarkRun) (label : String) (history : List Ref) : List Ref :=
  history.filter fun ref => (run ref).phase = label

def resolvePhase (run : BenchmarkRun) (phase : Phase) (history : List BenchmarkRun) :
    Except PyException String :=
  match phase with
  | .before => .ok "before"
  | .after => .ok "after"
  | .auto =>
      let beforeRuns := inPhase id "before" history
      if beforeRuns.isEmpty then .ok "before"
      else do
        let baseline ← maxBy (·.inputFileCount) beforeRuns
        if run.inputFileCount < baseline.inputFileCount then return "after"
        else return "before"

/-- The runs to compare, before and after. -/
def findComparisonPair (run : Ref → BenchmarkRun) (history : List Ref) (current : Ref) :
    Except PyException (Option Ref × Option Ref) :=
  let beforeRuns := inPhase run "before" history
  let afterRuns := inPhase run "after" history
  if (run current).phase = "after" then
    if beforeRuns.isEmpty then .ok (none, some current)
    else do
      let baseline ← maxBy (fun ref => (run ref).inputFileCount) beforeRuns
      return (some baseline, some current)
  else if (run current).phase = "before" ∧ !afterRuns.isEmpty then do
    let latestAfter ← maxBy (fun ref => (run ref).timestamp) afterRuns
    let baseline ← maxBy (fun ref => (run ref).inputFileCount) beforeRuns
    return (some baseline, some latestAfter)
  else .ok (none, none)

/-- Label a run against the history and append it, as `main` does. -/
def recordRun (phase : Phase) (history : List BenchmarkRun) (run : BenchmarkRun) :
    Except PyException (List BenchmarkRun) := do
  let label ← resolvePhase run phase history
  return history ++ [{ run with phase := label }]

end Lakehouse
