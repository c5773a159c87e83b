import Mathlib.Data.List.Sort
import Lakehouse.Benchmark.BenchmarkQueries
import Lakehouse.Compactor.FormatBytes
import Lakehouse.Foundation.Dict

/-!
# Benchmark tables

What a benchmark prints, and the report which it writes.  A change is shown with a minus sign
exactly if it is a reduction.
-/

namespace Lakehouse

open Foundation
open Foundation.Binary64 (Value quotient)

/-! ## Changes -/

def showChange (change : Value) : String :=
  (if change.isPositive then "+" else "") ++ String.ofList (change.writeFixed 1) ++ "%"

/-- `_pct_change` of two floats. -/
def pctChange (before after : Value) : String :=
  if before.isZero then "n/a"
  else showChange (((after.sub before).div before).timesNat 100)

/-- `_pct_change` of two integers. -/
def pctChangeInt (before after : Int) : String :=
  if before = 0 then "n/a"
  else showChange ((quotient (before.sign * (after - before)) before.natAbs).timesNat 100)

def seconds4 (runtime : Value) : String := String.ofList (runtime.writeFixed 4)

def megabytes (size : Value) : String := String.ofList (size.writeFixed 2) ++ " MB"

def speedup (before after : Value) : String :=
  if after.isPositive && before.isPositive then
    String.ofList ((before.div after).writeFixed 2) ++ "x"
  else "n/a"

/-! ## Compared queries -/

/-- `{q.query_name: q for q in run.queries}` -/
def BenchmarkRun.queryMap (run : BenchmarkRun) : List (String × QueryBenchmarkResult) :=
  Dict.ofList (run.queries.map fun query => (query.queryName, query))

/-- `sorted(set(before_map) | set(after_map))` -/
def allNames (before after : BenchmarkRun) : List String :=
  ((before.queryMap ++ after.queryMap).map Prod.fst).dedup.insertionSort (· ≤ ·)

/-- The runtime of a query, or 0.0 for a run without it. -/
def BenchmarkRun.runtimeOf (run : BenchmarkRun) (name : String) : Value :=
  ((Dict.get? run.queryMap name).map QueryBenchmarkResult.runtimeSeconds).getD (quotient 0 1)

/-! ## Printed tables -/

def ljust (width : Nat) (text : String) : String := String.ofList (text.toList.rightpad width ' ')

def rjust (width : Nat) (text : String) : String := String.ofList (text.toList.leftpad width ' ')

def rule (c : Char) (width : Nat) : String := String.ofList (List.replicate width c)

/-- `int(run.total_data_size_mb * 1024 * 1024)` -/
def BenchmarkRun.dataSizeBytes (run : BenchmarkRun) : Except PyException Int :=
  let bytes := (run.totalDataSizeMb.timesNat 1024).timesNat 1024
  match bytes.truncate? with
  | some size => .ok size
  | none =>
      if bytes = .nan then .error (.valueError "cannot convert float NaN to integer")
      else
        .error
          { type := .other "OverflowError", message := "cannot convert float infinity to integer" }

def printSingleRunTable (run : BenchmarkRun) : Except PyException (List String) := do
  let size ← run.dataSizeBytes
  return ["\n" ++ rule '=' 78,
    "  BENCHMARK RUN — " ++ run.phase.toUpper ++ " COMPACTION",
    "  benchmark_id: " ++ run.benchmarkId ++ "  |  engine: " ++ run.engine,
    "  Parquet files: " ++ toString run.inputFileCount ++ "  |  Data size: " ++ formatBytes size,
    rule '=' 78,
    ljust 32 "Query" ++ " " ++ rjust 12 "Runtime (s)" ++ " " ++ rjust 8 "Rows",
    rule '-' 32 ++ " " ++ rule '-' 12 ++ " " ++ rule '-' 8] ++
    run.queries.map (fun query =>
      ljust 32 query.queryName ++ " " ++ rjust 12 (seconds4 query.runtimeSeconds) ++ " " ++
        rjust 8 (toString query.rowCount)) ++
    [rule '=' 78 ++ "\n"]

/-- The line with the numbers of files. -/
def filesLine (before after : BenchmarkRun) : String :=
  "  Files:  " ++ rjust 6 (toString before.inputFileCount) ++ "  -->  " ++
    rjust 6 (toString after.inputFileCount) ++ "  (" ++
    pctChangeInt before.inputFileCount after.inputFileCount ++ " files)"

def printComparisonTable (before after : BenchmarkRun) : List String :=
  ["\n" ++ rule '=' 90,
    "  BENCHMARK COMPARISON: BEFORE vs AFTER COMPACTION",
    rule '=' 90,
    filesLine before after,
    "  Size:   " ++ rjust 6 (String.ofList (before.totalDataSizeMb.writeFixed 2)) ++ " MB  -->  " ++
      rjust 6 (String.ofList (after.totalDataSizeMb.writeFixed 2)) ++ " MB",
    rule '=' 90,
    ljust 30 "Query" ++ " " ++ rjust 12 "Before (s)" ++ " " ++ rjust 12 "After (s)" ++ " " ++
      rjust 10 "Change" ++ " " ++ rjust 10 "Speedup",
    rule '-' 30 ++ " " ++ rule '-' 12 ++ " " ++ rule '-' 12 ++ " " ++ rule '-' 10 ++ " " ++
      rule '-' 10] ++
    (allNames before after).map (fun name =>
      let bTime := before.runtimeOf name
      let aTime := after.runtimeOf name
      ljust 30 name ++ " " ++ rjust 12 (seconds4 bTime) ++ " " ++ rjust 12 (seconds4 aTime) ++
        " " ++ rjust 10 (pctChange bTime aTime) ++ " " ++ rjust 10 (speedup bTime aTime)) ++
    [rule '=' 90 ++ "\n"]

/-! ## The report -/

def reportHeader (now : Int) : List String :=
  ["# Lakehouse Compaction Benchmark Report", "", "Generated: " ++ utcNow now, "",
    "## Why Fewer, Larger Files Matter", "",
    "Query engines pay a per-file cost (S3 metadata reads, Parquet footer parsing,",
    "task scheduling). Hundreds of small files shift time from columnar data reads",
    "to orchestration overhead. Compaction reduces file count, enlarges row groups,",
    "and improves compression — so the same SQL completes with less I/O setup.", ""]

/-- The section of one run. -/
def runSection (title : String) (run : BenchmarkRun) : List String :=
  [title, "", "| Metric | Value |", "|--------|-------|",
    "| Benchmark ID | `" ++ run.benchmarkId ++ "` |",
    "| Timestamp | " ++ run.timestamp ++ " |",
    "| Engine | " ++ run.engine ++ " |",
    "| Parquet files | " ++ toString run.inputFileCount ++ " |",
    "| Data size | " ++ megabytes run.totalDataSizeMb ++ " |",
    "", "| Query | Runtime (s) | Rows |", "|-------|-------------|------|"] ++
    run.queries.map (fun query =>
      "| " ++ query.queryName ++ " | " ++ seconds4 query.runtimeSeconds ++ " | " ++
        toString query.rowCount ++ " |") ++
    [""]

def comparisonSection (before after : BenchmarkRun) : List String :=
  ["## Before vs After Comparison", "",
    "- **Parquet files:** " ++ toString before.inputFileCount ++ " → " ++
      toString after.inputFileCount ++ " (" ++
      pctChangeInt before.inputFileCount after.inputFileCount ++ ")",
    "- **Data size:** " ++ megabytes before.totalDataSizeMb ++ " → " ++
      megabytes after.totalDataSizeMb,
    "", "| Query | Before (s) | After (s) | Change | Speedup |",
    "|-------|------------|-----------|--------|---------|"] ++
    (allNames before after).map (fun name =>
      let bTime := before.runtimeOf name
      let aTime := after.runtimeOf name
      "| " ++ name ++ " | " ++ seconds4 bTime ++ " | " ++ seconds4 aTime ++ " | " ++
        pctChange bTime aTime ++ " | " ++ speedup bTime aTime ++ " |") ++
    [""]

/-- The text which `generate_markdown_report` writes. -/
def generateMarkdownReport (before after : Option BenchmarkRun) (now : Int) : String :=
  let sections :=
    match before, after with
    | none, none => ["_No benchmark runs recorded yet._"]
    | some before, none => runSection "## Before Compaction" before
    | none, some after => runSection "## After Compaction" after
    | some before, some after =>
        runSection "## Before Compaction" before ++ runSection "## After Compaction" after ++
          comparisonSection before after
  "\n".intercalate (reportHeader now ++ sections)

/-! ## Signs -/

/-- The value is a number with this sign. -/
def HasSign (negative : Bool) : Value → Prop
  | .finite number => number.negative = negative
  | .infinite sign => sign = negative
  | .nan => False

theorem hasSign_ofUnits (negative : Bool) (dividend divisor : Nat) :
    HasSign negative (Binary64.ofUnits negative dividend divisor) := by
  cases rounded : Binary64.ofUnits negative dividend divisor with
  | finite number => exact (Binary64.units_ofUnits rounded).1
  | infinite sign =>
      unfold Binary64.ofUnits at rounded
      split at rounded
      · cases rounded
      · cases rounded
        rfl
  | nan =>
      unfold Binary64.ofUnits at rounded
      split at rounded <;> cases rounded

theorem HasSign.timesNat {negative : Bool} {value : Value} (sign : HasSign negative value)
    {factor : Nat} (positive : factor ≠ 0) : HasSign negative (value.timesNat factor) := by
  cases value with
  | finite number =>
      obtain rfl : number.negative = negative := sign
      exact hasSign_ofUnits _ _ _
  | infinite other =>
      rw [Value.timesNat, if_neg positive]
      exact sign
  | nan => exact sign

theorem head?_layoutFixed (places digits : Nat) :
    ∃ c, (Binary64.layoutFixed places digits).head? = some c ∧ c ≠ '-' := by
  have nonempty : Nat.toDigits 10 (digits / 10 ^ places) ≠ [] := Nat.toDigits_ne_nil
  obtain ⟨c, head⟩ := Option.ne_none_iff_exists'.mp (mt List.head?_eq_none_iff.mp nonempty)
  refine ⟨c, by rw [Binary64.layoutFixed, List.head?_append, head]; rfl, ?_⟩
  rintro rfl
  exact absurd (Json.isDigit_of_mem_toDigits (List.mem_of_head? head)) (by decide)

/-- A change is shown with a minus sign exactly if it is negative. -/
theorem head?_showChange {negative : Bool} {change : Value} (sign : HasSign negative change) :
    (showChange change).toList.head? = some '-' ↔ negative = true := by
  have text : (showChange change).toList =
      (if change.isPositive then ['+'] else []) ++ change.writeFixed 1 ++ ['%'] := by
    rw [showChange, String.toList_append, String.toList_append, String.toList_ofList]
    split <;> rfl
  rw [text]
  cases change with
  | finite number =>
      obtain rfl : number.negative = negative := sign
      obtain ⟨c, head, other⟩ := head?_layoutFixed 1 (number.inPlaces 1)
      cases negative_eq : number.negative with
      | true => simp [Value.isPositive, Value.writeFixed, Json.writeSign, negative_eq]
      | false =>
          by_cases zero : number.units = 0
          · simp [Value.isPositive, Value.writeFixed, Json.writeSign, negative_eq, zero, head,
              other]
          · simp [Value.isPositive, Value.writeFixed, Json.writeSign, negative_eq, zero]
  | infinite other =>
      obtain rfl : other = negative := sign
      cases other <;> simp [Value.isPositive, Value.writeFixed, Json.writeSign]
  | nan => cases sign

/-- The shown change of a number of files tells whether there are fewer. -/
theorem head?_pctChangeInt {before after : Int} (positive : 0 < before) :
    (pctChangeInt before after).toList.head? = some '-' ↔ after < before := by
  have sign : HasSign (decide (before.sign * (after - before) < 0))
      ((quotient (before.sign * (after - before)) before.natAbs).timesNat 100) :=
    (hasSign_ofUnits _ _ _).timesNat (by decide)
  rw [pctChangeInt, if_neg positive.ne', head?_showChange sign, Int.sign_eq_one_of_pos positive,
    Int.one_mul, decide_eq_true_iff]
  omega

end Lakehouse
