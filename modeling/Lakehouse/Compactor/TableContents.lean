import Mathlib.Data.List.Perm.Basic
import Lakehouse.Compactor.DeltaCompactor
import Lakehouse.Compactor.ObjectKeys
import Lakehouse.Foundation.Sql

/-!
# What compaction does to the rows of a table

Spark and Delta acting on the rows of a table, each stored with the file which holds it.  The
predicate of `_replace_where_clause` is read as SQL and evaluated in three-valued logic, so that a
row with a null partition column is neither read nor replaced.
-/

namespace Lakehouse

open Foundation

/-- A row: its partition columns, which may be null, and the others. -/
structure Row (D δ : Type) where
  eventDate : Option D
  eventHour : Option Int
  data : δ
  deriving DecidableEq

/-- A row in a file, which is named by the commit that wrote it and its number there. -/
structure StoredRow (D δ : Type) where
  row : Row D δ
  file : Nat × Nat
  deriving DecidableEq

/-- The rows of a table, and the number of its commits. -/
structure TableContents (D δ : Type) where
  rows : List (StoredRow D δ)
  version : Nat
  deriving DecidableEq

/-- What Spark does with rows.  `castDate` casts a text to the type of the date column. -/
structure Spark (D δ : Type) where
  castDate : String → Option D
  repartition : Int → List (List (Row D δ)) → List (List (Row D δ))
  repartition_perm : ∀ count parts, (repartition count parts).flatten.Perm parts.flatten
  sortRows : List String → List (Row D δ) → List (Row D δ)
  sortRows_perm : ∀ columns rows, (sortRows columns rows).Perm rows

/-- The files an `OPTIMIZE` picks, and the regrouping of their rows. -/
structure Regrouping (D δ : Type) where
  picks : Nat × Nat → Bool
  regroup : List (Row D δ) → List (List (Row D δ))
  regroup_perm : ∀ rows, (regroup rows).flatten.Perm rows

namespace Row

variable {D δ : Type}

/-- `event_hour = hour` -/
def hourEquals (hour : Int) (row : Row D δ) : Option Bool :=
  row.eventHour.map fun value => value = hour

theorem hourEquals_eq_true {hour : Int} {row : Row D δ} :
    row.hourEquals hour = some true ↔ row.eventHour = some hour := by
  simp [hourEquals]

variable [DecidableEq D]

/-- `event_date = 'text'`: null where the column is null, or where the cast fails. -/
def dateEquals (castDate : String → Option D) (text : String) (row : Row D δ) : Option Bool := do
  let date ← row.eventDate
  let wanted ← castDate text
  return date = wanted

theorem dateEquals_eq_true {castDate : String → Option D} {text : String} {row : Row D δ} :
    row.dateEquals castDate text = some true ↔
      ∃ date, row.eventDate = some date ∧ castDate text = some date := by
  cases filed : row.eventDate with
  | none => simp [dateEquals, filed]
  | some date =>
      cases cast : castDate text with
      | none => simp [dateEquals, filed, cast]
      | some wanted => simp [dateEquals, filed, cast, eq_comm]

/-- The three-valued truth of an equation, where Spark can compare its two sides. -/
def comparison (castDate : String → Option D) (equation : Sql.Equation) :
    Option (Row D δ → Option Bool) :=
  match equation.value with
  | .text text => if equation.column = "event_date" then some (dateEquals castDate text) else none
  | .number hour => if equation.column = "event_hour" then some (hourEquals hour) else none

/-- The three-valued truth of a predicate, if its text can be read. -/
def condition (castDate : String → Option D) (text : String) : Option (Row D δ → Option Bool) := do
  let equations ← Sql.readPredicate text
  let comparisons ← equations.mapM (comparison castDate)
  return fun row => Sql.conjunction (comparisons.map (· row))

/-- The date and the hour of the row are those of the partition. -/
def InPartition (castDate : String → Option D) (stats : PartitionStats) (row : Row D δ) : Prop :=
  (∃ date, row.eventDate = some date ∧ castDate stats.eventDate = some date) ∧
    row.eventHour = some stats.eventHour

instance (castDate : String → Option D) (stats : PartitionStats) (row : Row D δ) :
    Decidable (row.InPartition castDate stats) :=
  decidable_of_iff
    (row.eventDate.isSome ∧ castDate stats.eventDate = row.eventDate ∧
      row.eventHour = some stats.eventHour) <| by
    unfold InPartition
    cases row.eventDate with
    | none => simp
    | some date => simp

end Row

/-! ## Reading the predicate -/

/-- The tokens of an hour. -/
def hourTokens (hour : Int) : List Sql.Token :=
  if hour < 0 then [.symbol '-', .number (Nat.toDigits 10 hour.natAbs)]
  else [.number (Nat.toDigits 10 hour.natAbs)]

private theorem lexes_hour (hour : Int) : Sql.Lexes (toString hour).toList (hourTokens hour) := by
  have digits : Sql.Lexes (Nat.toDigits 10 hour.natAbs)
      [.number (Nat.toDigits 10 hour.natAbs)] := by
    have lexes : Sql.Lexes (Nat.toDigits 10 hour.natAbs ++ [])
        [.number (Nat.toDigits 10 hour.natAbs)] := Sql.lexes_number Nat.toDigits_ne_nil
      (fun c member => Nat.isDigit_of_mem_toDigits (b := 10) (n := hour.natAbs) (by decide)
        (by decide) member) (by simp [Sql.Stops]) Sql.lexes_nil
    rwa [List.append_nil] at lexes
  rw [toList_toString_int, hourTokens]
  split
  · exact Sql.lexes_symbol (by decide) digits
  · exact digits

theorem toList_replaceWhereClause (stats : PartitionStats) :
    (replaceWhereClause stats).toList =
      'e' :: ("vent_date".toList ++ ' ' :: '=' :: ' ' :: '\'' :: (stats.eventDate.toList ++ '\'' ::
        ' ' :: 'A' :: ("ND".toList ++ ' ' :: 'e' :: ("vent_hour".toList ++ ' ' :: '=' :: ' ' ::
          (toString stats.eventHour).toList)))) := by
  have opening : "event_date = '".toList =
      'e' :: ("vent_date".toList ++ [' ', '=', ' ', '\'']) := by
    decide +kernel
  have middle : "' AND event_hour = ".toList = '\'' :: ' ' :: 'A' :: ("ND".toList ++ ' ' :: 'e' ::
      ("vent_hour".toList ++ [' ', '=', ' '])) := by
    decide +kernel
  show ("event_date = '" ++ stats.eventDate ++ "' AND event_hour = " ++
    toString stats.eventHour).toList = _
  simp only [String.toList_append, opening, middle, List.cons_append, List.append_assoc,
    List.nil_append]

/-- The tokens of the predicate. -/
def clauseTokens (stats : PartitionStats) : List Sql.Token :=
  .word ('e' :: "vent_date".toList) :: .symbol '=' :: .text stats.eventDate.toList ::
    .word ('A' :: "ND".toList) :: .word ('e' :: "vent_hour".toList) :: .symbol '=' ::
      hourTokens stats.eventHour

theorem stops_space (rest : List Char) : Sql.Stops Sql.isWordChar (' ' :: rest) := by
  intro c first
  obtain rfl : ' ' = c := Option.some.inj first
  decide

private theorem lexes_replaceWhereClause {stats : PartitionStats}
    (verbatim : Sql.Verbatim stats.eventDate.toList) :
    Sql.Lexes (replaceWhereClause stats).toList (clauseTokens stats) := by
  have equals : ∀ {rest read}, Sql.Lexes rest read →
      Sql.Lexes (' ' :: '=' :: ' ' :: rest) (.symbol '=' :: read) := fun later =>
    Sql.lexes_space (Sql.lexes_symbol (by decide) (Sql.lexes_space later))
  rw [toList_replaceWhereClause, clauseTokens]
  refine Sql.lexes_word (by decide) (by decide +kernel) (stops_space _) ?_
  refine equals (Sql.lexes_string verbatim (Sql.lexes_space ?_))
  refine Sql.lexes_word (by decide) (by decide +kernel) (stops_space _) ?_
  refine Sql.lexes_space ?_
  refine Sql.lexes_word (by decide) (by decide +kernel) (stops_space _) ?_
  exact equals (lexes_hour stats.eventHour)

private theorem literal_hourTokens (hour : Int) :
    Sql.literal (hourTokens hour) = some (.number hour, []) := by
  have digits : Nat.ofDigitChars 10 (Nat.toDigits 10 hour.natAbs) 0 = hour.natAbs :=
    Nat.ofDigitChars_ten_toDigits
  rw [hourTokens]
  split
  · rename_i negative
    rw [Sql.literal, digits]
    have value : -(hour.natAbs : Int) = hour := by omega
    rw [value]
  · rename_i natural
    rw [Sql.literal, digits]
    have value : (hour.natAbs : Int) = hour := by omega
    rw [value]

/-- With a date which stands verbatim in a literal, the clause says what it is meant to say. -/
theorem readPredicate_replaceWhereClause {stats : PartitionStats}
    (verbatim : Sql.Verbatim stats.eventDate.toList) :
    Sql.readPredicate (replaceWhereClause stats) =
      some [⟨"event_date", .text stats.eventDate⟩, ⟨"event_hour", .number stats.eventHour⟩] := by
  have joint : ('A' :: "ND".toList).map Char.toUpper = "AND".toList := by decide +kernel
  have date : String.ofList ('e' :: "vent_date".toList) = "event_date" := by decide +kernel
  have hour : String.ofList ('e' :: "vent_hour".toList) = "event_hour" := by decide +kernel
  rw [Sql.readPredicate_of_lexes (lexes_replaceWhereClause verbatim), clauseTokens]
  simp only [List.length_cons, Sql.equations, Sql.literal_text, joint, if_true, literal_hourTokens,
    Option.map_some, date, hour, String.ofList_toList]

variable {D δ : Type} [DecidableEq D]

/-- The clause is true of the rows of the partition and of no others. -/
theorem condition_replaceWhereClause (castDate : String → Option D) {stats : PartitionStats}
    (verbatim : Sql.Verbatim stats.eventDate.toList) :
    ∃ condition : Row D δ → Option Bool,
      Row.condition castDate (replaceWhereClause stats) = some condition ∧
        ∀ row, condition row = some true ↔ row.InPartition castDate stats := by
  have comparisons : [(⟨"event_date", .text stats.eventDate⟩ : Sql.Equation),
      ⟨"event_hour", .number stats.eventHour⟩].mapM (Row.comparison castDate) =
      some [Row.dateEquals (δ := δ) castDate stats.eventDate, Row.hourEquals stats.eventHour] := by
    simp [Row.comparison]
  refine ⟨fun row => Sql.conjunction
    [row.dateEquals castDate stats.eventDate, row.hourEquals stats.eventHour], ?_, fun row => ?_⟩
  · rw [Row.condition, readPredicate_replaceWhereClause verbatim, Option.bind_eq_bind,
      Option.bind_some, comparisons]
    rfl
  · simp only [Sql.conjunction_eq_true, List.forall_mem_cons, List.not_mem_nil, false_imp_iff,
      implies_true, and_true, Row.dateEquals_eq_true, Row.hourEquals_eq_true, Row.InPartition]

/-! ## Commits -/

/-- The rows of new files, which the commit numbers. -/
def storeFiles (version : Nat) (files : List (List (Row D δ))) : List (StoredRow D δ) :=
  files.zipIdx.flatMap fun file => file.1.map fun row => ⟨row, version, file.2⟩

omit [DecidableEq D] in
@[simp]
theorem map_row_storeFiles (version : Nat) (files : List (List (Row D δ))) :
    (storeFiles version files).map StoredRow.row = files.flatten := by
  have stored : (files.zipIdx.map Prod.fst).flatten = files.flatten := by rw [List.zipIdx_map_fst]
  rw [← stored, storeFiles, List.map_flatMap, List.flatMap_def]
  simp only [List.map_map, Function.comp_def, List.map_id']

namespace TableContents

/-- Remove rows and add files, in one commit. -/
def replace (contents : TableContents D δ) (removed : StoredRow D δ → Bool)
    (files : List (List (Row D δ))) : TableContents D δ where
  rows := contents.rows.filter (!removed ·) ++ storeFiles contents.version files
  version := contents.version + 1

/-- The rows are those of before, and the rows outside the partition stay in their files. -/
structure Unchanged (castDate : String → Option D) (stats : PartitionStats)
    (before after : TableContents D δ) : Prop where
  rows : (after.rows.map StoredRow.row).Perm (before.rows.map StoredRow.row)
  outside : after.rows.filter (fun stored => ¬stored.row.InPartition castDate stats) =
    before.rows.filter fun stored => ¬stored.row.InPartition castDate stats

variable {castDate : String → Option D} {stats : PartitionStats}
  {before middle after contents : TableContents D δ}

theorem Unchanged.refl : Unchanged castDate stats contents contents :=
  ⟨.refl _, rfl⟩

theorem Unchanged.trans (first : Unchanged castDate stats before middle)
    (second : Unchanged castDate stats middle after) : Unchanged castDate stats before after :=
  ⟨second.rows.trans first.rows, second.outside.trans first.outside⟩

omit [DecidableEq D] in
open scoped List in
/-- A commit which writes the rows it removes keeps them. -/
theorem perm_replace {removed : StoredRow D δ → Bool} {files : List (List (Row D δ))}
    (same : files.flatten.Perm ((contents.rows.filter removed).map StoredRow.row)) :
    ((contents.replace removed files).rows.map StoredRow.row).Perm
      (contents.rows.map StoredRow.row) := by
  rw [replace, List.map_append, map_row_storeFiles]
  calc (contents.rows.filter (!removed ·)).map StoredRow.row ++ files.flatten
    _ ~ (contents.rows.filter (!removed ·)).map StoredRow.row ++
        (contents.rows.filter removed).map StoredRow.row := same.append_left _
    _ ~ (contents.rows.filter removed).map StoredRow.row ++
        (contents.rows.filter (!removed ·)).map StoredRow.row := List.perm_append_comm
    _ = (contents.rows.filter removed ++ contents.rows.filter (!removed ·)).map
        StoredRow.row := List.map_append.symm
    _ ~ contents.rows.map StoredRow.row :=
        (List.filter_append_perm removed contents.rows).map _

/-- A commit which writes the rows it removes, all from the partition, changes nothing. -/
theorem unchanged_replace {removed : StoredRow D δ → Bool} {files : List (List (Row D δ))}
    (inside : ∀ stored ∈ contents.rows, removed stored = true →
      stored.row.InPartition castDate stats)
    (same : files.flatten.Perm ((contents.rows.filter removed).map StoredRow.row)) :
    Unchanged castDate stats contents (contents.replace removed files) := by
  have written : ∀ stored ∈ storeFiles contents.version files,
      stored.row.InPartition castDate stats := by
    intro stored member
    have row : stored.row ∈ files.flatten := by
      rw [← map_row_storeFiles contents.version files]
      exact List.mem_map_of_mem member
    obtain ⟨source, selected, same_row⟩ := List.mem_map.mp (same.mem_iff.mp row)
    rw [← same_row]
    exact inside source (List.mem_filter.mp selected).1 (List.mem_filter.mp selected).2
  refine ⟨perm_replace same, ?_⟩
  have dropped : (storeFiles contents.version files).filter
      (fun stored => ¬stored.row.InPartition castDate stats) = [] :=
    List.filter_eq_nil_iff.mpr fun stored member => by simpa using written stored member
  rw [replace, List.filter_append, dropped, List.append_nil, List.filter_filter]
  apply List.filter_congr
  intro stored member
  cases removes : removed stored with
  | false => simp
  | true => simpa using inside stored member removes

end TableContents

/-! ## Spark over one table -/

/-- What is left open about the calls, which are numbered. -/
structure SparkChoices (D δ : Type) where
  /-- An exception before the call takes effect. -/
  failsBefore : Nat → Option PyException
  /-- An exception after the call has taken effect. -/
  failsAfter : Nat → Option PyException
  /-- What an `OPTIMIZE` regroups, if anything. -/
  regrouping : Nat → Option (Regrouping D δ)
  fileCount : Nat → Int × Int
  perfCounter : Nat → Int
  /-- The exception for a text or a path which cannot be read. -/
  analysisError : PyException

/-- The table, and the number of calls made so far. -/
structure SparkWorld (D δ : Type) where
  contents : TableContents D δ
  calls : Nat

/-- The parts of a frame over the table, if Spark can evaluate it. -/
def DataFrame.parts (spark : Spark D δ) (tablePath : String) (rows : List (Row D δ)) :
    DataFrame → Option (List (List (Row D δ)))
  | .load path => if path = tablePath then some [rows] else none
  | .filter frame text => do
      let parts ← frame.parts spark tablePath rows
      let condition ← Row.condition spark.castDate text
      return parts.map (List.filter fun row => condition row = some true)
  | .repartition frame count =>
      (frame.parts spark tablePath rows).map (spark.repartition count)
  | .sortWithinPartitions frame columns =>
      (frame.parts spark tablePath rows).map (List.map (spark.sortRows columns))

namespace SparkCall

variable (spark : Spark D δ) (choices : SparkChoices D δ) (tablePath : String)

/-- The table once the call has taken effect, if Spark can read the call. -/
def effect (world : SparkWorld D δ) : SparkCall → Option (TableContents D δ)
  | .sql statement =>
      if statement.tablePath = tablePath then do
        let condition ← Row.condition spark.castDate statement.predicate
        return match choices.regrouping world.calls with
        | none => world.contents
        | some regrouping =>
            let picked := fun stored : StoredRow D δ =>
              decide (condition stored.row = some true) && regrouping.picks stored.file
            world.contents.replace picked
              (regrouping.regroup ((world.contents.rows.filter picked).map StoredRow.row))
      else none
  | .save frame replaceWhere path =>
      if path = tablePath then do
        let condition ← Row.condition spark.castDate replaceWhere
        let parts ← frame.parts spark tablePath (world.contents.rows.map StoredRow.row)
        return world.contents.replace (fun stored => condition stored.row = some true) parts
      else none
  | .analyse frame | .isEmpty frame =>
      (frame.parts spark tablePath (world.contents.rows.map StoredRow.row)).map
        fun _ => world.contents
  | .countPartitionFiles _ | .perfCounter => some world.contents

/-- The reply to a call which returns or raises. -/
def answer (world : SparkWorld D δ) (outcome : Except PyException Unit) :
    (request : SparkCall) → SparkReply request
  | .sql _ => outcome
  | .analyse _ => outcome
  | .save _ _ _ => outcome
  | .isEmpty frame => outcome.map fun _ =>
      (frame.parts spark tablePath (world.contents.rows.map StoredRow.row)).all (·.flatten.isEmpty)
  | .countPartitionFiles _ => outcome.map fun _ => choices.fileCount world.calls
  | .perfCounter => choices.perfCounter world.calls

/-- Whether the call returns or raises, and the table afterwards. -/
def outcome (world : SparkWorld D δ) (request : SparkCall) :
    Except PyException Unit × TableContents D δ :=
  match choices.failsBefore world.calls, request.effect spark choices tablePath world with
  | some error, _ => (.error error, world.contents)
  | none, none => (.error choices.analysisError, world.contents)
  | none, some contents =>
      match choices.failsAfter world.calls with
      | some error => (.error error, contents)
      | none => (.ok (), contents)

/-- Spark answers a call. -/
def serve (request : SparkCall) (world : SparkWorld D δ) :
    SparkReply request × SparkWorld D δ :=
  let outcome := request.outcome spark choices tablePath world
  (request.answer spark choices tablePath world outcome.1, ⟨outcome.2, world.calls + 1⟩)

/-- The calls which `compact_partition` can make. -/
def Permitted (config : CompactionConfig) (stats : PartitionStats) : SparkCall → Prop
  | .sql statement => statement.predicate = replaceWhereClause stats
  | .save frame replaceWhere _ =>
      ∃ count, frame = clusteredFrame config stats count ∧ replaceWhere = replaceWhereClause stats
  | _ => True

end SparkCall

/-! ### The calls of `compact_partition` -/

section Calls

variable {config : CompactionConfig} {stats : PartitionStats}

/-- A call which does not write is permitted. -/
theorem permitted_of_read (request : SparkCall) (reads : ¬request.IsWrite) :
    request.Permitted config stats := by
  cases request with
  | sql statement => exact absurd trivial reads
  | save frame replaceWhere path => exact absurd trivial reads
  | _ => trivial

private theorem everyCall_optimize :
    (compactWithDeltaOptimize config stats).EveryCall (SparkCall.Permitted config stats) := by
  refine Program.everyCall_bind ((Program.everyCall_perform _).mpr trivial) fun started => ?_
  refine Program.everyCall_bind (everyCall_invoke rfl) fun _ => ?_
  exact everyCall_measureAfter permitted_of_read started .deltaOptimize

private theorem everyCall_overwrite :
    (compactWithZorderInspiredClustering config stats).EveryCall
      (SparkCall.Permitted config stats) :=
  everyCall_clustering permitted_of_read fun count _ => ⟨count, rfl, rfl⟩

private theorem everyCall_rewritePartition :
    (rewritePartition config stats).EveryCall (SparkCall.Permitted config stats) := by
  rw [rewritePartition]
  split
  · refine Program.everyCall_bind (Program.everyCall_attempt everyCall_optimize) fun result => ?_
    cases result with
    | ok result => trivial
    | error _ => exact everyCall_overwrite
  · exact everyCall_overwrite

theorem everyCall_compactPartition :
    (compactPartition config stats).EveryCall (SparkCall.Permitted config stats) := by
  refine Program.everyCall_bind (Program.everyCall_ofExcept _) fun _ => ?_
  refine Program.everyCall_bind (Program.everyCall_ofExcept _) fun _ => ?_
  refine Program.everyCall_bind (Program.everyCall_attempt everyCall_rewritePartition)
    fun result => ?_
  cases result with
  | ok result => trivial
  | error exc =>
      dsimp only
      split
      · trivial
      · trivial

end Calls

/-! ### What the calls do to the table -/

section Effects

variable {spark : Spark D δ} {choices : SparkChoices D δ} {config : CompactionConfig}
  {stats : PartitionStats} {tablePath : String} {world : SparkWorld D δ}
  {condition : Row D δ → Option Bool}

open scoped List in
/-- The clustered frame has the rows of the partition. -/
theorem flatten_parts_clusteredFrame {rows : List (Row D δ)} {count : Int}
    {parts : List (List (Row D δ))}
    (read : Row.condition spark.castDate (replaceWhereClause stats) = some condition)
    (evaluated : (clusteredFrame config stats count).parts spark tablePath rows = some parts) :
    parts.flatten ~ rows.filter fun row => condition row = some true := by
  simp only [clusteredFrame, partitionFrame, DataFrame.parts, read] at evaluated
  split at evaluated
  · obtain rfl := Option.some.inj evaluated
    calc _ = (spark.repartition count [rows.filter fun row => condition row = some true]).flatMap
          (spark.sortRows clusterColumns) := List.flatMap_def.symm
      _ ~ (spark.repartition count [rows.filter fun row => condition row = some true]).flatMap id :=
          List.Perm.flatMap_left _ fun part _ => spark.sortRows_perm clusterColumns part
      _ = _ := List.flatMap_id
      _ ~ [rows.filter fun row => condition row = some true].flatten := spark.repartition_perm _ _
      _ = _ := List.flatten_singleton
  · simp at evaluated

/-- A permitted call which takes effect leaves the table, or writes rows again which satisfy the
clause of the partition. -/
theorem effect_cases {request : SparkCall} {contents : TableContents D δ}
    (permitted : request.Permitted config stats)
    (takes_effect : request.effect spark choices tablePath world = some contents) :
    contents = world.contents ∨
      ∃ (condition : Row D δ → Option Bool) (removed : StoredRow D δ → Bool)
          (files : List (List (Row D δ))),
        Row.condition spark.castDate (replaceWhereClause stats) = some condition ∧
          (∀ stored, removed stored = true → condition stored.row = some true) ∧
          files.flatten.Perm ((world.contents.rows.filter removed).map StoredRow.row) ∧
          contents = world.contents.replace removed files := by
  cases request with
  | sql statement =>
      have predicate : statement.predicate = replaceWhereClause stats := permitted
      rw [SparkCall.effect, predicate] at takes_effect
      split at takes_effect
      · obtain ⟨condition, read, regrouped⟩ := Option.bind_eq_some_iff.mp takes_effect
        cases chosen : choices.regrouping world.calls with
        | none =>
            simp only [chosen, Option.pure_def, Option.some.injEq] at regrouped
            exact .inl regrouped.symm
        | some regrouping =>
            simp only [chosen, Option.pure_def, Option.some.injEq] at regrouped
            refine .inr ⟨condition, _, _, read, fun stored picked => ?_,
              regrouping.regroup_perm _, regrouped.symm⟩
            simp only [Bool.and_eq_true, decide_eq_true_eq] at picked
            exact picked.1
      · cases takes_effect
  | save frame replaceWhere path =>
      obtain ⟨count, rfl, rfl⟩ := permitted
      rw [SparkCall.effect] at takes_effect
      split at takes_effect
      · obtain ⟨condition, read, saved⟩ := Option.bind_eq_some_iff.mp takes_effect
        obtain ⟨parts, evaluated, replaced⟩ := Option.bind_eq_some_iff.mp saved
        refine .inr ⟨condition, _, parts, read, fun stored => of_decide_eq_true, ?_,
          (Option.some.inj replaced).symm⟩
        have same := flatten_parts_clusteredFrame read evaluated
        rwa [List.filter_map] at same
      · cases takes_effect
  | analyse frame =>
      obtain ⟨_, _, rfl⟩ := Option.map_eq_some_iff.mp takes_effect
      exact .inl rfl
  | isEmpty frame =>
      obtain ⟨_, _, rfl⟩ := Option.map_eq_some_iff.mp takes_effect
      exact .inl rfl
  | countPartitionFiles stats => exact .inl (Option.some.inj takes_effect).symm
  | perfCounter => exact .inl (Option.some.inj takes_effect).symm

variable (spark choices tablePath world) in
/-- A call leaves the table as it is, or as its effect is. -/
theorem contents_serve (request : SparkCall) :
    (request.serve spark choices tablePath world).2.contents = world.contents ∨
      request.effect spark choices tablePath world =
        some (request.serve spark choices tablePath world).2.contents := by
  rw [SparkCall.serve, SparkCall.outcome]
  cases choices.failsBefore world.calls with
  | some error => exact .inl rfl
  | none =>
      cases request.effect spark choices tablePath world with
      | none => exact .inl rfl
      | some contents => cases choices.failsAfter world.calls <;> exact .inr rfl

/-- A permitted call changes nothing, also when it raises. -/
theorem unchanged_serve {request : SparkCall}
    (read : Row.condition spark.castDate (replaceWhereClause stats) = some condition)
    (inside : ∀ row, condition row = some true ↔ row.InPartition spark.castDate stats)
    (permitted : request.Permitted config stats) :
    TableContents.Unchanged spark.castDate stats world.contents
      (request.serve spark choices tablePath world).2.contents := by
  rcases contents_serve spark choices tablePath world request with left | takes_effect
  · rw [left]
    exact .refl
  · rcases effect_cases permitted takes_effect with
      left | ⟨condition', _, _, read', selected, same, replaced⟩
    · rw [left]
      exact .refl
    · obtain rfl := Option.some.inj (read.symm.trans read')
      rw [replaced]
      exact TableContents.unchanged_replace
        (fun stored _ removes => (inside _).mp (selected stored removes)) same

end Effects

/-- Compaction never changes the data, whether it returns or raises. -/
theorem compactPartition_unchanged (spark : Spark D δ) (choices : SparkChoices D δ)
    (config : CompactionConfig) (stats : PartitionStats) (world : SparkWorld D δ)
    (no_quote : '\'' ∉ stats.eventDate.toList) (no_escape : '\\' ∉ stats.eventDate.toList) :
    TableContents.Unchanged spark.castDate stats world.contents
      ((compactPartition config stats).runWith
        (SparkCall.serve spark choices config.deltaTablePath) world).2.contents := by
  obtain ⟨condition, read, inside⟩ :=
    condition_replaceWhereClause (δ := δ) spark.castDate
      (Sql.verbatim_of_plain no_quote no_escape)
  have preserved : ∀ (request : SparkCall) (later : SparkWorld D δ),
      request.Permitted config stats →
      TableContents.Unchanged spark.castDate stats world.contents later.contents →
        TableContents.Unchanged spark.castDate stats world.contents
          (request.serve spark choices config.deltaTablePath later).2.contents :=
    fun request later permitted same => same.trans (unchanged_serve read inside permitted)
  exact Program.runWith_preserves _ everyCall_compactPartition preserved .refl

/-- Dates kept as texts, and one part for all rows. -/
def textSpark : Spark String String where
  castDate := some
  repartition _ parts := [parts.flatten]
  repartition_perm _ _ := by simp
  sortRows _ rows := rows
  sortRows_perm _ _ := .refl _

/-- `OPTIMIZE` regroups all files and then raises. -/
def lateOptimizeFailure : SparkChoices String String where
  failsBefore _ := none
  failsAfter call := if call = 1 then some (.valueError "lost connection") else none
  regrouping _ := some ⟨fun _ => true, fun rows => [rows], fun _ => by simp⟩
  fileCount _ := (1, 20)
  perfCounter call := call
  analysisError := .valueError "analysis"

/-- Rows inside and outside the partition, some with null partition columns. -/
def nullableTable : TableContents String String where
  rows :=
    [⟨⟨"2024-06-11", (10 : Int), "login"⟩, 0, 0⟩, ⟨⟨"2024-06-11", (10 : Int), "logout"⟩, 0, 1⟩,
      ⟨⟨"2024-06-11", none, "login"⟩, 0, 2⟩, ⟨⟨none, (10 : Int), "search"⟩, 0, 3⟩,
      ⟨⟨"2024-06-11", (11 : Int), "login"⟩, 0, 4⟩]
  version := 1

/-- Two files of ten bytes in the partition of the rows inside. -/
def hourTen : PartitionStats :=
  ⟨"2024-06-11", 10, [⟨"a", 10, 0⟩, ⟨"b", 10, 0⟩]⟩

theorem compactPartition_unchanged_lateOptimizeFailure :
    TableContents.Unchanged some hourTen nullableTable
      ((compactPartition { useDeltaOptimize := true } hourTen).runWith
        (SparkCall.serve textSpark lateOptimizeFailure "s3a://lakehouse/raw/events")
        ⟨nullableTable, 0⟩).2.contents :=
  compactPartition_unchanged textSpark lateOptimizeFailure { useDeltaOptimize := true } hourTen
    ⟨nullableTable, 0⟩ (by decide +kernel) (by decide +kernel)

/-- In that run both `OPTIMIZE` and the fallback commit. -/
example :
    ((compactPartition { useDeltaOptimize := true } hourTen).runWith
      (SparkCall.serve textSpark lateOptimizeFailure "s3a://lakehouse/raw/events")
      ⟨nullableTable, 0⟩).2.contents =
    { rows :=
        [⟨⟨"2024-06-11", none, "login"⟩, 0, 2⟩, ⟨⟨none, (10 : Int), "search"⟩, 0, 3⟩,
          ⟨⟨"2024-06-11", (11 : Int), "login"⟩, 0, 4⟩, ⟨⟨"2024-06-11", (10 : Int), "login"⟩, 2, 0⟩,
          ⟨⟨"2024-06-11", (10 : Int), "logout"⟩, 2, 0⟩]
      version := 3 } := by
  decide +kernel

end Lakehouse
