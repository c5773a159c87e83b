import Lakehouse.Compactor.TableContents

/-!
# What the rewrite predicate names

`_replace_where_clause` puts the date between quotes as it stands.  The date comes from an object
key, and the pattern of the keys admits every text without a slash.  The clause names the partition
exactly when the date can stand in a literal verbatim; the rows read and the rows overwritten are
then those of the partition.
-/

namespace Lakehouse

open Foundation

/-- The clause is the conjunction of the two equations of the partition, and what is read and
replaced with it are the rows of the partition. -/
structure NamesPartition (stats : PartitionStats) : Prop where
  predicate : Sql.readPredicate (replaceWhereClause stats) =
    some [⟨"event_date", .text stats.eventDate⟩, ⟨"event_hour", .number stats.eventHour⟩]
  rowsRead : ∀ {D δ : Type} [DecidableEq D] (spark : Spark D δ) (config : CompactionConfig)
    (rows : List (Row D δ)),
    (partitionFrame config stats).parts spark config.deltaTablePath rows =
      some [rows.filter fun row => row.InPartition spark.castDate stats]
  rowsReplaced : ∀ {D δ : Type} [DecidableEq D] (spark : Spark D δ) (choices : SparkChoices D δ)
    (config : CompactionConfig) (world : SparkWorld D δ) (frame : DataFrame),
    (SparkCall.save frame (replaceWhereClause stats) config.deltaTablePath).effect spark choices
        config.deltaTablePath world =
      (frame.parts spark config.deltaTablePath (world.contents.rows.map StoredRow.row)).map
        fun parts => world.contents.replace
          (fun stored => stored.row.InPartition spark.castDate stats) parts

/-- A date which stands verbatim in a literal is named. -/
theorem namesPartition_of_verbatim {stats : PartitionStats}
    (verbatim : Sql.Verbatim stats.eventDate.toList) : NamesPartition stats where
  predicate := readPredicate_replaceWhereClause verbatim
  rowsRead := by
    intro D δ _ spark config rows
    obtain ⟨condition, read, named⟩ :=
      condition_replaceWhereClause (δ := δ) spark.castDate verbatim
    have same : (fun row => decide (condition row = some true)) = fun row =>
        decide (row.InPartition spark.castDate stats) :=
      funext fun row => decide_eq_decide.mpr (named row)
    simp only [partitionFrame, DataFrame.parts, read, if_true]
    exact congrArg (fun keeps => some [rows.filter keeps]) same
  rowsReplaced := by
    intro D δ _ spark choices config world frame
    obtain ⟨condition, read, named⟩ :=
      condition_replaceWhereClause (δ := δ) spark.castDate verbatim
    have same : (fun stored : StoredRow D δ => decide (condition stored.row = some true)) =
        fun stored => decide (stored.row.InPartition spark.castDate stats) :=
      funext fun stored => decide_eq_decide.mpr (named stored.row)
    simp only [SparkCall.effect, read, if_true]
    cases frame.parts spark config.deltaTablePath (world.contents.rows.map StoredRow.row) with
    | none => rfl
    | some parts => exact congrArg (fun removed => some (world.contents.replace removed parts)) same

private theorem quote_not_mem_toString (hour : Int) : '\'' ∉ (toString hour).toList := by
  have free := not_mem_toDigits (by decide : '\''.isDigit = false) hour.natAbs
  rw [toList_toString_int]
  split
  · simpa using free
  · exact free

/-- The clause as the date and two texts around it, the second without quotes. -/
private theorem exists_toList_clause (stats : PartitionStats) :
    ∃ rest, '\'' ∉ rest ∧
      (replaceWhereClause stats).toList = 'e' :: ("vent_date".toList ++ ' ' :: '=' :: ' ' :: '\'' ::
        (stats.eventDate.toList ++ '\'' :: rest)) := by
  refine ⟨_, ?_, toList_replaceWhereClause stats⟩
  have joint : '\'' ∉ ' ' :: 'A' :: ("ND".toList ++ [' ', 'e']) := by decide
  have name : '\'' ∉ "vent_hour".toList ++ [' ', '=', ' '] := by decide
  have hour := quote_not_mem_toString stats.eventHour
  generalize (toString stats.eventHour).toList = digits at hour ⊢
  simp only [List.mem_cons, List.mem_append, not_or] at joint name ⊢
  exact ⟨joint.1, joint.2.1, joint.2.2.1, joint.2.2.2.1, joint.2.2.2.2.1, name.1, name.2.1,
    name.2.2.1, name.2.2.2.1, hour⟩

/-- The first literal of the clause is what is read from behind its quote. -/
theorem readString_of_readPredicate {stats : PartitionStats} {column value : String}
    {later : List Sql.Equation}
    (named : Sql.readPredicate (replaceWhereClause stats) =
      some (⟨column, .text value⟩ :: later)) :
    ∃ rest left, '\'' ∉ rest ∧
      Sql.readString (stats.eventDate.toList ++ '\'' :: rest) = some (value.toList, left) := by
  obtain ⟨rest, closed, text⟩ := exists_toList_clause stats
  obtain ⟨fuel, enough⟩ : ∃ fuel, (replaceWhereClause stats).toList.length + 1 = fuel + 5 := by
    refine ⟨(replaceWhereClause stats).toList.length - 4, ?_⟩
    rw [text]
    simp only [List.length_cons, List.length_append]
    omega
  rw [Sql.readPredicate, enough, text, Sql.tokens_word _ (by decide) (by decide +kernel)
    (stops_space _), Sql.tokens_space, Sql.tokens_symbol _ (by decide), Sql.tokens_space,
    Sql.tokens_string] at named
  obtain ⟨_, all, equations⟩ := Option.bind_eq_some_iff.mp named
  obtain ⟨_, behind_name, rfl⟩ := Option.map_eq_some_iff.mp all
  obtain ⟨_, behind_equals, rfl⟩ := Option.map_eq_some_iff.mp behind_name
  obtain ⟨⟨read, left⟩, read_eq, behind_value⟩ := Option.bind_eq_some_iff.mp behind_equals
  obtain ⟨_, -, rfl⟩ := Option.map_eq_some_iff.mp behind_value
  obtain ⟨_, same⟩ := Sql.equations_text equations
  obtain ⟨⟨-, rfl⟩, -⟩ : (column = _ ∧ value = String.ofList read) ∧ later = _ := by
    simpa using same
  exact ⟨rest, left, closed, by rw [read_eq, String.toList_ofList]⟩

/-- The clause names the partition exactly when its date can stand in a literal as it is: it holds
no quote, and no backslash except before a percent sign or an underscore. -/
theorem namesPartition_iff_verbatim (stats : PartitionStats) :
    NamesPartition stats ↔ Sql.Verbatim stats.eventDate.toList := by
  constructor
  · intro names
    obtain ⟨rest, left, closed, read⟩ := readString_of_readPredicate names.predicate
    exact (Sql.verbatim_of_readString closed read).2 rfl
  · exact namesPartition_of_verbatim

/-- A partition whose directory has a backslash in its date. -/
private def escapedDate : PartitionStats where
  eventDate := "2024\\-06-11"
  eventHour := 9
  files := [⟨"raw/events/event_date=2024\\-06-11/event_hour=9/part-0.parquet", 1000, 0⟩]

/-- The clause of that partition names the partition of another date. -/
theorem scanned_not_named :
    ¬∀ (config : CompactionConfig) (pages : List (List S3Object)),
      ∀ stats ∈ scanPartitions config pages, NamesPartition stats := by
  intro named
  have scanned : escapedDate ∈ scanPartitions {}
      [[⟨"raw/events/event_date=2024\\-06-11/event_hour=9/part-0.parquet", 1000, 0⟩]] :=
    mem_scanPartitions.mpr ⟨by decide, by decide +kernel⟩
  have other : Sql.readPredicate (replaceWhereClause escapedDate) =
      some [⟨"event_date", .text "2024-06-11"⟩, ⟨"event_hour", .number 9⟩] := by
    decide +kernel
  have predicate := (named _ _ _ scanned).predicate
  rw [other] at predicate
  exact absurd predicate (by decide)

end Lakehouse
