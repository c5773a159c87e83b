import Lakehouse.Compactor.SharedTable
import Lakehouse.Streaming.EventPipeline

/-!
# Events in a table which is compacted

The rows which the streaming job appends for the messages of a producer, in the table which any
number of workers compact meanwhile.  Every event is still there, and nothing else is.
-/

namespace Lakehouse

open Foundation

section Stored

variable {τ δ : Type}

/-- A row of the raw table, under the columns which partition the table. -/
def RawRow.stored (row : RawRow τ δ) : Row δ (RawRow τ δ) where
  eventDate := row.eventDate
  eventHour := row.eventHour
  data := row

/-- The rows of the streaming job in the files of the table. -/
def TableContents.rawRows (contents : TableContents δ (RawRow τ δ)) : List (RawRow τ δ) :=
  contents.rows.map fun stored => stored.row.data

/-- The workers and the job leave the rows of the job. -/
theorem rawRows_guarded {ω : Type} {table : Spark δ (RawRow τ δ)}
    {contents : TableContents δ (RawRow τ δ)} {appended : List (Row δ (RawRow τ δ))}
    {shown : List PartitionStats} {state : TableState ω δ (RawRow τ δ)}
    [DecidableEq δ] (guarded : Guarded table contents appended shown state)
    (empty : contents.rows = []) {written : List (RawRow τ δ)}
    (same : appended.Perm (written.map RawRow.stored)) :
    (state.world.contents.rows.map StoredRow.row).Perm (written.map RawRow.stored) ∧
      state.world.contents.rawRows.Perm written := by
  have rows := guarded.keeps.rows
  rw [empty, List.map_nil, List.nil_append] at rows
  have stored := rows.trans same
  refine ⟨stored, ?_⟩
  have data := stored.map Row.data
  have own : Row.data ∘ @RawRow.stored τ δ = id := rfl
  rwa [List.map_map, List.map_map, own, List.map_id] at data

variable {ω : Type} [DecidableEq ω] [DecidableEq δ]

/-- **Events survive compaction.**  A query has appended rows for the messages of a producer to a
table which was empty, while workers compacted it in any interleaving, and were shown partitions
whose dates stand verbatim in a literal.  Then the table has a row
for every event, with its id and its amount, and each row is a sound row of an event, under the
partition columns of its time; and if no failed call of the query has appended anything, the ids in
the table are those of the events, each once. -/
theorem stored_events {spark : SparkSql τ δ} (reads : SparkReads spark) {messages : List Message}
    (stream : IsStream messages) {batchId : Int} {entries : List (Batch × List (Attempt τ))}
    {after : Tables τ δ} (query : Query spark batchId entries {} after)
    (delivered : (entries.flatMap Prod.fst).Perm (messages.map Message.kafkaValue))
    (table : Spark δ (RawRow τ δ)) (choices : SparkChoices δ (RawRow τ δ)) (tablePath : String)
    (starts : ω → CycleStart) {steps : List (TableStep ω δ (RawRow τ δ))}
    {contents : TableContents δ (RawRow τ δ)} (empty : contents.rows = [])
    (written : (steps.flatMap TableStep.appended).Perm (after.raw.map RawRow.stored))
    (verbatim : ∀ step ∈ steps, ∀ stats ∈ step.shown, Sql.Verbatim stats.eventDate.toList) :
    Delivers messages (tableAfter table choices tablePath starts steps contents).rawRows ∧
      (∀ stored ∈ (tableAfter table choices tablePath starts steps contents).rows,
        stored.row = stored.row.data.stored) ∧
      (CleanFailures spark entries →
        ((tableAfter table choices tablePath starts steps contents).rawRows.map
            RawRow.eventId).Perm ((messages.filterMap Message.key).map some) ∧
          ((tableAfter table choices tablePath starts steps contents).rawRows.map
            RawRow.eventId).Nodup) := by
  have launch : Guarded table contents [] [] (launched starts contents) :=
    guarded_launched starts contents
  obtain ⟨rows, data⟩ := rawRows_guarded (launch.run choices tablePath verbatim) empty written
  have appended := (appends_of_query query).raw
  rw [List.nil_append] at appended
  rw [appended] at rows data
  refine ⟨(delivers_appendedRows reads delivered stream).of_mem_iff fun row => data.mem_iff, ?_,
    fun clean => ?_⟩
  · intro stored member
    obtain ⟨row, -, same⟩ := List.mem_map.mp (rows.mem_iff.mp (List.mem_map_of_mem member))
    rw [← same]
    rfl
  · have ids := (data.map RawRow.eventId).trans
      (eventIds_appendedRows reads delivered stream clean)
    exact ⟨ids, ids.nodup_iff.mpr (keys_map_some_nodup stream)⟩

end Stored

/-- A table whose dates are numbers of days. -/
def dayTable (δ : Type) : Spark Int δ where
  castDate text := (Iso.fromisoformat text.toList).map fun read => read.1.instant / hours 24
  repartition _ parts := [parts.flatten]
  repartition_perm _ _ := by simp
  sortRows _ rows := rows
  sortRows_perm _ _ := .refl _

/-- Every call to Spark succeeds. -/
def quietChoices (δ : Type) : SparkChoices Int δ where
  failsBefore _ := none
  failsAfter _ := none
  regrouping _ := none
  fileCount _ := (1, 10)
  perfCounter call := call
  analysisError := .valueError "analysis"

/-- A purchase whose first write was lost is stored once, and two workers which both have the lock
rewrite its table. -/
theorem stored_events_dearPurchase :
    ∃ (after : Tables Int Int) (steps : List (TableStep Bool Int (RawRow Int Int))),
      Query readingSpark 7 [([dearPurchase.message.kafkaValue], [lostStore])] {} after ∧
        (tableAfter (dayTable _) (quietChoices _) "s3a://lakehouse/raw/events"
            (fun _ => ⟨{ smallFileCountThreshold := 0 }, none, "run", 0⟩) steps ⟨[], 0⟩).rawRows.map
          RawRow.eventId = [some dearPurchase.eventId] := by
  obtain ⟨after, query⟩ := query_dearPurchase
  have stream : IsStream ([] ++ [dearPurchase.message]) :=
    isStream_nil.append (.event dearPurchase rfl)
  have clean : CleanFailures readingSpark
      [([dearPurchase.message.kafkaValue], [lostStore])] := by
    simp only [CleanFailures, List.forall_mem_singleton]
    exact ⟨fun _ => rfl, fun rejected => absurd rejected_dearPurchase rejected⟩
  let both : List (TableStep Bool Int (RawRow Int Int)) :=
    [.call false lockRace, .call true lockRace]
  refine ⟨after, .append [after.raw.map RawRow.stored] :: (List.replicate 15 both).flatten,
    query, ?_⟩
  have written : ((.append [after.raw.map RawRow.stored] ::
      (List.replicate 15 both).flatten : List (TableStep Bool Int _)).flatMap
        TableStep.appended).Perm (after.raw.map RawRow.stored) := by
    simp [both, TableStep.appended]
  have empty : (⟨[], 0⟩ : TableContents Int (RawRow Int Int)).rows = [] := rfl
  have verbatim : ∀ step ∈ (.append [after.raw.map RawRow.stored] ::
      (List.replicate 15 both).flatten : List (TableStep Bool Int _)), ∀ stats ∈ step.shown,
        Sql.Verbatim stats.eventDate.toList := by
    simpa [both, TableStep.shown, Told.shown, lockRace] using verbatim_hourTen
  obtain ⟨-, -, ids⟩ := stored_events sparkReads_readingSpark stream query (.refl _) (dayTable _)
    (quietChoices _) "s3a://lakehouse/raw/events"
    (fun _ : Bool => ⟨{ smallFileCountThreshold := 0 }, none, "run", 0⟩) empty written verbatim
  exact List.perm_singleton.mp (ids clean).1

end Lakehouse
