import Lakehouse.Streaming.BatchRetries
import Lakehouse.Streaming.PayloadVerdicts

/-!
# From the producer to the tables

The messages of a producer are read in micro-batches, and each batch is processed until a call
completes.  Whatever fails on the way, every event arrives in the raw table and nothing else does.
-/

namespace Lakehouse

open Foundation Foundation.Column
open Foundation.Calendar (DateTime)

variable {τ δ : Type}

/-! ## Spark on payloads -/

/-- The text of a message as Kafka keeps it. -/
def encodeUtf8 (text : String) : List UInt8 := text.toUTF8.data.toList

/-- The columns of `EVENT_SCHEMA` which the reason depends on. -/
def checkedColumns : List (String × (Event → Option String)) :=
  [("event_id", Event.eventId), ("user_id", Event.userId), ("account_id", Event.accountId),
    ("event_type", Event.eventType), ("amount", Event.amount),
    ("event_timestamp", Event.eventTimestamp)]

/-- What a text column makes of a member which may be missing: a text is kept, and a float is
written as a text which is read as this float. -/
def ReadsMember (spark : SparkSql τ δ) (column : Option String) : Option Json.Value → Prop
  | none => column = none
  | some .null => column = none
  | some (.text chars) => column = some (String.ofList chars)
  | some (.number (.float value)) =>
      ∃ text, column = some text ∧ spark.castDouble text = some (.ofBinary value)
  | some _ => True

theorem ReadsMember.text {spark : SparkSql τ δ} {column : Option String}
    {member : Option Json.Value} {text : String} (reads : ReadsMember spark column member)
    (found : member = some (Json.Value.ofText text)) : column = some text := by
  rw [found] at reads
  exact reads.trans (congrArg some String.ofList_toList)

/-- What Spark does with the texts of payloads. -/
structure SparkReads (spark : SparkSql τ δ) : Prop where
  castString : ∀ text, spark.castString (encodeUtf8 text) = text
  /-- `from_json` reads the object which `json.dumps` has written into its columns. -/
  fromJson : ∀ members : List (List Char × Json.Value), (members.map Prod.fst).Nodup →
    (∀ member ∈ members, IsScalar member.2) →
    ∃ event, spark.fromJson (String.ofList (Json.Value.object members).write) = some event ∧
      ∀ column ∈ checkedColumns,
        ReadsMember spark (column.2 event) (Dict.get? members column.1.toList)
  /-- Of a text which is no JSON there is no struct, or one without fields. -/
  fromJson_malformed : ∀ event, spark.fromJson malformedJson = some event → event.eventId = none
  toTimestamp : ∀ now : Instant, spark.toTimestamp (utcNowIso now) ≠ none
  castDouble_words : spark.castDouble "not-a-number" = none

/-- The value of a message, as a row of a batch. -/
def Message.kafkaValue (message : Message) : Option (List UInt8) :=
  some (encodeUtf8 message.value)

/-- The row which the job makes of a message. -/
def Message.parsed (spark : SparkSql τ δ) (message : Message) : ParsedRow :=
  parseValue spark message.kafkaValue

section Rows

variable {spark : SparkSql τ δ} {row : ParsedRow} {event : Event}

/-- A struct whose texts are there, with a timestamp and a number which is not below zero, has no
reason to be rejected. -/
theorem accepted_of_columns (present : row.data = some event)
    (texts : ∀ field ∈ [Event.eventId, Event.userId, Event.accountId, Event.eventType],
      ∃ text, field event = some text ∧ text ≠ "")
    (timestamp : ∃ text, event.eventTimestamp = some text ∧ text ≠ "" ∧
      spark.toTimestamp text ≠ none)
    (amount : ∃ text number, event.amount = some text ∧ spark.castDouble text = some number ∧
      number.isNegative = false) : rejectionReasonColumn spark row = none := by
  have missing : ∀ field ∈ [Event.eventId, Event.userId, Event.accountId, Event.eventType],
      ¬Holds (missingText field) row := by
    intro field member
    obtain ⟨text, found, printed⟩ := texts field member
    rw [holds_missingText, dataField_of_data present, found]
    simpa using printed
  obtain ⟨time, time_eq, time_printed, parsed⟩ := timestamp
  obtain ⟨cost, number, cost_eq, cast, positive⟩ := amount
  rw [rejectionReasonColumn, caseWhen_eq_none]
  simp only [List.forall_mem_cons] at missing
  simp only [rejectionCases, List.forall_mem_cons]
  refine ⟨by simp [dataColumn, present], missing.1, missing.2.1, missing.2.2.1, missing.2.2.2.1,
    ?_, ?_, by simp⟩
  · simp [apply, dataField_of_data present, time_eq, time_printed, parsed]
  · simp [apply, dataField_of_data present, cost_eq, cast, positive]

/-- A case whose condition is true is a reason. -/
theorem rejected_of_case {condition : Condition ParsedRow} {reason : RejectionReason}
    (met : Holds condition row) (member : (condition, reason) ∈ rejectionCases spark) :
    rejectionReasonColumn spark row ≠ none := by
  intro accepted
  exact caseWhen_eq_none.mp accepted _ member met

theorem rejected_of_missing_eventId (missing : dataField Event.eventId row = none) :
    rejectionReasonColumn spark row ≠ none :=
  rejected_of_case (holds_missingText.mpr (.inl missing))
    (List.mem_cons_of_mem _ List.mem_cons_self)

theorem rejected_of_null_timestamp (missing : dataField Event.eventTimestamp row = none) :
    rejectionReasonColumn spark row ≠ none := by
  have met : Holds (disj (disj (dataField Event.eventTimestamp).isNull
      ((dataField Event.eventTimestamp).compare (· = "")))
      ((dataField Event.eventTimestamp).apply spark.toTimestamp).isNull) row :=
    holds_disj.mpr (.inl (holds_disj.mpr (.inl (holds_isNull.mpr missing))))
  have member : (_, RejectionReason.nullEventTimestamp) ∈ rejectionCases spark :=
    List.mem_of_getElem? (rfl : (rejectionCases spark)[5]? = _)
  exact rejected_of_case met member

theorem rejected_of_words {text : String} (found : dataField Event.amount row = some text)
    (printed : text ≠ "") (words : spark.castDouble text = none) :
    rejectionReasonColumn spark row ≠ none := by
  have met : Holds (conj (conj (dataField Event.amount).isNotNull
      ((dataField Event.amount).compare (· ≠ "")))
      (disj ((dataField Event.amount).apply spark.castDouble).isNull
        (((dataField Event.amount).apply spark.castDouble).compare Double.isNegative))) row := by
    simp [apply, found, printed, words]
  have member : (_, RejectionReason.invalidAmount) ∈ rejectionCases spark :=
    List.mem_of_getElem? (rfl : (rejectionCases spark)[6]? = _)
  exact rejected_of_case met member

end Rows

section Payloads

variable {spark : SparkSql τ δ} (reads : SparkReads spark)
include reads

/-- The struct which is made of a dictionary. -/
theorem exists_struct {message : Message} {members : List (List Char × Json.Value)}
    (written : message.value = String.ofList (Json.Value.object members).write)
    (distinct : (members.map Prod.fst).Nodup) (scalars : ∀ member ∈ members, IsScalar member.2) :
    ∃ struct, (message.parsed spark).data = some struct ∧
      ∀ column ∈ checkedColumns,
        ReadsMember spark (column.2 struct) (Dict.get? members column.1.toList) := by
  obtain ⟨struct, read, columns⟩ := reads.fromJson members distinct scalars
  refine ⟨struct, ?_, columns⟩
  rw [Message.parsed, Message.kafkaValue, parseValue, Option.bind_some, reads.castString, written,
    read]

/-- The row of an event is accepted, with the id and the amount of the event. -/
theorem accepted_event (event : GeneratedEvent) :
    rejectionReasonColumn spark (event.message.parsed spark) = none ∧
      (rawRow spark (event.message.parsed spark)).eventId = some event.eventId ∧
      (rawRow spark (event.message.parsed spark)).amount =
        some (.ofBinary event.amount.rounded) := by
  have written : event.message.value =
      String.ofList (Json.Value.object event.toDict).write := rfl
  obtain ⟨struct, present, columns⟩ := exists_struct reads written
    (by simp [GeneratedEvent.toDict, Json.entry]) isScalar_of_mem_toDict
  simp only [checkedColumns, List.forall_mem_cons] at columns
  obtain ⟨eventId, userId, accountId, eventType, ⟨cost, cost_eq, cast⟩, timestamp, -⟩ := columns
  have eventId_eq := eventId.text rfl
  have positive := event.amount.isAtLeastZero_rounded
  rw [Double.isAtLeastZero_eq] at positive
  simp only [ne_eq, Bool.and_eq_true, decide_eq_true_eq, Bool.not_eq_true'] at positive
  have printed : ∀ text : String, isBlankText text = false → text ≠ "" := by
    rintro text shown rfl
    simp at shown
  refine ⟨accepted_of_columns present ?_ ?_ ?_, ?_, ?_⟩
  · simp only [List.forall_mem_cons]
    exact ⟨⟨_, eventId_eq, printed _ (isBlankText_eventId event)⟩,
      ⟨_, userId.text rfl, printed _ (isBlankText_userId event)⟩,
      ⟨_, accountId.text rfl, printed _ (isBlankText_accountId event)⟩,
      ⟨_, eventType.text rfl, printed _ (isBlankText_eventType event)⟩, by simp⟩
  · exact ⟨_, timestamp.text rfl, printed _ (isBlankText_utcNowIso event.now),
      reads.toTimestamp event.now⟩
  · exact ⟨cost, _, cost_eq, cast, positive.2⟩
  · simp [rawRow, present, eventId_eq]
  · simp [rawRow, present, cost_eq, cast]

/-- The row of a bad payload is rejected. -/
theorem rejected_bad (bad : BadEvent) :
    rejectionReasonColumn spark (bad.message.parsed spark) ≠ none := by
  cases bad with
  | missingEventId now =>
      obtain ⟨struct, present, columns⟩ := exists_struct reads
        (show (BadEvent.missingEventId now).message.value = _ from rfl)
        (by simp [Json.entry])
        (by simp [Json.entry, Json.Value.ofText, Json.Value.ofFloat, IsScalar])
      have absent : struct.eventId = none := columns _ List.mem_cons_self
      exact rejected_of_missing_eventId ((dataField_of_data present _).trans absent)
  | nullEventTimestamp =>
      obtain ⟨struct, present, columns⟩ := exists_struct reads
        (show BadEvent.nullEventTimestamp.message.value = _ from rfl)
        (by simp [Json.entry])
        (by simp [Json.entry, Json.Value.ofText, Json.Value.ofFloat, IsScalar])
      have absent : struct.eventTimestamp = none :=
        columns ("event_timestamp", Event.eventTimestamp) (by simp [checkedColumns])
      exact rejected_of_null_timestamp ((dataField_of_data present _).trans absent)
  | invalidAmount now =>
      obtain ⟨struct, present, columns⟩ := exists_struct reads
        (show (BadEvent.invalidAmount now).message.value = _ from rfl)
        (by simp [Json.entry]) (by simp [Json.entry, Json.Value.ofText, IsScalar])
      have words : struct.amount = some "not-a-number" :=
        (columns ("amount", Event.amount) (by simp [checkedColumns])).text rfl
      exact rejected_of_words ((dataField_of_data present _).trans words) (by decide)
        reads.castDouble_words
  | malformedJson =>
      have data_eq : (BadEvent.malformedJson.message.parsed spark).data =
          spark.fromJson malformedJson := by
        rw [Message.parsed, Message.kafkaValue, parseValue, Option.bind_some, reads.castString]
        rfl
      apply rejected_of_missing_eventId
      cases read : spark.fromJson malformedJson with
      | none => simp [dataField, dataColumn, apply, data_eq, read]
      | some struct =>
          have absent := reads.fromJson_malformed struct read
          simp [dataField, dataColumn, apply, data_eq, read, absent]

/-- A message is accepted if it has a key, and then its row has the key as the event id. -/
theorem accepted_iff_keyed {sequence : Nat} {message : Message} (sends : Sends sequence message) :
    (rejectionReasonColumn spark (message.parsed spark) = none ↔ message.key ≠ none) ∧
      (message.key ≠ none → (rawRow spark (message.parsed spark)).eventId = message.key) := by
  cases sends with
  | event event numbered =>
      obtain ⟨accepted, eventId, -⟩ := accepted_event reads event
      exact ⟨⟨fun _ => by simp [GeneratedEvent.message], fun _ => accepted⟩, fun _ => eventId⟩
  | bad bad =>
      have rejected := rejected_bad reads bad
      exact ⟨⟨fun accepted => absurd accepted rejected, fun keyed => absurd rfl keyed⟩,
        fun keyed => absurd rfl keyed⟩

end Payloads

/-! ## Queries -/

/-- The batches of a query, each with the attempts which failed before a call completed. -/
inductive Query (spark : SparkSql τ δ) :
    Int → List (Batch × List (Attempt τ)) → Tables τ δ → Tables τ δ → Prop
  | stopped {batchId tables} : Query spark batchId [] tables tables
  | batch {batchId batch failed last later before middle after}
      (retried : Retried spark batch batchId before failed last middle)
      (rest : Query spark (batchId + 1) later middle after) :
      Query spark batchId ((batch, failed) :: later) before after

section Query

variable {spark : SparkSql τ δ} {entries : List (Batch × List (Attempt τ))}

/-- The rows which are appended for a batch. -/
def appendedRows (spark : SparkSql τ δ) (entry : Batch × List (Attempt τ)) :
    List (RawRow τ δ) :=
  entry.2.flatMap (·.rawAppended spark entry.1) ++ validRows spark entry.1

def appendedRecords (spark : SparkSql τ δ) (entry : Batch × List (Attempt τ)) :
    List RejectedRecord :=
  entry.2.flatMap (·.rejectedAppended spark entry.1) ++ rejectedRecords spark entry.1

theorem appends_of_query {batchId : Int} {before after : Tables τ δ}
    (query : Query spark batchId entries before after) :
    Appends (entries.flatMap (appendedRows spark)) (entries.flatMap (appendedRecords spark))
      before after := by
  induction query with
  | stopped => constructor <;> simp
  | batch retried rest ih =>
      rw [List.flatMap_cons, List.flatMap_cons]
      exact (appends_of_retried retried).trans ih

theorem mem_validRows {batch : Batch} {row : RawRow τ δ} :
    row ∈ validRows spark batch ↔
      ∃ value ∈ batch, rejectionReasonColumn spark (parseValue spark value) = none ∧
        rawRow spark (parseValue spark value) = row := by
  simp [validRows, filter, and_assoc]

theorem validRows_append (spark : SparkSql τ δ) (batch later : Batch) :
    validRows spark (batch ++ later) = validRows spark batch ++ validRows spark later := by
  rw [validRows, List.map_append, filter_append, List.map_append]
  rfl

theorem validRows_singleton (spark : SparkSql τ δ) (value : Option (List UInt8)) :
    validRows spark [value] =
      if rejectionReasonColumn spark (parseValue spark value) = none then
        [rawRow spark (parseValue spark value)]
      else [] := by
  split <;> rename_i reason <;> simp [validRows, filter, reason]

theorem rejectedRecords_append (spark : SparkSql τ δ) (batch later : Batch) :
    rejectedRecords spark (batch ++ later) =
      rejectedRecords spark batch ++ rejectedRecords spark later := by
  rw [rejectedRecords, List.map_append, filter_append, List.map_append]
  rfl

/-- What is made of each batch on its own is made of all the values together. -/
theorem flatMap_batches {α β : Type} {rowsOf : Batch → List β} (empty : rowsOf [] = [])
    (append : ∀ batch later, rowsOf (batch ++ later) = rowsOf batch ++ rowsOf later)
    (entries : List (Batch × α)) :
    (entries.flatMap fun entry => rowsOf entry.1) = rowsOf (entries.flatMap Prod.fst) := by
  induction entries with
  | nil => exact empty.symm
  | cons entry entries ih => rw [List.flatMap_cons, List.flatMap_cons, append, ih]

theorem flatMap_validRows (spark : SparkSql τ δ) (entries : List (Batch × List (Attempt τ))) :
    (entries.flatMap fun entry => validRows spark entry.1) =
      validRows spark (entries.flatMap Prod.fst) :=
  flatMap_batches rfl (validRows_append spark) entries

/-- The two sides of a batch have its length together. -/
theorem length_validRows_add (spark : SparkSql τ δ) (batch : Batch) :
    (validRows spark batch).length + (rejectedRecords spark batch).length = batch.length := by
  rw [validRows, rejectedRecords, List.length_map, List.length_map, length_filter_isNull_add,
    List.length_map]

/-- Failed attempts add no rows but those of the batch. -/
theorem mem_appendedRows {entry : Batch × List (Attempt τ)} {row : RawRow τ δ} :
    row ∈ appendedRows spark entry ↔ row ∈ validRows spark entry.1 := by
  rw [appendedRows, List.mem_append]
  constructor
  · rintro (failed | valid)
    · obtain ⟨attempt, -, appended⟩ := List.mem_flatMap.mp failed
      unfold Attempt.rawAppended at appended
      split at appended
      · exact appended
      · cases appended
    · exact valid
  · exact .inr

/-- Each row in the table is that of a value, and each accepted value has one. -/
theorem mem_flatMap_appendedRows {row : RawRow τ δ} :
    row ∈ entries.flatMap (appendedRows spark) ↔
      row ∈ validRows spark (entries.flatMap Prod.fst) := by
  rw [← flatMap_validRows, List.mem_flatMap, List.mem_flatMap]
  simp only [mem_appendedRows]

/-- No failed attempt has appended anything. -/
def CleanFailures (spark : SparkSql τ δ) (entries : List (Batch × List (Attempt τ))) : Prop :=
  ∀ entry ∈ entries, ∀ attempt ∈ entry.2, attempt.AppendsNothing spark entry.1

theorem flatMap_appendedRows_of_clean (clean : CleanFailures spark entries) :
    entries.flatMap (appendedRows spark) = validRows spark (entries.flatMap Prod.fst) := by
  rw [← flatMap_validRows]
  refine List.flatMap_congr fun entry member => ?_
  have nothing : entry.2.flatMap (·.rawAppended spark entry.1) = [] :=
    List.flatMap_eq_nil_iff.mpr fun attempt failed =>
      ((attempt.appendsNothing_iff spark entry.1).mp (clean entry member attempt failed)).1
  rw [appendedRows, nothing, List.nil_append]

theorem flatMap_appendedRecords_of_clean (clean : CleanFailures spark entries) :
    entries.flatMap (appendedRecords spark) =
      rejectedRecords spark (entries.flatMap Prod.fst) := by
  rw [← flatMap_batches rfl (rejectedRecords_append spark) entries]
  refine List.flatMap_congr fun entry member => ?_
  have nothing : entry.2.flatMap (·.rejectedAppended spark entry.1) = [] :=
    List.flatMap_eq_nil_iff.mpr fun attempt failed =>
      ((attempt.appendsNothing_iff spark entry.1).mp (clean entry member attempt failed)).2
  rw [appendedRecords, nothing, List.nil_append]

end Query

/-! ## Delivery -/

section Delivery

variable {spark : SparkSql τ δ} (reads : SparkReads spark)

include reads in
/-- The ids of the valid rows are the keys of the messages. -/
theorem eventIds_validRows {messages : List Message}
    (sends : ∀ message ∈ messages, ∃ sequence, Sends sequence message) :
    (validRows spark (messages.map Message.kafkaValue)).map RawRow.eventId =
      (messages.filterMap Message.key).map some := by
  induction messages with
  | nil => rfl
  | cons message messages ih =>
      obtain ⟨sequence, sent⟩ := sends message List.mem_cons_self
      have rest := ih fun other member => sends other (List.mem_cons_of_mem _ member)
      obtain ⟨accepted, eventId⟩ := accepted_iff_keyed reads sent
      have cut := validRows_append spark [message.kafkaValue] (messages.map Message.kafkaValue)
      rw [List.map_cons, ← List.singleton_append, cut, List.map_append, rest, validRows_singleton]
      cases keyed : message.key with
      | none =>
          have rejected : ¬rejectionReasonColumn spark (parseValue spark message.kafkaValue) =
              none := fun valid => accepted.mp valid keyed
          rw [if_neg rejected, List.filterMap_cons_none keyed]
          rfl
      | some key =>
          have valid : rejectionReasonColumn spark (parseValue spark message.kafkaValue) =
              none := accepted.mpr (by simp [keyed])
          have id_eq : (rawRow spark (parseValue spark message.kafkaValue)).eventId = some key :=
            (eventId (by simp [keyed])).trans keyed
          rw [if_pos valid, List.filterMap_cons_some keyed, List.map_singleton, id_eq]
          rfl

include reads in
/-- The record which is quarantined of a message without a key holds its text, and a reason. -/
theorem rejectedRecord_parsed {message : Message} {sequence : Nat} (sends : Sends sequence message)
    (keyless : message.key = none) :
    (rejectedRecord spark (message.parsed spark)).jsonValue = some message.value ∧
      (rejectedRecord spark (message.parsed spark)).rejectionReason ≠ none := by
  refine ⟨congrArg some (reads.castString message.value), fun accepted => ?_⟩
  exact (accepted_iff_keyed reads sends).1.mp accepted keyless

include reads in
/-- The rejected records are those of the messages without a key. -/
theorem rejectedRecords_messages {messages : List Message}
    (sends : ∀ message ∈ messages, ∃ sequence, Sends sequence message) :
    rejectedRecords spark (messages.map Message.kafkaValue) =
      (messages.filter fun message => message.key = none).map fun message =>
        rejectedRecord spark (message.parsed spark) := by
  rw [rejectedRecords, filter, List.map_map, List.filter_map, List.map_map]
  congr 1
  refine List.filter_congr fun message member => ?_
  obtain ⟨sequence, sent⟩ := sends message member
  have accepted := (accepted_iff_keyed reads sent).1
  rw [Message.parsed] at accepted
  simp only [Function.comp_apply, decide_eq_decide, holds_isNotNull,
    ← Option.ne_none_iff_exists']
  rw [Ne, accepted, not_not]

/-- The rows are those of events which were sent, and each event has one. -/
structure Delivers (messages : List Message) (rows : List (RawRow τ δ)) : Prop where
  arrives : ∀ event : GeneratedEvent, event.message ∈ messages →
    ∃ row ∈ rows, row.eventId = some event.eventId ∧
      row.amount = some (.ofBinary event.amount.rounded)
  sound : ∀ row ∈ rows, row.Sound ∧
    ∃ event : GeneratedEvent, event.message ∈ messages ∧ row.eventId = some event.eventId ∧
      row.amount = some (.ofBinary event.amount.rounded)

theorem Delivers.of_mem_iff {messages : List Message} {rows rows' : List (RawRow τ δ)}
    (delivers : Delivers messages rows) (same : ∀ row, row ∈ rows' ↔ row ∈ rows) :
    Delivers messages rows' where
  arrives event sent := by
    obtain ⟨row, member, told⟩ := delivers.arrives event sent
    exact ⟨row, (same row).mpr member, told⟩
  sound row member := delivers.sound row ((same row).mp member)

section Delivered

variable {messages : List Message} {entries : List (Batch × List (Attempt τ))}
  (delivered : (entries.flatMap Prod.fst).Perm (messages.map Message.kafkaValue))

theorem IsStream.sends (stream : IsStream messages) :
    ∀ message ∈ messages, ∃ sequence, Sends sequence message := by
  intro message member
  obtain ⟨number, found⟩ := List.mem_iff_getElem?.mp member
  exact ⟨_, stream number message found⟩

include reads delivered

theorem delivers_appendedRows (stream : IsStream messages) :
    Delivers messages (entries.flatMap (appendedRows spark)) where
  arrives event sent := by
    obtain ⟨accepted, eventId, amount⟩ := accepted_event reads event
    refine ⟨_, mem_flatMap_appendedRows.mpr (mem_validRows.mpr ⟨event.message.kafkaValue, ?_,
      accepted, rfl⟩), eventId, amount⟩
    exact delivered.mem_iff.mpr (List.mem_map_of_mem sent)
  sound row member := by
    obtain ⟨value, read, accepted, rfl⟩ := mem_validRows.mp (mem_flatMap_appendedRows.mp member)
    refine ⟨sound_rawRow accepted, ?_⟩
    obtain ⟨message, sent, rfl⟩ := List.mem_map.mp (delivered.mem_iff.mp read)
    obtain ⟨sequence, kind⟩ := stream.sends message sent
    cases kind with
    | event event numbered =>
        obtain ⟨-, eventId, amount⟩ := accepted_event reads event
        exact ⟨event, sent, eventId, amount⟩
    | bad bad => exact absurd accepted (rejected_bad reads bad)

/-- If no failed call has appended anything, the rows have the keys of the events as their ids. -/
theorem eventIds_appendedRows (stream : IsStream messages) (clean : CleanFailures spark entries) :
    ((entries.flatMap (appendedRows spark)).map RawRow.eventId).Perm
      ((messages.filterMap Message.key).map some) := by
  rw [flatMap_appendedRows_of_clean clean, ← eventIds_validRows reads stream.sends]
  exact ((delivered.map _).filter _ |>.map _).map _

end Delivered

theorem keys_map_some_nodup {messages : List Message} (stream : IsStream messages) :
    ((messages.filterMap Message.key).map some).Nodup :=
  (keys_nodup stream).map (Option.some_injective _)

include reads in
/-- A query which reads the messages of a producer has appended a row for every event, with its
id and its amount, and no row for anything else; each row is sound.  If no failed call has appended
anything, every event has exactly one row, and what is quarantined are the records of the messages
without a key, each once, with their texts. -/
theorem pipeline_delivers {messages : List Message} (stream : IsStream messages) {batchId : Int}
    {entries : List (Batch × List (Attempt τ))} {before after : Tables τ δ}
    (query : Query spark batchId entries before after)
    (delivered : (entries.flatMap Prod.fst).Perm (messages.map Message.kafkaValue)) :
    ∃ rows records, Appends rows records before after ∧
      (∀ event : GeneratedEvent, event.message ∈ messages →
        ∃ row ∈ rows, row.eventId = some event.eventId ∧
          row.amount = some (.ofBinary event.amount.rounded)) ∧
      (∀ row ∈ rows, row.Sound ∧
        ∃ event : GeneratedEvent, event.message ∈ messages ∧ row.eventId = some event.eventId ∧
          row.amount = some (.ofBinary event.amount.rounded)) ∧
      (CleanFailures spark entries →
        (rows.map RawRow.eventId).Perm ((messages.filterMap Message.key).map some) ∧
          (rows.map RawRow.eventId).Nodup ∧
          records.Perm ((messages.filter fun message => message.key = none).map fun message =>
            rejectedRecord spark (message.parsed spark)) ∧
          (∀ message ∈ messages, message.key = none →
            (rejectedRecord spark (message.parsed spark)).jsonValue = some message.value ∧
              (rejectedRecord spark (message.parsed spark)).rejectionReason ≠ none) ∧
          rows.length + records.length = messages.length) := by
  obtain ⟨arrives, sound⟩ := delivers_appendedRows reads delivered stream
  refine ⟨_, _, appends_of_query query, arrives, sound, fun clean => ?_⟩
  have same := eventIds_appendedRows reads delivered stream clean
  refine ⟨same, same.nodup_iff.mpr (keys_map_some_nodup stream), ?_, ?_, ?_⟩
  · rw [flatMap_appendedRecords_of_clean clean, ← rejectedRecords_messages reads stream.sends]
    exact ((delivered.map _).filter _).map _
  · intro message member keyless
    obtain ⟨sequence, sends⟩ := stream.sends message member
    exact rejectedRecord_parsed reads sends keyless
  · rw [flatMap_appendedRows_of_clean clean, flatMap_appendedRecords_of_clean clean,
      length_validRows_add, delivered.length_eq, List.length_map]

end Delivery

/-! ### A purchase -/

/-- What a text column holds of a member. -/
def columnText : Option Json.Value → Option String
  | some (.text chars) => some (String.ofList chars)
  | some (.number number) => some (String.ofList (Json.writeNumber number))
  | _ => none

def structOf (members : List (List Char × Json.Value)) : Event where
  eventId := columnText (Dict.get? members "event_id".toList)
  userId := columnText (Dict.get? members "user_id".toList)
  accountId := columnText (Dict.get? members "account_id".toList)
  eventType := columnText (Dict.get? members "event_type".toList)
  amount := columnText (Dict.get? members "amount".toList)
  eventTimestamp := columnText (Dict.get? members "event_timestamp".toList)

def structOfValue : Json.Value → Option Event
  | .object members => some (structOf members)
  | _ => none

def doubleOfWord : Json.Value → Option Double
  | .number (.float value) => some (.ofBinary value)
  | _ => none

/-- Spark as it behaves on payloads. -/
noncomputable def readingSpark : SparkSql Int Int where
  castString := Function.invFun encodeUtf8
  fromJson text := (Json.Value.read text.toList).bind structOfValue
  toTimestamp text := (Iso.readZulu text.toList).map fun read => read.1.instant
  castDouble text := (Json.readWord text.toList).bind doubleOfWord
  toDate time := time / hours 24
  hour time := time / hours 1 % 24

theorem encodeUtf8_injective : Function.Injective encodeUtf8 := by
  intro left right same
  have bytes : left.toUTF8 = right.toUTF8 := by
    ext1
    exact Array.toList_inj.mp same
  exact String.toByteArray_inj.mp bytes

theorem readsMember_columnText (member : Option Json.Value) :
    ReadsMember readingSpark (columnText member) member := by
  rcases member with _ | (_ | _ | (_ | value) | _ | _ | _)
  case some.number.float =>
    refine ⟨_, rfl, ?_⟩
    simp [readingSpark, Json.readWord_writeNumber, doubleOfWord]
  all_goals first | rfl | trivial

theorem readingSpark_toTimestamp (now : Instant) :
    readingSpark.toTimestamp (utcNowIso now) ≠ none := by
  have read := Iso.readZulu_writeZulu (DateTime.ofInstant_spec now.property).1
  have chars : (utcNowIso now).toList = Iso.writeZulu (DateTime.ofInstant now) (some 0) := by
    rw [utcNowIso, String.toList_ofList]
  simp only [readingSpark, chars, read, Option.map_some]
  exact Option.some_ne_none _

theorem readingSpark_malformedJson : readingSpark.fromJson malformedJson = none := by
  have unread : (Json.Value.read malformedJson.toList).isNone = true := by decide +kernel
  simp only [readingSpark, Option.isNone_iff_eq_none.mp unread, Option.bind_none]

theorem readingSpark_words : readingSpark.castDouble "not-a-number" = none := by
  have unread : (Json.readWord "not-a-number".toList).isNone = true := by decide +kernel
  simp only [readingSpark, Option.isNone_iff_eq_none.mp unread, Option.bind_none]

theorem sparkReads_readingSpark : SparkReads readingSpark where
  castString := Function.leftInverse_invFun encodeUtf8_injective
  fromJson members _ _ := by
    refine ⟨structOf members, ?_, ?_⟩
    · simp [readingSpark, Json.Value.read_write, structOfValue]
    · simp only [checkedColumns, List.forall_mem_cons]
      exact ⟨readsMember_columnText _, readsMember_columnText _, readsMember_columnText _,
        readsMember_columnText _, readsMember_columnText _, readsMember_columnText _, by simp⟩
  fromJson_malformed event read := by
    rw [readingSpark_malformedJson] at read
    cases read
  toTimestamp := readingSpark_toTimestamp
  castDouble_words := readingSpark_words

theorem rejected_dearPurchase :
    rejectedRecords readingSpark [dearPurchase.message.kafkaValue] = [] := by
  have accepted := (accepted_event sparkReads_readingSpark dearPurchase).1
  have kept : rejectionReasonColumn readingSpark
      (parseValue readingSpark dearPurchase.message.kafkaValue) = none := accepted
  simp [rejectedRecords, filter, kept]

/-- A purchase is read, and the first write of its batch is lost. -/
theorem query_dearPurchase :
    ∃ after, Query readingSpark 7 [([dearPurchase.message.kafkaValue], [lostStore])] {} after := by
  have accepted := (accepted_event sparkReads_readingSpark dearPurchase).1
  have raises : (lostStore.run readingSpark [dearPurchase.message.kafkaValue] 7 {}).1 =
      .error saveFailed := by
    rw [run_of_accepted accepted]
    rfl
  have completes : (cleanAttempt.run readingSpark [dearPurchase.message.kafkaValue] 7
      (lostStore.after readingSpark [dearPurchase.message.kafkaValue] 7 {})).1 = .ok () := by
    rw [run_of_accepted accepted]
    rfl
  exact ⟨_, .batch (retried_once raises completes) .stopped⟩

/-- After a lost write a purchase is in the raw table once. -/
theorem pipeline_delivers_dearPurchase :
    ∃ after, Query readingSpark 7 [([dearPurchase.message.kafkaValue], [lostStore])] {} after ∧
      ∃ row ∈ after.raw, row.eventId = some dearPurchase.eventId := by
  obtain ⟨after, query⟩ := query_dearPurchase
  have stream : IsStream ([] ++ [dearPurchase.message]) :=
    isStream_nil.append (.event dearPurchase rfl)
  obtain ⟨rows, records, appends, arrives, -⟩ := pipeline_delivers sparkReads_readingSpark stream
    query (.refl _)
  obtain ⟨row, member, eventId, -⟩ := arrives dearPurchase (by simp)
  exact ⟨after, query, row, by rw [appends.raw]; exact List.mem_append_right _ member, eventId⟩

end Lakehouse
