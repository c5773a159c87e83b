import Mathlib.Data.List.Forall2
import Lakehouse.Streaming.SparkStreamingJob
import Lakehouse.Time

/-!
# Where the rows of a batch go

Each row of a micro-batch is appended to one of the two tables.  The reason column is null exactly
where no case of its chain is true, and what that says about the fields of the row is what the raw
table may rely on.
-/

namespace Lakehouse

open Foundation Foundation.Column

variable {τ δ : Type} {spark : SparkSql τ δ} {row : ParsedRow}

/-! ## The conditions of the chain -/

theorem holds_missingText {field : Event → Option String} :
    Holds (missingText field) row ↔
      dataField field row = none ∨ dataField field row = some "" := by
  simp [missingText]

theorem dataField_of_data {event : Event} (present : row.data = some event)
    (field : Event → Option String) : dataField field row = field event := by
  simp [dataField, dataColumn, apply, present]

/-- A text which is not missing is there and not empty. -/
theorem text_of_not_missing {field : Event → Option String} {event : Event}
    (present : row.data = some event) (met : ¬Holds (missingText field) row) :
    ∃ text, field event = some text ∧ text ≠ "" := by
  rw [holds_missingText, dataField_of_data present, not_or] at met
  obtain ⟨text, found⟩ := Option.ne_none_iff_exists'.mp met.1
  refine ⟨text, found, ?_⟩
  rintro rfl
  exact met.2 found

/-- What the raw table may rely on. -/
structure RawRow.Sound (row : RawRow τ δ) : Prop where
  eventId : ∃ text, row.eventId = some text ∧ text ≠ ""
  userId : ∃ text, row.userId = some text ∧ text ≠ ""
  accountId : ∃ text, row.accountId = some text ∧ text ≠ ""
  eventType : ∃ text, row.eventType = some text ∧ text ≠ ""
  eventTimestamp : row.eventTimestamp ≠ none
  eventDate : row.eventDate ≠ none
  eventHour : row.eventHour ≠ none

/-- A row without a reason is sound. -/
theorem sound_rawRow (accepted : rejectionReasonColumn spark row = none) :
    (rawRow spark row).Sound := by
  have unmet := caseWhen_eq_none.mp accepted
  simp only [rejectionCases, List.forall_mem_cons] at unmet
  obtain ⟨parsed, eventId, userId, accountId, eventType, timestamp, -⟩ := unmet
  obtain ⟨event, present⟩ : ∃ event, row.data = some event := by
    rw [holds_isNull] at parsed
    exact Option.ne_none_iff_exists'.mp parsed
  obtain ⟨time, time_eq⟩ : ∃ time, event.eventTimestamp.bind spark.toTimestamp = some time := by
    rw [holds_disj, not_or, holds_isNull] at timestamp
    apply Option.ne_none_iff_exists'.mp
    simpa only [apply, dataField_of_data present] using timestamp.2
  constructor
  · simpa [rawRow, present] using text_of_not_missing present eventId
  · simpa [rawRow, present] using text_of_not_missing present userId
  · simpa [rawRow, present] using text_of_not_missing present accountId
  · simpa [rawRow, present] using text_of_not_missing present eventType
  all_goals simp [rawRow, present, time_eq]

/-! ## Routes -/

/-- The reason belongs to the first case of the chain whose condition is true. -/
def FirstReason (spark : SparkSql τ δ) (row : ParsedRow) (reason : RejectionReason) : Prop :=
  ∃ before condition after, rejectionCases spark = before ++ (condition, reason) :: after ∧
    Holds condition row ∧ ∀ case ∈ before, ¬Holds case.1 row

/-- What becomes of a Kafka value: a sound row, or one which carries the first reason. -/
def Routed (spark : SparkSql τ δ) (value : Option (List UInt8)) :
    RawRow τ δ ⊕ QuarantineRow τ δ → Prop
  | .inl valid => valid = rawRow spark (parseValue spark value) ∧ valid.Sound
  | .inr rejected =>
      rejected.jsonValue = value.map spark.castString ∧
        ∃ reason, rejected.rejectionReason = some reason ∧
          FirstReason spark (parseValue spark value) reason

theorem length_classifyBatch (spark : SparkSql τ δ) (batch : Batch) (counted counted' : τ) :
    ((classifyBatch spark batch).1 counted).length +
      ((classifyBatch spark batch).2 counted').length = batch.length := by
  simp only [classifyBatch, List.length_map]
  rw [length_filter_isNull_add, List.length_map]

/-- Every row of a batch is routed to one side, and the sides hold nothing else. -/
theorem routes_classifyBatch (spark : SparkSql τ δ) (batch : Batch) (quarantinedAt : τ) :
    ∃ routes, List.Forall₂ (Routed spark) batch routes ∧
      (classifyBatch spark batch).1 quarantinedAt = routes.filterMap Sum.getLeft? ∧
      (classifyBatch spark batch).2 quarantinedAt = routes.filterMap Sum.getRight? := by
  induction batch with
  | nil => exact ⟨[], .nil, rfl, rfl⟩
  | cons value batch ih =>
      obtain ⟨routes, routed, valid, rejected⟩ := ih
      simp only [classifyBatch] at valid rejected
      cases reason : rejectionReasonColumn spark (parseValue spark value) with
      | none =>
          refine ⟨.inl (rawRow spark (parseValue spark value)) :: routes,
            .cons ⟨rfl, sound_rawRow reason⟩ routed, ?_, ?_⟩
          · simpa [classifyBatch, filter, reason] using valid
          · simpa [classifyBatch, filter, reason, List.filterMap_cons] using rejected
      | some first =>
          refine ⟨.inr (quarantineRow spark quarantinedAt (parseValue spark value)) :: routes,
            .cons ⟨rfl, first, reason, caseWhen_eq_some.mp reason⟩ routed, ?_, ?_⟩
          · simpa [classifyBatch, filter, reason, List.filterMap_cons] using valid
          · simpa [classifyBatch, filter, reason] using rejected

/-! ## The counts -/

/-- The metrics which a call writes count the whole batch. -/
def BatchCall.CountsAll (batch : Batch) : BatchCall τ δ → Prop
  | .writeQualityMetrics metrics => metrics.totalRecordCount = batch.length
  | _ => True

theorem countsAll_writeValid (batch : Batch) (valid : Frame τ (RawRow τ δ)) (validCount : Int) :
    (writeValid valid validCount).EveryCall (BatchCall.CountsAll batch) := by
  rw [writeValid]
  split
  · exact ⟨trivial, fun _ => ⟨trivial, fun reply => Program.everyCall_ofExcept reply⟩⟩
  · trivial

theorem countsAll_writeQuarantine (batch : Batch) (quarantine : Frame τ (QuarantineRow τ δ))
    (badCount : Int) :
    (writeQuarantine quarantine badCount).EveryCall (BatchCall.CountsAll batch) := by
  rw [writeQuarantine]
  split
  · exact ⟨trivial, fun _ => ⟨trivial, fun reply => Program.everyCall_ofExcept reply⟩⟩
  · trivial

theorem countsAll_processBatch (spark : SparkSql τ δ) (batch : Batch) (batchId : Int) :
    (processBatch spark batch batchId).EveryCall (BatchCall.CountsAll batch) := by
  rw [processBatch]
  split
  · trivial
  · refine ⟨trivial, fun counted => ⟨trivial, fun counted' => ?_⟩⟩
    have total := length_classifyBatch spark batch counted counted'
    apply Program.everyCall_bind (countsAll_writeValid batch _ _)
    intro _
    apply Program.everyCall_bind (countsAll_writeQuarantine batch _ _)
    intro _
    refine ⟨trivial, fun timestamp => ⟨?_, fun reply => Program.everyCall_ofExcept reply⟩⟩
    simp only [BatchCall.CountsAll, computeQualityMetrics, QualityMetrics.totalRecordCount]
    exact_mod_cast total

/-- The metrics are written, and they count the whole batch. -/
def BatchCall.HasCounted (batch : Batch) :
    (request : BatchCall τ δ) → BatchReply request → Prop
  | .writeQualityMetrics metrics, reply =>
      reply = .ok () ∧ metrics.totalRecordCount = batch.length
  | _, _ => False

theorem hasCounted_writeBatch {batch : Batch} (valid : Frame τ (RawRow τ δ))
    (quarantine : Frame τ (QuarantineRow τ δ)) {validCount badCount : Int} (batchId : Int)
    (total : validCount + badCount = batch.length) :
    (writeBatch valid quarantine validCount badCount batchId).ReturnsAfter
      (BatchCall.HasCounted batch) := by
  refine Program.returnsAfter_bind fun _ => Program.returnsAfter_bind fun _ timestamp => .inr ?_
  intro reply
  cases reply with
  | error exc => exact .inr trivial
  | ok done => exact .inl ⟨rfl, total⟩

/-- A call which completes has written the metrics of its batch, unless there are no rows. -/
theorem hasCounted_processBatch (spark : SparkSql τ δ) {batch : Batch} (nonempty : batch ≠ [])
    (batchId : Int) :
    (processBatch spark batch batchId).ReturnsAfter (BatchCall.HasCounted batch) := by
  rw [processBatch, if_neg nonempty]
  refine fun counted => .inr fun counted' => .inr (hasCounted_writeBatch _ _ batchId ?_)
  exact_mod_cast length_classifyBatch spark batch counted counted'

/-- Every row of a batch goes to exactly one of the tables, soundly to the raw one and with its
first reason to the other, and the metrics count them all; a call which completes has written them,
unless there are no rows. -/
theorem routing_exhaustive_exclusive (spark : SparkSql τ δ) (batch : Batch) (batchId : Int) :
    (∀ quarantinedAt, ∃ routes, List.Forall₂ (Routed spark) batch routes ∧
      (classifyBatch spark batch).1 quarantinedAt = routes.filterMap Sum.getLeft? ∧
      (classifyBatch spark batch).2 quarantinedAt = routes.filterMap Sum.getRight?) ∧
    (processBatch spark batch batchId).EveryCall (BatchCall.CountsAll batch) ∧
    (batch ≠ [] →
      (processBatch spark batch batchId).ReturnsAfter (BatchCall.HasCounted batch)) :=
  ⟨routes_classifyBatch spark batch, countsAll_processBatch spark batch batchId,
    fun nonempty => hasCounted_processBatch spark nonempty batchId⟩

/-! ## Amounts -/

/-- The amount is null because its text is absent or empty, or it is a number which is neither
NaN nor negative. -/
def RealAmount (text : Option String) (amount : Option Double) : Prop :=
  amount = none ∧ (text = none ∨ text = some "") ∨
    ∃ number, amount = some number ∧ number ≠ .nan ∧ number.isNegative = false

/-- An accepted amount is absent, empty, or a number which is not below zero. -/
theorem amount_of_accepted (accepted : rejectionReasonColumn spark row = none) :
    dataField Event.amount row = none ∨ dataField Event.amount row = some "" ∨
      ∃ text number, dataField Event.amount row = some text ∧
        spark.castDouble text = some number ∧ number.isNegative = false := by
  have unmet_cases := caseWhen_eq_none.mp accepted
  simp only [rejectionCases, List.forall_mem_cons] at unmet_cases
  obtain ⟨-, -, -, -, -, -, unmet, -⟩ := unmet_cases
  rw [holds_conj, holds_conj, holds_disj, holds_isNotNull, holds_compare, holds_isNull,
    holds_compare] at unmet
  rcases present : dataField Event.amount row with _ | text
  · exact .inl rfl
  by_cases empty : text = ""
  · exact .inr (.inl (by rw [empty]))
  rcases cast : spark.castDouble text with _ | number
  · exact absurd ⟨⟨⟨text, present⟩, text, present, by simpa using empty⟩,
      .inl (by simp [apply, present, cast])⟩ unmet
  · refine .inr (.inr ⟨text, number, rfl, cast, ?_⟩)
    by_contra negative
    exact unmet ⟨⟨⟨text, present⟩, text, present, by simpa using empty⟩,
      .inr ⟨number, by simp [apply, present, cast], by simpa using negative⟩⟩

theorem rawRow_amount (spark : SparkSql τ δ) (row : ParsedRow) :
    (rawRow spark row).amount = (dataField Event.amount row).bind spark.castDouble := by
  cases present : row.data <;> simp [rawRow, dataField, dataColumn, apply, present]

/-- The amount of a row in the raw table is real exactly if its text is not one of NaN. -/
theorem amount_real_iff (spark : SparkSql τ δ) (empty_null : spark.castDouble "" = none)
    {batch : Batch} {value : Option (List UInt8)} (member : value ∈ batch)
    (accepted : rejectionReasonColumn spark (parseValue spark value) = none) (counted : τ) :
    rawRow spark (parseValue spark value) ∈ (classifyBatch spark batch).1 counted ∧
      (RealAmount (dataField Event.amount (parseValue spark value))
          (rawRow spark (parseValue spark value)).amount ↔
        (dataField Event.amount (parseValue spark value)).bind spark.castDouble ≠ some .nan) := by
  constructor
  · apply List.mem_map_of_mem
    simp only [filter, List.mem_filter, List.mem_map, decide_eq_true_eq, holds_isNull]
    exact ⟨⟨value, member, rfl⟩, accepted⟩
  · rw [rawRow_amount]
    rcases amount_of_accepted accepted with absent | empty | ⟨text, number, present, cast, above⟩
    · simp [RealAmount, absent]
    · simp [RealAmount, empty, empty_null]
    · simp [RealAmount, present, cast, above]

/-- Spark as it behaves on one payload, with the numbers and the timestamp which occur below. -/
def sampleSpark (payload : String) (event : Event) : SparkSql Int Int where
  castString bytes := String.ofList (bytes.map fun byte => Char.ofNat byte.toNat)
  fromJson text := if text = payload then some event else none
  toTimestamp text :=
    if replaceZ text = "2024-06-11T10:00:00+00:00" then some (hours 477250) else none
  castDouble text :=
    if text = "NaN" then some .nan
    else if text = "19.99" then some (.finite (1999 / 100))
    else none
  toDate time := time / hours 24
  hour time := time / hours 1 % 24

def purchase (eventId amount : String) : Event where
  eventId := eventId
  userId := "user_001"
  accountId := "acct_001"
  eventType := "purchase"
  amount := amount
  eventTimestamp := "2024-06-11T10:00:00Z"

def purchasePayload (eventId amount : String) : String :=
  "\x7b\"event_id\": \"" ++ eventId ++ "\", \"user_id\": \"user_001\", " ++
    "\"account_id\": \"acct_001\", \"event_type\": \"purchase\", \"amount\": \"" ++ amount ++
    "\", \"event_timestamp\": \"2024-06-11T10:00:00Z\"\x7d"

def purchaseSpark (eventId amount : String) : SparkSql Int Int :=
  sampleSpark (purchasePayload eventId amount) (purchase eventId amount)

/-- The Kafka value of a purchase. -/
def purchaseValue (eventId amount : String) : Option (List UInt8) :=
  some ((purchasePayload eventId amount).toList.map fun c => UInt8.ofNat c.toNat)

/-- A purchase for NaN. -/
def nanSpark : SparkSql Int Int :=
  purchaseSpark "evt-001" "NaN"

def nanValue : Option (List UInt8) :=
  purchaseValue "evt-001" "NaN"

/-- The row whose amount is NaN is the one valid row of its batch. -/
theorem nan_amount_accepted :
    ∃ row, (classifyBatch nanSpark [nanValue]).1 0 = [row] ∧ row.amount = some .nan ∧
      ¬RealAmount (dataField Event.amount (parseValue nanSpark nanValue)) row.amount := by
  refine ⟨rawRow nanSpark
      ⟨some (purchasePayload "evt-001" "NaN"), some (purchase "evt-001" "NaN")⟩,
    by decide +kernel, by decide +kernel, ?_⟩
  rintro (⟨absent, -⟩ | ⟨number, present, not_nan, -⟩)
  · exact absurd absent (by decide +kernel)
  · have nan : some number = some Double.nan := present.symm.trans (by decide +kernel)
    exact not_nan (Option.some.inj nan)

/-- A purchase for 19.99. -/
def soundSpark : SparkSql Int Int :=
  purchaseSpark "evt-001" "19.99"

def soundValue : Option (List UInt8) :=
  purchaseValue "evt-001" "19.99"

theorem soundValue_accepted :
    rejectionReasonColumn soundSpark (parseValue soundSpark soundValue) = none := by
  decide +kernel

theorem amount_real_soundValue :
    RealAmount (dataField Event.amount (parseValue soundSpark soundValue))
      (rawRow soundSpark (parseValue soundSpark soundValue)).amount := by
  have real := amount_real_iff soundSpark (by decide +kernel)
    (List.mem_singleton_self soundValue) soundValue_accepted 0
  exact real.2.mpr (by decide +kernel)

end Lakehouse
