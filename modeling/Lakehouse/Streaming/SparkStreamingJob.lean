import Lakehouse.Foundation.Column
import Lakehouse.Foundation.Program
import Lakehouse.Streaming.DataQuality

/-!
# The streaming job

`classify_batch` routes the rows of a micro-batch by a chain of conditions over nullable columns,
and `process_batch` appends both sides to their tables.
-/

namespace Lakehouse

open Foundation Foundation.Column

/-- The struct of `EVENT_SCHEMA`. -/
structure Event where
  eventId : Option String := none
  userId : Option String := none
  accountId : Option String := none
  eventType : Option String := none
  amount : Option String := none
  eventTimestamp : Option String := none
  ingestTimestamp : Option String := none
  region : Option String := none
  deviceType : Option String := none
  deriving DecidableEq

/-- The functions of Spark SQL which the job applies to values that are not null; `none` is null.
Timestamps and dates are of the types `τ` and `δ`. -/
structure SparkSql (τ δ : Type) where
  /-- `cast("string")` of a binary value. -/
  castString : List UInt8 → String
  /-- `from_json` with `EVENT_SCHEMA`. -/
  fromJson : String → Option Event
  toTimestamp : String → Option τ
  /-- `cast("double")` of a text. -/
  castDouble : String → Option Double
  /-- `to_date` of a timestamp, which is not null. -/
  toDate : τ → δ
  /-- `hour` of a timestamp, which is not null. -/
  hour : τ → Int

/-- A row of `parsed`, before its reason is computed. -/
structure ParsedRow where
  jsonValue : Option String
  data : Option Event
  deriving DecidableEq

/-- `F.col("data")` -/
def dataColumn : Column ParsedRow Event :=
  ParsedRow.data

/-- A field of the struct: null in a null struct. -/
def dataField (field : Event → Option String) : Column ParsedRow String :=
  dataColumn.apply field

/-- A row of the raw table. -/
structure RawRow (τ δ : Type) where
  eventId : Option String
  userId : Option String
  accountId : Option String
  eventType : Option String
  amount : Option Double
  eventTimestamp : Option τ
  ingestTimestamp : Option τ
  region : Option String
  deviceType : Option String
  eventDate : Option δ
  eventHour : Option Int
  deriving DecidableEq

/-- A row of the quarantine table. -/
structure QuarantineRow (τ δ : Type) where
  jsonValue : Option String
  rejectionReason : Option RejectionReason
  quarantinedAt : τ
  eventId : Option String
  userId : Option String
  eventType : Option String
  quarantineDate : δ
  deriving DecidableEq

variable {τ δ : Type} (spark : SparkSql τ δ)

/-- The condition for a required text: null or empty. -/
def missingText (field : Event → Option String) : Condition ParsedRow :=
  disj (dataField field).isNull ((dataField field).compare (· = ""))

/-- The cases of the `when` chain of `rejection_reason_column`. -/
def rejectionCases : List (Condition ParsedRow × RejectionReason) :=
  [(dataColumn.isNull, .malformedJson),
    (missingText Event.eventId, .missingEventId),
    (missingText Event.userId, .missingUserId),
    (missingText Event.accountId, .missingAccountId),
    (missingText Event.eventType, .missingEventType),
    (disj (disj (dataField Event.eventTimestamp).isNull
        ((dataField Event.eventTimestamp).compare (· = "")))
      ((dataField Event.eventTimestamp).apply spark.toTimestamp).isNull, .nullEventTimestamp),
    (conj (conj (dataField Event.amount).isNotNull ((dataField Event.amount).compare (· ≠ "")))
      (disj ((dataField Event.amount).apply spark.castDouble).isNull
        (((dataField Event.amount).apply spark.castDouble).compare Double.isNegative)),
      .invalidAmount)]

def rejectionReasonColumn : Column ParsedRow RejectionReason :=
  caseWhen (rejectionCases spark)

/-- The row which is made of a Kafka value. -/
def parseValue (value : Option (List UInt8)) : ParsedRow where
  jsonValue := value.map spark.castString
  data := value.bind fun bytes => spark.fromJson (spark.castString bytes)

/-- `data.*` with its casts; the columns of a null struct are null. -/
def rawRow (row : ParsedRow) : RawRow τ δ :=
  let event := row.data.getD {}
  let eventTimestamp := event.eventTimestamp.bind spark.toTimestamp
  { eventId := event.eventId
    userId := event.userId
    accountId := event.accountId
    eventType := event.eventType
    amount := event.amount.bind spark.castDouble
    eventTimestamp := eventTimestamp
    ingestTimestamp := event.ingestTimestamp.bind spark.toTimestamp
    region := event.region
    deviceType := event.deviceType
    eventDate := eventTimestamp.map spark.toDate
    eventHour := eventTimestamp.map spark.hour }

def quarantineRow (quarantinedAt : τ) (row : ParsedRow) : QuarantineRow τ δ where
  jsonValue := row.jsonValue
  rejectionReason := rejectionReasonColumn spark row
  quarantinedAt := quarantinedAt
  eventId := dataField Event.eventId row
  userId := dataField Event.userId row
  eventType := dataField Event.eventType row
  quarantineDate := spark.toDate quarantinedAt

/-- A frame is evaluated by each action on it, at the `current_timestamp` of the action. -/
abbrev Frame (τ α : Type) := τ → List α

/-- The values of a micro-batch. -/
abbrev Batch := List (Option (List UInt8))

def classifyBatch (batch : Batch) : Frame τ (RawRow τ δ) × Frame τ (QuarantineRow τ δ) :=
  let parsed := batch.map (parseValue spark)
  (fun _ => (filter (rejectionReasonColumn spark).isNull parsed).map (rawRow spark),
    fun quarantinedAt =>
      (filter (rejectionReasonColumn spark).isNotNull parsed).map
        (quarantineRow spark quarantinedAt))

/-! ## Processing a batch -/

/-- The calls of `process_batch` to its environment. -/
inductive BatchCall (τ δ : Type)
  /-- The `current_timestamp` of the next action on a frame. -/
  | currentTimestamp
  /-- Append to `DELTA_PATH`. -/
  | appendRaw (rows : List (RawRow τ δ))
  /-- Append to `QUARANTINE_PATH`. -/
  | appendQuarantine (rows : List (QuarantineRow τ δ))
  /-- `datetime.now(UTC)` -/
  | now
  | writeQualityMetrics (metrics : QualityMetrics)

abbrev BatchReply : BatchCall τ δ → Type
  | .currentTimestamp => τ
  | .appendRaw _ => Except PyException Unit
  | .appendQuarantine _ => Except PyException Unit
  | .now => Int
  | .writeQualityMetrics _ => Except PyException Unit

abbrev BatchProgram (τ δ : Type) := Program (BatchCall τ δ) BatchReply PyException

/-- `frame.count()` -/
def countFrame {α : Type} (frame : Frame τ α) : BatchProgram τ δ Int := do
  let timestamp ← Program.perform (.currentTimestamp : BatchCall τ δ)
  return (frame timestamp).length

/-- The write of the valid rows, if there are any. -/
def writeValid (valid : Frame τ (RawRow τ δ)) (validCount : Int) : BatchProgram τ δ Unit :=
  if validCount > 0 then do
    let timestamp ← Program.perform (.currentTimestamp : BatchCall τ δ)
    let reply ← Program.perform (.appendRaw (valid timestamp))
    Program.ofExcept reply
  else
    return ()

/-- The write of the rejected rows, if there are any. -/
def writeQuarantine (quarantine : Frame τ (QuarantineRow τ δ)) (badCount : Int) :
    BatchProgram τ δ Unit :=
  if badCount > 0 then do
    let timestamp ← Program.perform (.currentTimestamp : BatchCall τ δ)
    let reply ← Program.perform (.appendQuarantine (quarantine timestamp))
    Program.ofExcept reply
  else
    return ()

/-- `process_batch` once both sides are counted. -/
def writeBatch (valid : Frame τ (RawRow τ δ)) (quarantine : Frame τ (QuarantineRow τ δ))
    (validCount badCount batchId : Int) : BatchProgram τ δ Unit := do
  writeValid valid validCount
  writeQuarantine quarantine badCount
  let timestamp ← Program.perform (.now : BatchCall τ δ)
  let reply ← Program.perform
    (.writeQualityMetrics (computeQualityMetrics validCount badCount batchId timestamp))
  Program.ofExcept reply

def processBatch (batch : Batch) (batchId : Int) : BatchProgram τ δ Unit :=
  if batch = [] then
    return ()
  else do
    let (valid, quarantine) := classifyBatch spark batch
    let validCount ← countFrame valid
    let badCount ← countFrame quarantine
    writeBatch valid quarantine validCount badCount batchId

end Lakehouse
