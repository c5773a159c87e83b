import Lakehouse.Streaming.Routing

/-!
# Retried batches

Spark calls `process_batch` again, with the same batch id and the same rows, until one call
completes.  Each of its three writes may raise, before or after its commit; what the attempts have
appended is compared with one copy of the batch.
-/

namespace Lakehouse

open Foundation Foundation.Column

/-- How a write behaves: it commits all or nothing. -/
inductive WriteOutcome
  | succeeds
  /-- The write raises, and may have committed before. -/
  | raises (committed : Bool) (exc : PyException)
  deriving DecidableEq

namespace WriteOutcome

def commits : WriteOutcome → Bool
  | succeeds => true
  | raises committed _ => committed

def reply : WriteOutcome → Except PyException Unit
  | succeeds => .ok ()
  | raises _ exc => .error exc

end WriteOutcome

variable {τ δ : Type}

/-- What the writes append to. -/
structure Tables (τ δ : Type) where
  raw : List (RawRow τ δ) := []
  quarantine : List (QuarantineRow τ δ) := []
  metrics : List QualityMetrics := []
  /-- Number of actions on frames so far. -/
  actions : Nat := 0

/-- How the environment behaves in one call of `process_batch`. -/
structure Attempt (τ : Type) where
  rawWrite : WriteOutcome
  quarantineWrite : WriteOutcome
  metricsWrite : WriteOutcome
  /-- The `current_timestamp` of each action. -/
  currentTimestamp : Nat → τ
  now : Int

namespace Attempt

/-- Answer a call, and append what is committed. -/
def handle (attempt : Attempt τ) : (request : BatchCall τ δ) → Tables τ δ →
    BatchReply request × Tables τ δ
  | .currentTimestamp, tables =>
      (attempt.currentTimestamp tables.actions, { tables with actions := tables.actions + 1 })
  | .appendRaw rows, tables =>
      (attempt.rawWrite.reply,
        { tables with raw := tables.raw ++ if attempt.rawWrite.commits then rows else [] })
  | .appendQuarantine rows, tables =>
      (attempt.quarantineWrite.reply,
        { tables with
          quarantine := tables.quarantine ++ if attempt.quarantineWrite.commits then rows else [] })
  | .now, tables => (attempt.now, tables)
  | .writeQualityMetrics metrics, tables =>
      (attempt.metricsWrite.reply,
        { tables with
          metrics := tables.metrics ++ if attempt.metricsWrite.commits then [metrics] else [] })

/-- One call of `process_batch`. -/
def run (attempt : Attempt τ) (spark : SparkSql τ δ) (batch : Batch) (batchId : Int)
    (tables : Tables τ δ) : Except PyException Unit × Tables τ δ :=
  (processBatch spark batch batchId).runWith attempt.handle tables

end Attempt

/-- Spark calls `process_batch` until a call completes. -/
inductive Retried (spark : SparkSql τ δ) (batch : Batch) (batchId : Int) :
    Tables τ δ → List (Attempt τ) → Attempt τ → Tables τ δ → Prop
  | completes {tables later last} (run : last.run spark batch batchId tables = (.ok (), later)) :
      Retried spark batch batchId tables [] last later
  | fails {tables middle later attempt failed last exc}
      (run : attempt.run spark batch batchId tables = (.error exc, middle))
      (rest : Retried spark batch batchId middle failed last later) :
      Retried spark batch batchId tables (attempt :: failed) last later

/-- The tables after one attempt. -/
def Attempt.after (attempt : Attempt τ) (spark : SparkSql τ δ) (batch : Batch) (batchId : Int)
    (tables : Tables τ δ) : Tables τ δ :=
  (attempt.run spark batch batchId tables).2

/-- One failed attempt and one which completes. -/
theorem retried_once {spark : SparkSql τ δ} {batch : Batch} {batchId : Int} {tables : Tables τ δ}
    {attempt last : Attempt τ} {exc : PyException}
    (raises : (attempt.run spark batch batchId tables).1 = .error exc)
    (completes : (last.run spark batch batchId
      (attempt.after spark batch batchId tables)).1 = .ok ()) :
    Retried spark batch batchId tables [attempt] last
      (last.after spark batch batchId (attempt.after spark batch batchId tables)) :=
  .fails (Prod.ext raises rfl) (.completes (Prod.ext completes rfl))

/-! ## The records of a batch -/

/-- A quarantined record, without the time of its write. -/
structure RejectedRecord where
  jsonValue : Option String
  rejectionReason : Option RejectionReason
  eventId : Option String
  userId : Option String
  eventType : Option String
  deriving DecidableEq

def QuarantineRow.record (row : QuarantineRow τ δ) : RejectedRecord where
  jsonValue := row.jsonValue
  rejectionReason := row.rejectionReason
  eventId := row.eventId
  userId := row.userId
  eventType := row.eventType

/-- The valid rows of a batch. -/
def validRows (spark : SparkSql τ δ) (batch : Batch) : List (RawRow τ δ) :=
  (filter (rejectionReasonColumn spark).isNull (batch.map (parseValue spark))).map (rawRow spark)

/-- What is quarantined of a row. -/
def rejectedRecord (spark : SparkSql τ δ) (row : ParsedRow) : RejectedRecord where
  jsonValue := row.jsonValue
  rejectionReason := rejectionReasonColumn spark row
  eventId := dataField Event.eventId row
  userId := dataField Event.userId row
  eventType := dataField Event.eventType row

/-- The rejected records of a batch. -/
def rejectedRecords (spark : SparkSql τ δ) (batch : Batch) : List RejectedRecord :=
  (filter (rejectionReasonColumn spark).isNotNull (batch.map (parseValue spark))).map
    (rejectedRecord spark)

theorem classifyBatch_valid (spark : SparkSql τ δ) (batch : Batch) (counted : τ) :
    (classifyBatch spark batch).1 counted = validRows spark batch := rfl

theorem record_classifyBatch (spark : SparkSql τ δ) (batch : Batch) (quarantinedAt : τ) :
    ((classifyBatch spark batch).2 quarantinedAt).map QuarantineRow.record =
      rejectedRecords spark batch := by
  simp only [classifyBatch, List.map_map]
  rfl

/-- The tables have gained one copy of the batch. -/
structure AppendedOnce (spark : SparkSql τ δ) (batch : Batch) (before after : Tables τ δ) :
    Prop where
  raw : after.raw.Perm (before.raw ++ validRows spark batch)
  quarantine : (after.quarantine.map QuarantineRow.record).Perm
    (before.quarantine.map QuarantineRow.record ++ rejectedRecords spark batch)

/-- What one step or several have appended. -/
structure Appends (rows : List (RawRow τ δ)) (records : List RejectedRecord)
    (before after : Tables τ δ) : Prop where
  raw : after.raw = before.raw ++ rows
  quarantine : after.quarantine.map QuarantineRow.record =
    before.quarantine.map QuarantineRow.record ++ records

theorem Appends.trans {rows rows' : List (RawRow τ δ)} {records records' : List RejectedRecord}
    {before middle after : Tables τ δ} (first : Appends rows records before middle)
    (last : Appends rows' records' middle after) :
    Appends (rows ++ rows') (records ++ records') before after where
  raw := by rw [last.raw, first.raw, List.append_assoc]
  quarantine := by rw [last.quarantine, first.quarantine, List.append_assoc]

/-! ## One attempt -/

namespace Attempt

variable (attempt : Attempt τ)

/-- What a write of the given rows appends, and whether it raises; no rows are not written. -/
theorem runWith_writeValid (valid : Frame τ (RawRow τ δ)) {rows : List (RawRow τ δ)}
    (constant : ∀ counted, valid counted = rows) (tables : Tables τ δ) :
    ∃ later, (writeValid valid rows.length).runWith attempt.handle tables =
        (if rows = [] then .ok () else attempt.rawWrite.reply, later) ∧
      Appends (if attempt.rawWrite.commits then rows else []) [] tables later := by
  cases rows with
  | nil => exact ⟨tables, by simp [writeValid], by simp, by simp⟩
  | cons row rows =>
      have positive : ((row :: rows).length : Int) > 0 := by
        simp only [List.length_cons]
        omega
      refine ⟨(attempt.handle (.appendRaw (row :: rows))
        { tables with actions := tables.actions + 1 }).2, ?_, rfl, by simp [handle]⟩
      simp only [writeValid, positive, if_true, Program.perform_bind, Program.runWith_call, handle,
        constant, reduceCtorEq, if_false]
      cases attempt.rawWrite <;> rfl

theorem runWith_writeQuarantine (quarantine : Frame τ (QuarantineRow τ δ))
    {records : List RejectedRecord}
    (constant : ∀ counted, (quarantine counted).map QuarantineRow.record = records)
    (tables : Tables τ δ) :
    ∃ later, (writeQuarantine quarantine records.length).runWith attempt.handle tables =
        (if records = [] then .ok () else attempt.quarantineWrite.reply, later) ∧
      Appends [] (if attempt.quarantineWrite.commits then records else []) tables later := by
  cases records with
  | nil => exact ⟨tables, by simp [writeQuarantine], by simp, by simp⟩
  | cons record records =>
      have positive : ((record :: records).length : Int) > 0 := by
        simp only [List.length_cons]
        omega
      refine ⟨(attempt.handle
        (.appendQuarantine (quarantine (attempt.currentTimestamp tables.actions)))
          { tables with actions := tables.actions + 1 }).2, ?_, by simp [handle], ?_⟩
      · simp only [writeQuarantine, positive, if_true, Program.perform_bind, Program.runWith_call,
          handle, reduceCtorEq, if_false]
        cases attempt.quarantineWrite <;> rfl
      · simp only [handle, List.map_append]
        rw [← constant (attempt.currentTimestamp tables.actions)]
        split <;> rfl

variable (spark : SparkSql τ δ) (batch : Batch)

/-- The valid rows which an attempt appends. -/
def rawAppended : List (RawRow τ δ) :=
  if attempt.rawWrite.commits then validRows spark batch else []

/-- The raw write does not stop the attempt. -/
def Quarantines : Prop :=
  validRows spark batch = [] ∨ attempt.rawWrite = .succeeds

instance : Decidable (attempt.Quarantines spark batch) :=
  decidable_of_iff ((validRows spark batch).isEmpty = true ∨ attempt.rawWrite = .succeeds)
    (by rw [List.isEmpty_iff]; rfl)

/-- The rejected records which an attempt appends. -/
def rejectedAppended : List RejectedRecord :=
  if attempt.Quarantines spark batch ∧ attempt.quarantineWrite.commits = true then
    rejectedRecords spark batch
  else
    []

variable {spark batch}

/-- A write which is passed has appended all its rows. -/
theorem appended_of_passed {α : Type} {rows : List α} {write : WriteOutcome}
    (passed : rows = [] ∨ write = .succeeds) : (if write.commits then rows else []) = rows := by
  rcases passed with rfl | rfl
  · simp
  · rfl

theorem reply_of_passed {α : Type} {rows : List α} [Decidable (rows = [])] {write : WriteOutcome}
    (passed : rows = [] ∨ write = .succeeds) :
    (if rows = [] then .ok () else write.reply) = (.ok () : Except PyException Unit) := by
  rcases passed with rfl | rfl
  · simp
  · simp [WriteOutcome.reply]

theorem reply_of_not_passed {α : Type} {rows : List α} [Decidable (rows = [])]
    {write : WriteOutcome} (stopped : ¬(rows = [] ∨ write = .succeeds)) :
    ∃ exc, (if rows = [] then .ok () else write.reply) =
      (.error exc : Except PyException Unit) := by
  rw [not_or] at stopped
  cases write with
  | succeeds => exact absurd rfl stopped.2
  | raises committed exc => exact ⟨exc, by simp [stopped.1, WriteOutcome.reply]⟩

/-- The writes of a batch append what they commit, and all of the batch if they complete. -/
theorem runWith_writeBatch (spark : SparkSql τ δ) (batch : Batch) (batchId : Int)
    (tables : Tables τ δ) :
    ∃ result later,
      (writeBatch (classifyBatch spark batch).1 (classifyBatch spark batch).2
        (validRows spark batch).length (rejectedRecords spark batch).length batchId).runWith
          attempt.handle tables = (result, later) ∧
      Appends (attempt.rawAppended spark batch) (attempt.rejectedAppended spark batch) tables
        later ∧
      (result = .ok () → attempt.rawAppended spark batch = validRows spark batch ∧
        attempt.rejectedAppended spark batch = rejectedRecords spark batch) := by
  obtain ⟨middle, wrote, first⟩ := attempt.runWith_writeValid (classifyBatch spark batch).1
    (classifyBatch_valid spark batch) tables
  obtain ⟨later, quarantined, last⟩ := attempt.runWith_writeQuarantine
    (classifyBatch spark batch).2 (record_classifyBatch spark batch) middle
  rw [writeBatch, Program.runWith_bind, wrote]
  by_cases reached : attempt.Quarantines spark batch
  · rw [reply_of_passed reached]
    simp only [Program.runWith_bind, quarantined]
    have both := first.trans last
    rw [List.append_nil, List.nil_append] at both
    have rejected : attempt.rejectedAppended spark batch =
        if attempt.quarantineWrite.commits then rejectedRecords spark batch else [] := by
      simp [rejectedAppended, reached]
    rw [rejected]
    by_cases passed : rejectedRecords spark batch = [] ∨ attempt.quarantineWrite = .succeeds
    · rw [reply_of_passed passed]
      simp only [Program.runWith_ofExcept]
      refine ⟨_, _, rfl, ⟨both.raw, both.quarantine⟩, fun _ => ⟨?_, ?_⟩⟩
      · exact appended_of_passed reached
      · exact appended_of_passed passed
    · obtain ⟨exc, raises⟩ := reply_of_not_passed passed
      rw [raises]
      exact ⟨_, _, rfl, ⟨both.raw, both.quarantine⟩, by simp⟩
  · obtain ⟨exc, raises⟩ := reply_of_not_passed reached
    rw [raises]
    have rejected : attempt.rejectedAppended spark batch = [] := by
      simp [rejectedAppended, reached]
    rw [rejected]
    exact ⟨_, _, rfl, ⟨first.raw, first.quarantine⟩, by simp⟩

/-- An attempt appends what its writes commit, and all of the batch if it completes. -/
theorem run_appends (spark : SparkSql τ δ) (batch : Batch) (batchId : Int) (tables : Tables τ δ) :
    ∃ result later, attempt.run spark batch batchId tables = (result, later) ∧
      Appends (attempt.rawAppended spark batch) (attempt.rejectedAppended spark batch) tables
        later ∧
      (result = .ok () → attempt.rawAppended spark batch = validRows spark batch ∧
        attempt.rejectedAppended spark batch = rejectedRecords spark batch) := by
  by_cases empty : batch = []
  · subst empty
    have none_valid : validRows spark [] = [] := rfl
    have none_rejected : rejectedRecords spark [] = [] := rfl
    refine ⟨.ok (), tables, rfl, ?_, fun _ => ?_⟩
    · constructor <;> simp [rawAppended, rejectedAppended, none_valid, none_rejected]
    · simp [rawAppended, rejectedAppended, none_valid, none_rejected]
  · have count : ∀ counted, ((classifyBatch spark batch).2 counted).length =
        (rejectedRecords spark batch).length := fun counted => by
      rw [← record_classifyBatch spark batch counted, List.length_map]
    -- the two counts are actions of their own
    obtain ⟨result, later, writes, appends, whole⟩ := attempt.runWith_writeBatch spark batch
      batchId { tables with actions := tables.actions + 1 + 1 }
    refine ⟨result, later, ?_, ⟨appends.raw, appends.quarantine⟩, whole⟩
    rw [← writes, ← count (attempt.currentTimestamp (tables.actions + 1)), run, processBatch,
      if_neg empty]
    rfl

/-- An attempt appends nothing: what it commits before it raises holds no rows. -/
structure AppendsNothing (spark : SparkSql τ δ) (batch : Batch) : Prop where
  raw : validRows spark batch ≠ [] → attempt.rawWrite.commits = false
  quarantine : rejectedRecords spark batch ≠ [] → attempt.Quarantines spark batch →
    attempt.quarantineWrite.commits = false

theorem appendsNothing_iff (spark : SparkSql τ δ) (batch : Batch) :
    attempt.AppendsNothing spark batch ↔
      attempt.rawAppended spark batch = [] ∧ attempt.rejectedAppended spark batch = [] := by
  have raw_iff : attempt.rawAppended spark batch = [] ↔
      (validRows spark batch ≠ [] → attempt.rawWrite.commits = false) := by
    cases committed : attempt.rawWrite.commits <;> simp [rawAppended, committed]
  have rejected_iff : attempt.rejectedAppended spark batch = [] ↔
      (rejectedRecords spark batch ≠ [] → attempt.Quarantines spark batch →
        attempt.quarantineWrite.commits = false) := by
    by_cases reached : attempt.Quarantines spark batch <;>
      cases committed : attempt.quarantineWrite.commits <;>
      simp [rejectedAppended, committed, reached]
  rw [raw_iff, rejected_iff]
  exact ⟨fun nothing => ⟨nothing.raw, nothing.quarantine⟩, fun both => ⟨both.1, both.2⟩⟩

end Attempt

/-! ## All attempts -/

/-- The attempts together append what each of them does, and the last one all of the batch. -/
theorem appends_of_retried {spark : SparkSql τ δ} {batch : Batch} {batchId : Int}
    {before after : Tables τ δ} {failed : List (Attempt τ)} {last : Attempt τ}
    (retried : Retried spark batch batchId before failed last after) :
    Appends (failed.flatMap (·.rawAppended spark batch) ++ validRows spark batch)
      (failed.flatMap (·.rejectedAppended spark batch) ++ rejectedRecords spark batch)
      before after := by
  induction retried with
  | @completes tables later last run =>
      obtain ⟨result, later', run', appends, whole⟩ :=
        last.run_appends spark batch batchId tables
      obtain ⟨rfl, rfl⟩ := Prod.mk.inj (run.symm.trans run')
      obtain ⟨raw, rejected⟩ := whole rfl
      simpa [raw, rejected] using appends
  | @fails tables middle later attempt failed last exc run rest ih =>
      obtain ⟨result, middle', run', appends, -⟩ :=
        attempt.run_appends spark batch batchId tables
      obtain ⟨rfl, rfl⟩ := Prod.mk.inj (run.symm.trans run')
      simpa using appends.trans ih

theorem perm_append_iff {α : Type} {old extra rows : List α} :
    (old ++ (extra ++ rows)).Perm (old ++ rows) ↔ extra = [] := by
  constructor
  · intro same
    have lengths := same.length_eq
    simp only [List.length_append] at lengths
    exact List.length_eq_zero_iff.mp (by omega)
  · rintro rfl
    exact .refl _

/-- A retried batch is appended once exactly if none of the failed attempts appends anything. -/
theorem appendedOnce_iff {spark : SparkSql τ δ} {batch : Batch} {batchId : Int}
    {before after : Tables τ δ} {failed : List (Attempt τ)} {last : Attempt τ}
    (retried : Retried spark batch batchId before failed last after) :
    AppendedOnce spark batch before after ↔
      ∀ attempt ∈ failed, attempt.AppendsNothing spark batch := by
  obtain ⟨raw, quarantine⟩ := appends_of_retried retried
  have raw_iff : after.raw.Perm (before.raw ++ validRows spark batch) ↔
      ∀ attempt ∈ failed, attempt.rawAppended spark batch = [] := by
    rw [raw, perm_append_iff, List.flatMap_eq_nil_iff]
  have quarantine_iff : (after.quarantine.map QuarantineRow.record).Perm
      (before.quarantine.map QuarantineRow.record ++ rejectedRecords spark batch) ↔
        ∀ attempt ∈ failed, attempt.rejectedAppended spark batch = [] := by
    rw [quarantine, perm_append_iff, List.flatMap_eq_nil_iff]
  constructor
  · intro once attempt member
    exact (attempt.appendsNothing_iff spark batch).mpr
      ⟨raw_iff.mp once.raw attempt member, quarantine_iff.mp once.quarantine attempt member⟩
  · intro nothing
    exact ⟨raw_iff.mpr fun attempt member =>
        ((attempt.appendsNothing_iff spark batch).mp (nothing attempt member)).1,
      quarantine_iff.mpr fun attempt member =>
        ((attempt.appendsNothing_iff spark batch).mp (nothing attempt member)).2⟩

/-! ### A lost metrics file -/

/-- The rows of a batch of one valid value. -/
theorem classifyBatch_of_accepted {spark : SparkSql τ δ} {value : Option (List UInt8)}
    (accepted : rejectionReasonColumn spark (parseValue spark value) = none) :
    classifyBatch spark [value] =
      (fun _ => [rawRow spark (parseValue spark value)], fun _ => []) := by
  simp [classifyBatch, filter, accepted, Holds, isNull, isNotNull]

/-- An attempt at one valid value makes the raw write, and then that of the metrics. -/
theorem run_of_accepted {spark : SparkSql τ δ} {value : Option (List UInt8)}
    (accepted : rejectionReasonColumn spark (parseValue spark value) = none)
    (attempt : Attempt τ) (batchId : Int) (tables : Tables τ δ) :
    (attempt.run spark [value] batchId tables).1 =
      attempt.rawWrite.reply >>= fun _ => attempt.metricsWrite.reply := by
  simp only [Attempt.run, processBatch, classifyBatch_of_accepted accepted]
  cases wrote : attempt.rawWrite <;>
    simp [countFrame, writeBatch, writeValid, writeQuarantine, Attempt.handle, wrote,
      WriteOutcome.reply]

theorem validRows_soundValue : validRows soundSpark [soundValue] ≠ [] := by
  simp [validRows, filter, soundValue_accepted, Holds, isNull]

/-- Everything succeeds. -/
def cleanAttempt : Attempt Int where
  rawWrite := .succeeds
  quarantineWrite := .succeeds
  metricsWrite := .succeeds
  currentTimestamp _ := hours 477250
  now := hours 477250

def diskFull : PyException where
  type := .other "OSError"
  message := "[Errno 28] No space left on device"

/-- The metrics file cannot be written. -/
def fullDisk : Attempt Int :=
  { cleanAttempt with metricsWrite := .raises false diskFull }

def saveFailed : PyException where
  type := .other "Py4JJavaError"
  message := "An error occurred while calling o123.save."

/-- The raw write raises before its commit. -/
def lostStore : Attempt Int :=
  { cleanAttempt with rawWrite := .raises false saveFailed }

/-- After the retry the purchase is in the raw table twice. -/
theorem fullDisk_appends_twice :
    Retried soundSpark [soundValue] 7 {} [fullDisk] cleanAttempt
        (cleanAttempt.after soundSpark [soundValue] 7
          (fullDisk.after soundSpark [soundValue] 7 {})) ∧
      ¬AppendedOnce soundSpark [soundValue] {}
        (cleanAttempt.after soundSpark [soundValue] 7
          (fullDisk.after soundSpark [soundValue] 7 {})) := by
  have raises : (fullDisk.run soundSpark [soundValue] 7 {}).1 = .error diskFull := by
    rw [run_of_accepted soundValue_accepted]
    rfl
  have completes : (cleanAttempt.run soundSpark [soundValue] 7
      (fullDisk.after soundSpark [soundValue] 7 {})).1 = .ok () := by
    rw [run_of_accepted soundValue_accepted]
    rfl
  have retried := retried_once raises completes
  refine ⟨retried, fun once => ?_⟩
  have raw := once.raw
  rw [(appends_of_retried retried).raw] at raw
  have nothing : [fullDisk].flatMap (·.rawAppended soundSpark [soundValue]) = [] :=
    perm_append_iff.mp raw
  rw [List.flatMap_singleton] at nothing
  exact validRows_soundValue nothing

theorem appendedOnce_lostStore :
    AppendedOnce soundSpark [soundValue] {}
      (cleanAttempt.after soundSpark [soundValue] 7
        (lostStore.after soundSpark [soundValue] 7 {})) := by
  have raises : (lostStore.run soundSpark [soundValue] 7 {}).1 = .error saveFailed := by
    rw [run_of_accepted soundValue_accepted]
    rfl
  have completes : (cleanAttempt.run soundSpark [soundValue] 7
      (lostStore.after soundSpark [soundValue] 7 {})).1 = .ok () := by
    rw [run_of_accepted soundValue_accepted]
    rfl
  apply (appendedOnce_iff (retried_once raises completes)).mpr
  intro attempt member
  obtain rfl := List.mem_singleton.mp member
  refine ⟨fun _ => rfl, fun _ reached => ?_⟩
  simp [Attempt.Quarantines, validRows_soundValue, lostStore] at reached

end Lakehouse
