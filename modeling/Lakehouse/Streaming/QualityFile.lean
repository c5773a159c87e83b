import Mathlib.Algebra.BigOperators.Group.List.Basic
import Mathlib.Data.Rat.Defs
import Mathlib.Algebra.Order.Field.Rat
import Mathlib.Tactic.FieldSimp
import Mathlib.Tactic.NormNum
import Lakehouse.Compactor.LeaseText
import Lakehouse.Foundation.JsonLines
import Lakehouse.Foundation.Rounding
import Lakehouse.Streaming.EventPipeline

/-!
# The quality metrics file

A line for each call of `process_batch` which came to its end, and for no other.  Every line of a
batch tells the same, and the last lines of all batches together count every message once.
-/

namespace Lakehouse

open Foundation Foundation.Column
open Foundation.Json (entry)
open Foundation.Json.Value (ofText ofInt ofFloat)

/-! ## Lines -/

namespace QualityMetrics

variable (metrics : QualityMetrics)

def badRecordPercentage : Binary64.Value :=
  if metrics.totalRecordCount = 0 then Binary64.quotient 0 1
  else
    ((Binary64.quotient (metrics.totalRecordCount.sign * metrics.badRecordCount)
      metrics.totalRecordCount.natAbs).timesNat 100).roundTo 2

def toDict : Json.Value :=
  .object
    [entry "record_type" (ofText "quality_metrics"),
      entry "batch_id" (ofInt metrics.batchId),
      entry "timestamp" (ofText (utcNowIso metrics.timestamp)),
      entry "valid_record_count" (ofInt metrics.validRecordCount),
      entry "bad_record_count" (ofInt metrics.badRecordCount),
      entry "bad_record_percentage" (ofFloat metrics.badRecordPercentage),
      entry "total_record_count" (ofInt metrics.totalRecordCount)]

end QualityMetrics

def writeQualityMetrics (metrics : QualityMetrics) (file : Option (List Char)) :
    Option (List Char) :=
  Json.appendLine metrics.toDict file

/-- The file after these lines have been written. -/
def qualityFile (lines : List QualityMetrics) : Option (List Char) :=
  lines.foldl (fun file metrics => writeQualityMetrics metrics file) none

theorem records_qualityFile (lines : List QualityMetrics) :
    Json.Records (qualityFile lines) (lines.map QualityMetrics.toDict) := by
  have records := Json.records_none.appendAll (lines.map QualityMetrics.toDict)
  rw [List.foldl_map, List.nil_append] at records
  exact records

/-- The percentage is a number of hundredths, the nearest one up to the errors of two floating
point operations. -/
structure IsPercentage (bad total : Int) (percentage : Binary64.Value) : Prop where
  hundredths : ∃ count : Nat, count ≤ 10000 ∧ percentage = Binary64.ofDecimal false count (-2) ∧
    |(count : ℚ) - 10000 * bad / total| ≤ 1 / 2 + 1 / 2 ^ 38

theorem isPercentage_badRecordPercentage {metrics : QualityMetrics}
    (valid : 0 ≤ metrics.validRecordCount) (bad : 0 ≤ metrics.badRecordCount)
    (some_record : 0 < metrics.totalRecordCount) :
    IsPercentage metrics.badRecordCount metrics.totalRecordCount metrics.badRecordPercentage := by
  obtain ⟨part, part_eq⟩ := Int.eq_ofNat_of_zero_le bad
  obtain ⟨whole, whole_eq⟩ := Int.eq_ofNat_of_zero_le some_record.le
  have le : part ≤ whole := by
    rw [QualityMetrics.totalRecordCount] at whole_eq
    omega
  have positive : 0 < whole := by omega
  obtain ⟨product, product_eq, sign, most, upper, lower⟩ :=
    Binary64.inPlaces_percentage le positive
  have percentage : metrics.badRecordPercentage =
      Binary64.ofDecimal false (product.inPlaces 2) (-2) := by
    rw [QualityMetrics.badRecordPercentage, if_neg some_record.ne', Int.sign_eq_one_of_pos
      some_record, Int.one_mul, part_eq, whole_eq, Int.natAbs_natCast, product_eq,
      Binary64.Value.roundTo, sign]
    rfl
  refine ⟨product.inPlaces 2, most, percentage, ?_⟩
  rw [part_eq, whole_eq]
  generalize product.inPlaces 2 = count at upper lower
  have whole_pos : (0 : ℚ) < whole := by exact_mod_cast positive
  have upper_cast : (2 : ℚ) ^ 53 * (count * whole) ≤
      2 ^ 53 * (10000 * part) + (2 ^ 52 + 20000) * whole := by exact_mod_cast upper
  have lower_cast : (2 : ℚ) ^ 53 * (10000 * part) ≤
      2 ^ 53 * (count * whole) + (2 ^ 52 + 20000) * whole := by exact_mod_cast lower
  have difference : (count : ℚ) - 10000 * part / whole =
      (count * whole - 10000 * part) / whole := by
    field_simp
  rw [Int.cast_natCast, Int.cast_natCast, difference, abs_div, abs_of_pos whole_pos,
    div_le_iff₀ whole_pos, abs_le]
  norm_num at upper_cast lower_cast ⊢
  constructor <;> linarith

variable {τ δ : Type}

/-! ## One call -/

/-- The line tells the counts of the batch. -/
structure QualityMetrics.Counts (metrics : QualityMetrics) (spark : SparkSql τ δ) (batch : Batch)
    (batchId : Int) : Prop where
  batchId : metrics.batchId = batchId
  valid : metrics.validRecordCount = (validRows spark batch).length
  bad : metrics.badRecordCount = (rejectedRecords spark batch).length

theorem QualityMetrics.Counts.total {metrics : QualityMetrics} {spark : SparkSql τ δ}
    {batch : Batch} {batchId : Int} (counts : metrics.Counts spark batch batchId) :
    metrics.totalRecordCount = batch.length := by
  rw [QualityMetrics.totalRecordCount, counts.valid, counts.bad, ← length_validRows_add spark batch]
  exact (Int.natCast_add _ _).symm

/-- The lines which calls about a batch have written, failed ones and one which completes. -/
structure BatchReport (spark : SparkSql τ δ) (batch : Batch) (batchId : Int) (failed : Nat)
    (lines : List QualityMetrics) : Prop where
  counts : ∀ metrics ∈ lines, metrics.Counts spark batch batchId
  present : batch ≠ [] → lines ≠ []
  absent : batch = [] → lines = []
  most : lines.length ≤ failed + 1

def BatchCall.SparesMetrics : BatchCall τ δ → Prop
  | .writeQualityMetrics _ => False
  | _ => True

theorem sparesMetrics_writeValid (valid : Frame τ (RawRow τ δ)) (validCount : Int) :
    (writeValid valid validCount).EveryCall BatchCall.SparesMetrics := by
  rw [writeValid]
  split
  · exact ⟨trivial, fun _ => ⟨trivial, fun reply => Program.everyCall_ofExcept reply⟩⟩
  · trivial

theorem sparesMetrics_writeQuarantine (quarantine : Frame τ (QuarantineRow τ δ)) (badCount : Int) :
    (writeQuarantine quarantine badCount).EveryCall BatchCall.SparesMetrics := by
  rw [writeQuarantine]
  split
  · exact ⟨trivial, fun _ => ⟨trivial, fun reply => Program.everyCall_ofExcept reply⟩⟩
  · trivial

namespace Attempt

variable (attempt : Attempt τ)

/-- What follows the two writes of rows is the only write of a line. -/
theorem runWith_writeBatch_metrics (valid : Frame τ (RawRow τ δ))
    (quarantine : Frame τ (QuarantineRow τ δ)) (validCount badCount batchId : Int)
    (tables : Tables τ δ) :
    ∃ result later lines,
      (writeBatch valid quarantine validCount badCount batchId).runWith attempt.handle tables =
        (result, later) ∧
      later.metrics = tables.metrics ++ lines ∧
      (lines = [] ∧ result ≠ .ok () ∨
        lines = [computeQualityMetrics validCount badCount batchId attempt.now]) := by
  have rows : (writeValid valid validCount >>= fun _ =>
      writeQuarantine quarantine badCount).EveryCall BatchCall.SparesMetrics :=
    Program.everyCall_bind (sparesMetrics_writeValid valid validCount) fun _ =>
      sparesMetrics_writeQuarantine quarantine badCount
  have spares : ∀ (request : BatchCall τ δ) (later : Tables τ δ), request.SparesMetrics →
      later.metrics = tables.metrics →
        (attempt.handle request later).2.metrics = tables.metrics := by
    intro request later allowed same
    cases request with
    | writeQualityMetrics metrics => cases allowed
    | currentTimestamp => exact same
    | appendRaw rows => exact same
    | appendQuarantine rows => exact same
    | now => exact same
  have spared := Program.runWith_preserves attempt.handle rows spares rfl
  rw [writeBatch, ← Program.bind_assoc, Program.runWith_bind]
  revert spared
  generalize (writeValid valid validCount >>= fun _ =>
    writeQuarantine quarantine badCount).runWith attempt.handle tables = run
  obtain ⟨exc | written, middle⟩ := run
  · intro spared
    exact ⟨_, _, [], rfl, by rw [List.append_nil]; exact spared, .inl ⟨rfl, by simp⟩⟩
  · intro spared
    have unchanged : middle.metrics = tables.metrics := spared
    simp only [Program.perform_bind, Program.runWith_call, handle, Program.runWith_ofExcept]
    refine ⟨_, _, _, rfl, congrArg (· ++ _) unchanged, ?_⟩
    rcases attempt.metricsWrite with _ | ⟨_ | _, exc⟩
    · exact .inr rfl
    · exact .inl ⟨rfl, by simp [WriteOutcome.reply]⟩
    · exact .inr rfl

/-- A call writes one line or none, and one if it completes. -/
theorem run_reports (spark : SparkSql τ δ) (batch : Batch) (batchId : Int) (tables : Tables τ δ) :
    ∃ result later lines, attempt.run spark batch batchId tables = (result, later) ∧
      later.metrics = tables.metrics ++ lines ∧
      (∀ metrics ∈ lines, metrics.Counts spark batch batchId) ∧ lines.length ≤ 1 ∧
      (batch = [] → lines = []) ∧ (batch ≠ [] → result = .ok () → lines ≠ []) := by
  by_cases empty : batch = []
  · subst empty
    exact ⟨.ok (), tables, [], rfl, (List.append_nil _).symm, by simp, by simp, by simp, by simp⟩
  · have count : ∀ counted, ((classifyBatch spark batch).2 counted).length =
        (rejectedRecords spark batch).length := fun counted => by
      rw [← record_classifyBatch spark batch counted, List.length_map]
    -- the two counts are actions of their own
    obtain ⟨result, later, lines, writes, metrics, told⟩ := attempt.runWith_writeBatch_metrics
      (classifyBatch spark batch).1 (classifyBatch spark batch).2 (validRows spark batch).length
      (rejectedRecords spark batch).length batchId { tables with actions := tables.actions + 1 + 1 }
    refine ⟨result, later, lines, ?_, metrics, ?_, ?_, fun same => absurd same empty, ?_⟩
    · rw [← writes, ← count (attempt.currentTimestamp (tables.actions + 1)), run, processBatch,
        if_neg empty]
      rfl
    · rcases told with ⟨rfl, -⟩ | rfl
      · simp
      · simpa using ⟨rfl, rfl, rfl⟩
    · rcases told with ⟨rfl, -⟩ | rfl <;> simp
    · rcases told with ⟨rfl, raised⟩ | rfl
      · exact fun _ completed => absurd completed raised
      · simp

end Attempt

/-! ## Whole queries -/

/-- The lines of all calls about a batch. -/
theorem batchReport_of_retried {spark : SparkSql τ δ} {batch : Batch} {batchId : Int}
    {before after : Tables τ δ} {failed : List (Attempt τ)} {last : Attempt τ}
    (retried : Retried spark batch batchId before failed last after) :
    ∃ lines, after.metrics = before.metrics ++ lines ∧
      BatchReport spark batch batchId failed.length lines := by
  induction retried with
  | @completes tables later last run =>
      obtain ⟨result, later', lines, run', metrics, counts, most, absent, present⟩ :=
        last.run_reports spark batch batchId tables
      obtain ⟨rfl, rfl⟩ := Prod.mk.inj (run.symm.trans run')
      exact ⟨lines, metrics, counts, fun nonempty => present nonempty rfl, absent, most⟩
  | @fails tables middle later attempt failed last exc run rest ih =>
      obtain ⟨result, middle', lines, run', metrics, counts, most, absent, -⟩ :=
        attempt.run_reports spark batch batchId tables
      obtain ⟨rfl, rfl⟩ := Prod.mk.inj (run.symm.trans run')
      obtain ⟨more, later_metrics, report⟩ := ih
      refine ⟨lines ++ more, by rw [later_metrics, metrics, List.append_assoc], ?_, ?_, ?_, ?_⟩
      · intro line member
        rcases List.mem_append.mp member with first | second
        · exact counts line first
        · exact report.counts line second
      · exact fun nonempty => List.append_ne_nil_of_right_ne_nil _ (report.present nonempty)
      · exact fun empty => List.append_eq_nil_iff.mpr ⟨absent empty, report.absent empty⟩
      · rw [List.length_append, List.length_cons]
        have := report.most
        omega

/-- The lines of a query, in a block for each batch. -/
inductive Reported (spark : SparkSql τ δ) :
    Int → List (Batch × List (Attempt τ)) → List (List QualityMetrics) → Prop
  | stopped {batchId} : Reported spark batchId [] []
  | batch {batchId batch failed lines later blocks}
      (report : BatchReport spark batch batchId failed.length lines)
      (rest : Reported spark (batchId + 1) later blocks) :
      Reported spark batchId ((batch, failed) :: later) (lines :: blocks)

section Query

variable {spark : SparkSql τ δ} {batchId : Int} {entries : List (Batch × List (Attempt τ))}
  {blocks : List (List QualityMetrics)}

theorem reported_of_query {before after : Tables τ δ}
    (query : Query spark batchId entries before after) :
    ∃ blocks, after.metrics = before.metrics ++ blocks.flatten ∧
      Reported spark batchId entries blocks := by
  induction query with
  | stopped => exact ⟨[], by simp, .stopped⟩
  | batch retried rest ih =>
      obtain ⟨lines, metrics, report⟩ := batchReport_of_retried retried
      obtain ⟨blocks, later_metrics, reported⟩ := ih
      refine ⟨lines :: blocks, ?_, .batch report reported⟩
      rw [later_metrics, metrics, List.flatten_cons, List.append_assoc]

/-- The last lines of the batches count all values. -/
theorem Reported.totals (reported : Reported spark batchId entries blocks) :
    ((blocks.filterMap List.getLast?).map QualityMetrics.validRecordCount).sum =
        (validRows spark (entries.flatMap Prod.fst)).length ∧
      ((blocks.filterMap List.getLast?).map QualityMetrics.badRecordCount).sum =
        (rejectedRecords spark (entries.flatMap Prod.fst)).length := by
  induction reported with
  | stopped => exact ⟨rfl, rfl⟩
  | @batch batchId batch failed lines later blocks report rest ih =>
      obtain ⟨valid, bad⟩ := ih
      rw [List.flatMap_cons, validRows_append, rejectedRecords_append, List.length_append,
        List.length_append, Int.natCast_add, Int.natCast_add, ← valid, ← bad]
      by_cases empty : batch = []
      · subst empty
        rw [report.absent rfl]
        exact ⟨(Int.zero_add _).symm, (Int.zero_add _).symm⟩
      · obtain ⟨line, last⟩ := Option.isSome_iff_exists.mp
          (List.getLast?_isSome.mpr (report.present empty))
        have counts := report.counts line (List.mem_of_getLast? last)
        rw [List.filterMap_cons_some last, List.map_cons, List.map_cons, List.sum_cons,
          List.sum_cons, counts.valid, counts.bad]
        exact ⟨rfl, rfl⟩

theorem Reported.counts (reported : Reported spark batchId entries blocks)
    {metrics : QualityMetrics} (member : metrics ∈ blocks.flatten) :
    ∃ batch ∈ entries.map Prod.fst, batch ≠ [] ∧
      ∃ batchId, metrics.Counts spark batch batchId := by
  induction reported with
  | stopped => cases member
  | @batch batchId batch failed lines later blocks report rest ih =>
      rw [List.flatten_cons] at member
      rcases List.mem_append.mp member with first | second
      · refine ⟨batch, List.mem_cons_self, ?_, batchId, report.counts metrics first⟩
        rintro rfl
        rw [report.absent rfl] at first
        cases first
      · obtain ⟨other, found, told⟩ := ih second
        exact ⟨other, List.mem_cons_of_mem _ found, told⟩

end Query

/-! ## The messages of a producer -/

/-- How many rows of messages are accepted and rejected: those with a key and those without. -/
theorem lengths_of_messages {spark : SparkSql τ δ} (reads : SparkReads spark)
    {messages : List Message} (stream : IsStream messages) {batch : Batch}
    (delivered : batch.Perm (messages.map Message.kafkaValue)) :
    (validRows spark batch).length = messages.countP (·.key.isSome) ∧
      (rejectedRecords spark batch).length = messages.countP (·.key.isNone) := by
  have same : (validRows spark batch).Perm (validRows spark (messages.map Message.kafkaValue)) :=
    ((delivered.map _).filter _).map _
  have valid : (validRows spark batch).length = messages.countP (·.key.isSome) := by
    have ids := congrArg List.length (eventIds_validRows reads stream.sends)
    rw [List.length_map, List.length_map, List.length_filterMap_eq_countP] at ids
    rw [same.length_eq, ids]
  have total := length_validRows_add spark batch
  have keys := List.length_eq_countP_add_countP (l := messages) (·.key.isSome)
  rw [delivered.length_eq, List.length_map, valid, keys] at total
  refine ⟨valid, (Nat.add_left_cancel total).trans (List.countP_congr fun message _ => ?_)⟩
  cases message.key <;> simp

/-- The quality file tells how many events and how many bad payloads were sent, whatever fails and
is called again: the last lines of the batches count every message once, no batch has a line which
tells otherwise or more lines than calls, each percentage is right, and the file is read back as the
lines. -/
theorem quality_file_tells {spark : SparkSql τ δ} (reads : SparkReads spark)
    {messages : List Message} (stream : IsStream messages) {batchId : Int}
    {entries : List (Batch × List (Attempt τ))} {before after : Tables τ δ}
    (query : Query spark batchId entries before after)
    (delivered : (entries.flatMap Prod.fst).Perm (messages.map Message.kafkaValue)) :
    ∃ blocks, after.metrics = before.metrics ++ blocks.flatten ∧
      Reported spark batchId entries blocks ∧
      ((blocks.filterMap List.getLast?).map QualityMetrics.validRecordCount).sum =
        messages.countP (·.key.isSome) ∧
      ((blocks.filterMap List.getLast?).map QualityMetrics.badRecordCount).sum =
        messages.countP (·.key.isNone) ∧
      (∀ metrics ∈ blocks.flatten, IsPercentage metrics.badRecordCount metrics.totalRecordCount
        metrics.badRecordPercentage) ∧
      Json.readLines (qualityFile after.metrics) =
        some ((before.metrics ++ blocks.flatten).map QualityMetrics.toDict) := by
  obtain ⟨blocks, metrics, reported⟩ := reported_of_query query
  obtain ⟨valid, bad⟩ := lengths_of_messages reads stream delivered
  obtain ⟨valid_total, bad_total⟩ := reported.totals
  refine ⟨blocks, metrics, reported, by rw [valid_total, valid], by rw [bad_total, bad], ?_, ?_⟩
  · intro line member
    obtain ⟨batch, -, nonempty, number, counts⟩ := reported.counts member
    have positive : 0 < line.totalRecordCount := by
      rw [counts.total]
      exact_mod_cast List.length_pos_of_ne_nil nonempty
    refine isPercentage_badRecordPercentage ?_ ?_ positive
    · rw [counts.valid]
      exact Int.natCast_nonneg _
    · rw [counts.bad]
      exact Int.natCast_nonneg _
  · rw [← metrics]
    exact (records_qualityFile after.metrics).read

/-- The purchase whose first write was lost is counted once. -/
theorem quality_file_tells_dearPurchase :
    ∃ (after : Tables Int Int) (blocks : List (List QualityMetrics)),
      Query readingSpark 7 [([dearPurchase.message.kafkaValue], [lostStore])] {} after ∧
        after.metrics = blocks.flatten ∧
        ((blocks.filterMap List.getLast?).map QualityMetrics.validRecordCount).sum = 1 := by
  obtain ⟨after, query⟩ := query_dearPurchase
  have stream : IsStream ([] ++ [dearPurchase.message]) :=
    isStream_nil.append (.event dearPurchase rfl)
  obtain ⟨blocks, metrics, -, valid, -⟩ :=
    quality_file_tells sparkReads_readingSpark stream query (.refl _)
  exact ⟨after, blocks, query, metrics, valid⟩

end Lakehouse
