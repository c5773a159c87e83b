import Mathlib.Algebra.Order.BigOperators.Group.List
import Lakehouse.Compactor.CycleAccounts

/-!
# What a run reports

The exit code, the totals and the summary line of a run, against what happened in it.  The exit
code looks at four fields which the loop keeps in step; the totals before are counted ahead of the
compaction; and an error is recorded as the text of the exception which ended the run.
-/

namespace Lakehouse

open Foundation

/-! ## The exit code -/

namespace CompactionRunMetrics

/-- Inside the loop, every eligible partition is compacted, failed or one of those `pending`. -/
structure InLoop (pending : Nat) (metrics : CompactionRunMetrics) : Prop where
  error : metrics.error = none
  compacted_nonneg : 0 ≤ metrics.compactedPartitions
  balance : metrics.compactedPartitions + metrics.failedPartitions.length + pending =
    metrics.eligiblePartitions

/-- Complete metrics with an error text, or with every eligible partition compacted or failed. -/
structure Settled (metrics : CompactionRunMetrics) : Prop where
  errorText : metrics.error ≠ some ""
  status : metrics.error = none → metrics.status ≠ .error
  compacted_nonneg : metrics.error = none → 0 ≤ metrics.compactedPartitions
  balance : metrics.error = none →
    metrics.compactedPartitions + metrics.failedPartitions.length = metrics.eligiblePartitions

variable {metrics : CompactionRunMetrics}

theorem hasError_eq_true : metrics.hasError = true ↔ metrics.error ≠ none ∧
    metrics.error ≠ some "" := by
  cases recorded : metrics.error <;> simp [hasError, recorded]

theorem hasError_of_none (absent : metrics.error = none) : metrics.hasError = false := by
  simp [hasError, absent]

theorem completedStatus_ne_error (absent : metrics.error = none) :
    metrics.completedStatus ≠ .error := by
  simp only [completedStatus, hasError_of_none absent]
  repeat' split
  all_goals simp_all

theorem settled_markComplete_of_inLoop (inside : metrics.InLoop 0) (finished : Int) :
    (metrics.markComplete finished).Settled where
  errorText := by simp [markComplete, inside.error]
  status := fun _ => completedStatus_ne_error inside.error
  compacted_nonneg := fun _ => inside.compacted_nonneg
  balance := fun _ => by simpa [markComplete] using inside.balance

theorem settled_markComplete_of_error {text : String} (recorded : metrics.error = some text)
    (text_ne : text ≠ "") (finished : Int) : (metrics.markComplete finished).Settled where
  errorText := by simpa [markComplete, recorded] using text_ne
  status := fun absent => completedStatus_ne_error (show metrics.error = none from absent)
  compacted_nonneg := fun absent => by simp [markComplete, recorded] at absent
  balance := fun absent => by simp [markComplete, recorded] at absent

/-- The order of the tests in `exit_code` is right for settled metrics. -/
theorem exitCode_of_settled (settled : metrics.Settled) :
    (metrics.exitCode = exitFailure ↔
      metrics.error ≠ none ∨ 0 < metrics.eligiblePartitions ∧ metrics.compactedPartitions = 0) ∧
    (metrics.exitCode = exitNoEligible ↔
      metrics.error = none ∧ metrics.eligiblePartitions = 0) ∧
    (metrics.exitCode = exitSuccess ↔
      metrics.error = none ∧ 0 < metrics.compactedPartitions) := by
  by_cases absent : metrics.error = none
  · have nonneg := settled.compacted_nonneg absent
    have balance := settled.balance absent
    have failed_iff : metrics.failedPartitions ≠ [] ↔ 0 < metrics.failedPartitions.length :=
      List.length_pos_iff.symm
    simp only [exitCode, hasError_of_none absent, settled.status absent, failed_iff, absent,
      Bool.false_eq_true, if_false, exitFailure, exitNoEligible, exitSuccess]
    split_ifs <;> simp <;> omega
  · have recorded : metrics.hasError = true := hasError_eq_true.mpr ⟨absent, settled.errorText⟩
    simp [exitCode, recorded, absent, exitFailure, exitNoEligible, exitSuccess]

end CompactionRunMetrics

open CompactionRunMetrics

/-- The replies of a run which is not ended by `acquire` or `release`, and whose other errors
have a text. -/
def CycleCall.Answers : (request : CycleCall) → CycleReply request → Prop
  | .verifyDeltaTableExists, reply => ∀ exc, reply = .error exc → exc.message ≠ ""
  | .scanPartitions, reply => ∀ exc, reply = .error exc → exc.message ≠ ""
  | .createSparkSession, reply => ∀ exc, reply = .error exc → exc.message ≠ ""
  | .acquire _ _, reply => ∀ exc, reply ≠ .error exc
  | .release _, reply => ∀ exc, reply ≠ .error exc
  | _, _ => True

theorem settled_finalizeRun {metrics : CompactionRunMetrics}
    (settled : ∀ finished, (metrics.markComplete finished).Settled) :
    (finalizeRun metrics).Ensures CycleCall.Answers Settled :=
  fun finished _ _ _ => settled finished

theorem settled_handleFailure (metrics : CompactionRunMetrics) {exc : PyException}
    (text_ne : exc.message ≠ "") (sparkStarted : Bool) :
    (handleFailure metrics exc sparkStarted).Ensures CycleCall.Answers Settled := by
  apply Program.ensures_bind
    (settled_finalizeRun fun _ => settled_markComplete_of_error rfl text_ne _)
  intro complete settled
  cases sparkStarted <;> cases exc.isCompactionError <;>
    simp [ask, Program.perform, Program.Ensures, settled]

/-- One iteration settles one pending partition. -/
theorem inLoop_compactOne (runId : String) (stats : PartitionStats) {pending : Nat}
    {metrics : CompactionRunMetrics} (inside : metrics.InLoop (pending + 1)) :
    (compactOne runId stats metrics).Ensures CycleCall.Answers fun result =>
      result.2 = none ∧ result.1.InLoop pending := by
  obtain ⟨error, nonneg, balance⟩ := inside
  push_cast at balance
  rw [compactOne]
  split
  · refine ⟨rfl, error, nonneg, ?_⟩
    simp only [skipEmpty]
    omega
  · intro reply acquired
    rcases reply with exc | (_ | _)
    · exact absurd rfl (acquired exc)
    · refine ⟨rfl, error, nonneg, ?_⟩
      simp only [recordLockConflict, recordFailed, List.length_append, List.length_singleton]
      push_cast
      omega
    · intro outcome _ reply released
      cases reply with
      | error exc => exact absurd rfl (released exc)
      | ok done =>
          refine ⟨rfl, ?_⟩
          cases outcome with
          | error exc =>
              refine ⟨error, nonneg, ?_⟩
              simp only [addBefore, recordOutcome, recordFailed, List.length_append,
                List.length_singleton]
              push_cast
              omega
          | ok part =>
              refine ⟨error, ?_, ?_⟩ <;> simp only [addBefore, recordOutcome, recordCompacted] <;>
                omega

theorem inLoop_compactEach (runId : String) (parts : List PartitionStats)
    {metrics : CompactionRunMetrics} (inside : metrics.InLoop parts.length) :
    (compactEach runId parts metrics).Ensures CycleCall.Answers fun result =>
      result.2 = none ∧ result.1.InLoop 0 := by
  induction parts generalizing metrics with
  | nil => exact ⟨rfl, inside⟩
  | cons stats rest ih =>
      apply Program.ensures_bind (inLoop_compactOne runId stats inside)
      rintro ⟨after, escape⟩ ⟨ends, later⟩
      obtain rfl : escape = none := ends
      exact ih later

theorem settled_compactEligible (runId : String) (eligible : List PartitionStats)
    (skippedCount : Nat) {metrics : CompactionRunMetrics}
    (fresh : metrics.error = none ∧ metrics.compactedPartitions = 0 ∧
      metrics.failedPartitions = []) :
    (compactEligible runId eligible skippedCount metrics).Ensures CycleCall.Answers Settled := by
  obtain ⟨error, compacted, failed⟩ := fresh
  have inside : InLoop eligible.length
      { metrics with
        eligiblePartitions := eligible.length, skippedPartitions := skippedCount } :=
    ⟨error, compacted.ge, by simp [compacted, failed]⟩
  rw [compactEligible]
  split
  · rename_i none_left
    subst none_left
    exact settled_finalizeRun fun finished => settled_markComplete_of_inLoop inside finished
  · intro reply started
    cases reply with
    | ok done =>
        apply Program.ensures_bind (inLoop_compactEach runId eligible inside)
        rintro ⟨after, escape⟩ ⟨ends, later⟩
        obtain rfl : escape = none := ends
        apply Program.ensures_bind
          (settled_finalizeRun fun finished => settled_markComplete_of_inLoop later finished)
        intro complete settled _ _
        exact settled
    | error exc =>
        have text_ne := started exc rfl
        show (afterSession runId eligible _ (.error exc)).Ensures _ _
        rw [afterSession]
        split
        · exact settled_finalizeRun fun _ => settled_markComplete_of_error rfl text_ne _
        · exact settled_handleFailure _ text_ne false

/-- Whatever a cycle returns is settled. -/
theorem settled_runCompactionCycle (config : CompactionConfig) (targetPartition : Option String)
    (runId : String) (started : Int) :
    (runCompactionCycle config targetPartition runId started).Ensures CycleCall.Answers
      Settled := by
  intro verified verify_text
  cases verified with
  | error exc =>
      show (afterVerify config targetPartition runId _ (.error exc)).Ensures _ _
      rw [afterVerify]
      split
      · exact settled_finalizeRun fun _ =>
          settled_markComplete_of_error rfl (verify_text exc rfl) _
      · trivial
  | ok found =>
      intro scanned scan_text
      cases scanned with
      | error exc => exact settled_handleFailure _ (scan_text exc rfl) false
      | ok partitions =>
          show (afterScan config targetPartition runId _ (.ok partitions)).Ensures _ _
          simp only [afterScan]
          split
          · rename_i target _
            split
            · have text_ne : "Partition not found: " ++ target ≠ "" := by
                intro empty
                have length := congrArg String.length empty
                simp [String.length_append] at length
              exact settled_finalizeRun fun _ => settled_markComplete_of_error rfl text_ne _
            · exact settled_compactEligible runId _ 0 ⟨rfl, rfl, rfl⟩
          · exact fun clock _ => settled_compactEligible runId _ _ ⟨rfl, rfl, rfl⟩

/-- A handler which answers as `replies` do satisfies `Answers`. -/
theorem answers_handle {replies : CycleReplies}
    (verify_text : ∀ exc, replies.verifyDeltaTableExists = .error exc → exc.message ≠ "")
    (scan_text : ∀ exc, replies.scanPartitions = .error exc → exc.message ≠ "")
    (session_text : ∀ exc, replies.createSparkSession = .error exc → exc.message ≠ "")
    (acquire_returns : ∀ turn exc, replies.acquire turn ≠ .error exc)
    (release_returns : ∀ turn exc, replies.release turn ≠ .error exc)
    (request : CycleCall) (log : CycleLog) :
    request.Answers (replies.handle request log).1 := by
  cases request with
  | verifyDeltaTableExists => exact verify_text
  | scanPartitions => exact scan_text
  | createSparkSession => exact session_text
  | acquire partitionId runId => exact acquire_returns log.turn
  | release partitionId => exact release_returns (log.turn - 1)
  | _ => trivial

/-- The exit code of a run which returns its metrics: 1 for an error or for eligible partitions
none of which was compacted, 2 for nothing eligible, 0 for something compacted. -/
theorem exitCode_of_runCycle (replies : CycleReplies)
    (verify_text : ∀ exc, replies.verifyDeltaTableExists = .error exc → exc.message ≠ "")
    (scan_text : ∀ exc, replies.scanPartitions = .error exc → exc.message ≠ "")
    (session_text : ∀ exc, replies.createSparkSession = .error exc → exc.message ≠ "")
    (acquire_returns : ∀ turn exc, replies.acquire turn ≠ .error exc)
    (release_returns : ∀ turn exc, replies.release turn ≠ .error exc)
    (config : CompactionConfig) (targetPartition : Option String) (runId : String) (started : Int)
    {metrics : CompactionRunMetrics}
    (returned : (replies.runCycle config targetPartition runId started).1 = .ok metrics) :
    (metrics.exitCode = exitFailure ↔
      metrics.error ≠ none ∨ 0 < metrics.eligiblePartitions ∧ metrics.compactedPartitions = 0) ∧
    (metrics.exitCode = exitNoEligible ↔
      metrics.error = none ∧ metrics.eligiblePartitions = 0) ∧
    (metrics.exitCode = exitSuccess ↔
      metrics.error = none ∧ 0 < metrics.compactedPartitions) :=
  exitCode_of_settled <|
    Program.post_of_ensures replies.handle
      (settled_runCompactionCycle config targetPartition runId started)
      (answers_handle verify_text scan_text session_text acquire_returns release_returns) returned

/-- One of two partitions is compacted: the exit code is 0. -/
theorem exitCode_secondEmpty :
    ∃ metrics, (CycleReplies.secondEmpty.runCycle CycleReplies.eagerConfig none "run-1" 0).1 =
        .ok metrics ∧
      metrics.failedPartitions.length = 1 ∧ metrics.exitCode = exitSuccess := by
  have truth := exitCode_of_runCycle CycleReplies.secondEmpty (by simp [CycleReplies.secondEmpty,
    CycleReplies.unreadableLock]) (by simp [CycleReplies.secondEmpty, CycleReplies.unreadableLock])
    (by simp [CycleReplies.secondEmpty, CycleReplies.unreadableLock])
    (by simp [CycleReplies.secondEmpty]) (by simp [CycleReplies.secondEmpty,
      CycleReplies.unreadableLock]) CycleReplies.eagerConfig none "run-1" 0 rfl
  exact ⟨_, rfl, by decide, truth.2.2.mpr (by decide)⟩

/-! ## The totals -/

namespace CycleReplies

variable {replies : CycleReplies} {config : CompactionConfig} {targetPartition : Option String}
  {allPartitions eligible : List PartitionStats} {skippedCount : Nat}

/-- What `compact_partition` makes of the partition of a turn, if the lock is granted. -/
def compacted (replies : CycleReplies) (entry : PartitionStats × Nat) :
    Option (Except PyException PartitionCompactionMetrics) :=
  match replies.acquire entry.2 with
  | .ok true => some ((replies.compactPartition entry.2 entry.1).map Subtype.val)
  | _ => none

/-- The records of the partitions which are compacted. -/
def successes (replies : CycleReplies) (entries : List (PartitionStats × Nat)) :
    List PartitionCompactionMetrics :=
  entries.filterMap fun entry => (replies.compacted entry).bind Except.toOption

/-- The partition of a turn gets its lock and fails to compact. -/
def breaks (replies : CycleReplies) (entry : PartitionStats × Nat) : Bool :=
  match replies.compacted entry with
  | some (.error _) => true
  | _ => false

/-- The partitions which get their lock and fail to compact. -/
def broken (replies : CycleReplies) (entries : List (PartitionStats × Nat)) :
    List PartitionStats :=
  (entries.filter replies.breaks).map Prod.fst

/-- How part of the loop moves the totals: a compacted partition counts by its reduction, a
partition which fails to compact by all that it held before. -/
structure Totalled (replies : CycleReplies) (entries : List (PartitionStats × Nat))
    (before after : CompactionRunMetrics) : Prop where
  files : after.filesReduced = before.filesReduced +
    ((replies.successes entries).map fun part => part.filesBefore - part.filesAfter).sum +
    ((replies.broken entries).map fun stats => (stats.fileCount : Int)).sum
  bytes : after.bytesBefore - after.bytesAfter = before.bytesBefore - before.bytesAfter +
    ((replies.successes entries).map fun part => part.bytesBefore - part.bytesAfter).sum +
    ((replies.broken entries).map PartitionStats.totalBytes).sum

theorem Totalled.trans {first last : List (PartitionStats × Nat)}
    {before middle after : CompactionRunMetrics} (left : replies.Totalled first before middle)
    (right : replies.Totalled last middle after) :
    replies.Totalled (first ++ last) before after where
  files := by
    rw [right.files, left.files]
    simp only [successes, broken, List.filterMap_append, List.filter_append, List.map_append,
      List.sum_append]
    omega
  bytes := by
    rw [right.bytes, left.bytes]
    simp only [successes, broken, List.filterMap_append, List.filter_append, List.map_append,
      List.sum_append]
    omega

theorem totalled_turnMetrics {turn : Nat} (stays : replies.escaped turn = none)
    (stats : PartitionStats) (metrics : CompactionRunMetrics) :
    replies.Totalled [(stats, turn)] metrics (replies.turnMetrics turn stats metrics) := by
  unfold turnMetrics
  cases acquired : replies.acquire turn with
  | error exc => simp [escaped, acquired] at stays
  | ok granted =>
      cases granted with
      | false =>
          constructor <;> simp [successes, broken, breaks, compacted, acquired,
            recordLockConflict, recordFailed, filesReduced]
      | true =>
          cases outcome : replies.compactPartition turn stats with
          | error exc =>
              constructor <;> simp [successes, broken, breaks, compacted, acquired, outcome,
                Except.map, Except.toOption, recordOutcome, addBefore, recordFailed, filesReduced]
                <;> omega
          | ok part =>
              have files := part.property.filesBefore
              have bytes := part.property.bytesBefore
              constructor <;> simp [successes, broken, breaks, compacted, acquired, outcome,
                Except.map, Except.toOption, recordOutcome, addBefore, recordCompacted,
                filesReduced, files, bytes] <;> omega

theorem totalled_loopMetrics (parts : List PartitionStats) (turn : Nat)
    (metrics : CompactionRunMetrics)
    (stays : ∀ offset < (withFiles parts).length, replies.escaped (turn + offset) = none) :
    (replies.loopMetrics turn parts metrics).2 = none ∧
      replies.Totalled ((withFiles parts).zipIdx turn) metrics
        (replies.loopMetrics turn parts metrics).1 := by
  refine @loopMetrics_related replies (fun entries _ => replies.Totalled entries)
    (fun metrics => ?_) (fun later => ?_) (fun here later => ?_) parts turn metrics stays
  · constructor <;> simp [successes, broken]
  · exact ⟨later.files, later.bytes⟩
  · simpa using (totalled_turnMetrics here _ _).trans later

theorem mem_broken {entries : List (PartitionStats × Nat)} {stats : PartitionStats} :
    stats ∈ replies.broken entries ↔
      ∃ turn, (stats, turn) ∈ entries ∧ replies.acquire turn = .ok true ∧
        ∃ exc, replies.compactPartition turn stats = .error exc := by
  have breaks_iff : ∀ turn, replies.breaks (stats, turn) = true ↔
      replies.acquire turn = .ok true ∧
        ∃ exc, replies.compactPartition turn stats = .error exc := by
    intro turn
    simp only [breaks, compacted]
    rcases acquired : replies.acquire turn with exc | (_ | _)
    · simp
    · simp
    · cases outcome : replies.compactPartition turn stats <;> simp [Except.map]
  simp [broken, breaks_iff]

/-- No partition is broken if every one whose lock is granted is compacted. -/
theorem broken_eq_nil_iff {parts : List PartitionStats} :
    replies.broken parts.zipIdx = [] ↔
      ∀ turn, ∀ turn_lt : turn < parts.length, replies.acquire turn = .ok true →
        ∃ part : CompactionOf parts[turn],
          replies.compactPartition turn parts[turn] = .ok part := by
  rw [List.eq_nil_iff_forall_not_mem]
  simp only [mem_broken, List.mem_zipIdx_iff_getElem?, List.getElem?_eq_some_iff]
  constructor
  · intro none_broken turn turn_lt acquired
    cases outcome : replies.compactPartition turn parts[turn] with
    | ok part => exact ⟨part, rfl⟩
    | error exc => exact absurd ⟨turn, ⟨turn_lt, rfl⟩, acquired, exc, outcome⟩ (none_broken _)
  · rintro compacts stats ⟨turn, ⟨turn_lt, rfl⟩, acquired, exc, fails⟩
    obtain ⟨part, outcome⟩ := compacts turn turn_lt acquired
    simp [outcome] at fails

/-- Partitions with files add up to nothing only if there are none. -/
theorem sum_fileCount_eq_zero {parts : List PartitionStats}
    (files : ∀ stats ∈ parts, stats.fileCount ≠ 0) :
    (parts.map fun stats => (stats.fileCount : Int)).sum = 0 ↔ parts = [] := by
  cases parts with
  | nil => simp
  | cons stats rest =>
      have here : stats.fileCount ≠ 0 := files stats List.mem_cons_self
      have later : 0 ≤ (rest.map fun stats => (stats.fileCount : Int)).sum :=
        List.sum_nonneg (by simp)
      simp only [List.map_cons, List.sum_cons, reduceCtorEq, iff_false]
      omega

/-- The totals of a run which reaches the end of its loop are those of the partitions which it
compacted, unless a partition got its lock and failed to compact. -/
theorem totals_iff
    (entered : replies.EntersLoop config targetPartition allPartitions eligible skippedCount)
    (stays : ∀ turn < (withFiles eligible).length, replies.escaped turn = none)
    (runId : String) (started : Int) :
    ∃ metrics, (replies.runCycle config targetPartition runId started).1 = .ok metrics ∧
      ((metrics.filesReduced =
          ((replies.successes (withFiles eligible).zipIdx).map fun part =>
            part.filesBefore - part.filesAfter).sum ∧
        metrics.bytesBefore - metrics.bytesAfter =
          ((replies.successes (withFiles eligible).zipIdx).map fun part =>
            part.bytesBefore - part.bytesAfter).sum) ↔
        ∀ turn, ∀ turn_lt : turn < (withFiles eligible).length,
          replies.acquire turn = .ok true →
            ∃ part : CompactionOf (withFiles eligible)[turn],
              replies.compactPartition turn (withFiles eligible)[turn] = .ok part) := by
  obtain ⟨ends, totalled⟩ := totalled_loopMetrics eligible 0
    (entryMetrics config runId started allPartitions eligible skippedCount) (by simpa using stays)
  have run := runCycle_of_loop_ends entered runId started ends
  generalize (replies.loopMetrics 0 eligible
    (entryMetrics config runId started allPartitions eligible skippedCount)).1 = final
    at run totalled
  refine ⟨final.markComplete replies.now, run, ?_⟩
  obtain ⟨files, bytes⟩ := totalled
  simp only [entryMetrics, filesReduced, Int.sub_zero, Int.zero_add] at files bytes
  have have_files : ∀ stats ∈ replies.broken (withFiles eligible).zipIdx,
      stats.fileCount ≠ 0 := by
    intro stats member
    obtain ⟨turn, inside, -⟩ := mem_broken.mp member
    simpa using (List.mem_filter.mp (List.fst_mem_of_mem_zipIdx inside)).2
  rw [← broken_eq_nil_iff, ← sum_fileCount_eq_zero have_files]
  simp only [markComplete, filesReduced]
  constructor
  · rintro ⟨files_eq, -⟩
    omega
  · intro nothing
    have none_broken := (sum_fileCount_eq_zero have_files).mp nothing
    rw [none_broken] at files bytes
    exact ⟨by simpa using files, by simpa using bytes⟩

/-- Of two hours with one file each, the first is compacted to one file and the second returns no
rows; the run reports a file less. -/
theorem totals_secondEmpty :
    ∃ metrics, (secondEmpty.runCycle eagerConfig none "run-1" 0).1 = .ok metrics ∧
      ¬(metrics.filesReduced =
          ((secondEmpty.successes (withFiles [hourStats 10, hourStats 11]).zipIdx).map fun part =>
            part.filesBefore - part.filesAfter).sum ∧
        metrics.bytesBefore - metrics.bytesAfter =
          ((secondEmpty.successes (withFiles [hourStats 10, hourStats 11]).zipIdx).map fun part =>
            part.bytesBefore - part.bytesAfter).sum) := by
  refine ⟨_, rfl, ?_⟩
  decide

/-- Both hours are compacted. -/
def bothCompacted : CycleReplies :=
  { unreadableLock with acquire := fun _ => .ok true }

theorem bothCompacted_entersLoop :
    bothCompacted.EntersLoop eagerConfig none [hourStats 10, hourStats 11]
      [hourStats 10, hourStats 11] 0 :=
  ⟨rfl, rfl, unreadableLock_entersLoop.chosen, by simp, rfl⟩

theorem totals_bothCompacted :
    ∃ metrics, (bothCompacted.runCycle eagerConfig none "run-1" 0).1 = .ok metrics ∧
      metrics.filesReduced =
        ((bothCompacted.successes (withFiles [hourStats 10, hourStats 11]).zipIdx).map fun part =>
          part.filesBefore - part.filesAfter).sum := by
  have stays : ∀ turn < (withFiles [hourStats 10, hourStats 11]).length,
      bothCompacted.escaped turn = none := fun _ _ => rfl
  obtain ⟨metrics, run, exact_iff⟩ := totals_iff bothCompacted_entersLoop stays "run-1" 0
  exact ⟨metrics, run, (exact_iff.mpr fun _ _ _ => ⟨_, rfl⟩).1⟩

/-! ## Aborted runs -/

/-- After the table check, an exception from the scan, or the first one which leaves an iteration
of the loop, ends the run. -/
def AbortedBy (replies : CycleReplies) (config : CompactionConfig)
    (targetPartition : Option String) (exc : PyException) : Prop :=
  replies.verifyDeltaTableExists = .ok () ∧
    (replies.scanPartitions = .error exc ∨
      ∃ allPartitions eligible skippedCount turn,
        replies.EntersLoop config targetPartition allPartitions eligible skippedCount ∧
          turn < (withFiles eligible).length ∧
          (∀ earlier < turn, replies.escaped earlier = none) ∧
          replies.escaped turn = some exc)

theorem turnMetrics_keeps (replies : CycleReplies) (turn : Nat) (stats : PartitionStats)
    (metrics : CompactionRunMetrics) :
    (replies.turnMetrics turn stats metrics).status = metrics.status ∧
      (replies.turnMetrics turn stats metrics).error = metrics.error := by
  unfold turnMetrics
  rcases replies.acquire turn with exc | (_ | _)
  · exact ⟨rfl, rfl⟩
  · exact ⟨rfl, rfl⟩
  · cases outcome : replies.compactPartition turn stats <;> exact ⟨rfl, rfl⟩

/-- The loop touches neither the status nor the error. -/
theorem loopMetrics_keeps (replies : CycleReplies) (parts : List PartitionStats) (turn : Nat)
    (metrics : CompactionRunMetrics) :
    (replies.loopMetrics turn parts metrics).1.status = metrics.status ∧
      (replies.loopMetrics turn parts metrics).1.error = metrics.error := by
  induction parts generalizing turn metrics with
  | nil => exact ⟨rfl, rfl⟩
  | cons stats rest ih =>
      simp only [loopMetrics]
      split
      · exact ih turn metrics.skipEmpty
      · have here := turnMetrics_keeps replies turn stats metrics
        split
        · exact here
        · have later := ih (turn + 1) (replies.turnMetrics turn stats metrics)
          exact ⟨later.1.trans here.1, later.2.trans here.2⟩

/-- The first exception which leaves an iteration ends the loop. -/
theorem loopMetrics_escape {exc : PyException} {parts : List PartitionStats} {turn offset : Nat}
    (metrics : CompactionRunMetrics) (within : offset < (withFiles parts).length)
    (before : ∀ earlier < offset, replies.escaped (turn + earlier) = none)
    (ends : replies.escaped (turn + offset) = some exc) :
    (replies.loopMetrics turn parts metrics).2 = some exc := by
  induction parts generalizing turn offset metrics with
  | nil => simp [withFiles] at within
  | cons stats rest ih =>
      by_cases empty : stats.fileCount = 0
      · have present : withFiles (stats :: rest) = withFiles rest := by simp [withFiles, empty]
        rw [present] at within
        simpa [loopMetrics, empty] using ih metrics.skipEmpty within before ends
      · have present : withFiles (stats :: rest) = stats :: withFiles rest := by
          simp [withFiles, empty]
        rw [present, List.length_cons] at within
        cases offset with
        | zero =>
            rw [Nat.add_zero] at ends
            simp [loopMetrics, empty, ends]
        | succ offset =>
            have here : replies.escaped turn = none := by simpa using before 0 (by omega)
            simp only [loopMetrics, empty, if_false, here]
            apply ih
            · exact Nat.lt_of_succ_lt_succ within
            · intro earlier earlier_lt
              rw [show turn + 1 + earlier = turn + (earlier + 1) by omega]
              exact before (earlier + 1) (by omega)
            · rwa [show turn + 1 + offset = turn + (offset + 1) by omega]

/-- An aborted run ends in the outer handlers, with metrics which are still running. -/
theorem runCycle_of_abortedBy {exc : PyException}
    (aborted : replies.AbortedBy config targetPartition exc) (runId : String) (started : Int) :
    ∃ metrics sparkStarted log, metrics.status = .running ∧
      replies.runCycle config targetPartition runId started =
        (handleFailure metrics exc sparkStarted).runWith replies.handle log := by
  obtain ⟨verified, scanned | ⟨allPartitions, eligible, skippedCount, turn, entered, within,
    before, ends⟩⟩ := aborted
  · refine ⟨{ runId, tablePath := config.deltaTablePath, startedAt := started }, false,
      (CycleLog.add {} 0 .verifyDeltaTableExists).add 0 .scanPartitions, rfl, ?_⟩
    simp only [runCycle, runCompactionCycle, ask, Program.perform_bind, Program.runWith_call,
      handle, verified, afterVerify, scanned, afterScan, CycleLog.add]
  · obtain ⟨log, run, -⟩ := runCycle_of_entersLoop entered runId started
    have status := (loopMetrics_keeps replies eligible 0
      (entryMetrics config runId started allPartitions eligible skippedCount)).1
    have escape : (replies.loopMetrics 0 eligible
        (entryMetrics config runId started allPartitions eligible skippedCount)).2 = some exc :=
      loopMetrics_escape _ within (by simpa using before) (by simpa using ends)
    revert run status escape
    generalize replies.loopMetrics 0 eligible
      (entryMetrics config runId started allPartitions eligible skippedCount) = result
    obtain ⟨final, escape⟩ := result
    intro run status ended
    obtain rfl : escape = some exc := ended
    exact ⟨final, true, log, status, run⟩

/-- The summary line of an aborted run says so exactly when the exception has a text. -/
theorem aborted_summary_iff {exc : PyException}
    (aborted : replies.AbortedBy config targetPartition exc) (runId : String) (started : Int) :
    (∃ summary,
        (replies.runCycle config targetPartition runId started).2.summaries = [summary] ∧
          summary.status = .error ∧ summary.exitCode = exitFailure) ↔
      exc.message ≠ "" := by
  have one := (replies.runCycle_one_summary_iff config targetPartition runId started).mpr
    fun other raised => by simp [aborted.1] at raised
  obtain ⟨metrics, sparkStarted, log, status, run⟩ := runCycle_of_abortedBy aborted runId started
  rw [run, summaries_handleFailure, List.length_append, List.length_singleton] at one
  have earlier : log.summaries = [] := List.length_eq_zero_iff.mp (by omega)
  have error_iff : ({ metrics with error := some exc.message }).completedStatus = .error ↔
      exc.message ≠ "" := by
    by_cases text : exc.message = ""
    · simp only [text, ne_eq, not_true_eq_false, iff_false, completedStatus, status, hasError]
      repeat' split
      all_goals simp_all
    · simp [completedStatus, hasError, status, text]
  rw [run, summaries_handleFailure, earlier]
  simp only [List.nil_append, List.cons.injEq, and_true, exists_eq_left']
  constructor
  · rintro ⟨failed, -⟩
    exact error_iff.mp failed
  · intro text
    exact ⟨error_iff.mpr text, by simp [exitCode, markComplete, hasError, text]⟩

/-- The first hour is compacted; while the lock of the second is read, memory runs out. -/
def outOfMemory : CycleReplies :=
  { unreadableLock with
    acquire := fun turn =>
      if turn = 0 then .ok true else .error { type := .other "MemoryError", message := "" } }

theorem outOfMemory_abortedBy :
    outOfMemory.AbortedBy eagerConfig none { type := .other "MemoryError", message := "" } := by
  refine ⟨rfl, .inr ⟨_, _, _, 1, ⟨rfl, rfl, unreadableLock_entersLoop.chosen, by simp, rfl⟩, ?_⟩⟩
  decide

/-- The run raises the exception again, and its summary line reports success. -/
theorem outOfMemory_reported :
    outOfMemory.AbortedBy eagerConfig none { type := .other "MemoryError", message := "" } ∧
      ¬∃ summary,
        (outOfMemory.runCycle eagerConfig none "run-1" 0).2.summaries = [summary] ∧
          summary.status = .error ∧ summary.exitCode = exitFailure := by
  refine ⟨outOfMemory_abortedBy, ?_⟩
  rintro ⟨summary, written, status, -⟩
  have success : (outOfMemory.runCycle eagerConfig none "run-1" 0).2.summaries.map
      CompactionRunMetrics.status = [.success] := by
    decide
  rw [written] at success
  simp [status] at success

theorem aborted_summary_unreadableLock :
    ∃ summary, (unreadableLock.runCycle eagerConfig none "run-1" 0).2.summaries = [summary] ∧
      summary.status = .error ∧ summary.exitCode = exitFailure := by
  have aborted : unreadableLock.AbortedBy eagerConfig none
      { type := .other "JSONDecodeError"
        message := "Expecting value: line 1 column 1 (char 0)" } :=
    ⟨rfl, .inr ⟨_, _, _, 0, unreadableLock_entersLoop, by decide, by simp, rfl⟩⟩
  exact (aborted_summary_iff aborted "run-1" 0).mpr (by simp)

end CycleReplies

end Lakehouse
