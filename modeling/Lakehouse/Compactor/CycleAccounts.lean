import Lakehouse.Compactor.CycleRun

/-!
# What a cycle does with each partition

Which eligible partitions a run attempts when some of them fail, and where the metrics of a run
which reaches the end of its loop account for each of them.
-/

namespace Lakehouse

open Foundation

/-- The partitions a run works on and the number it skips; `none` if the target is not found. -/
def choosePartitions (config : CompactionConfig) (targetPartition : Option String)
    (allPartitions : List PartitionStats) (clock : Nat → Int) :
    Option (List PartitionStats × Nat) :=
  match targetPartition.filter (· != "") with
  | some target => (findPartition allPartitions target).map fun found => ([found], 0)
  | none =>
      let selection := selectPartitions (.fromConfig config) allPartitions clock
      some (selection.1, selection.2.length)

/-- Calls about the lock or the data of one partition. -/
def CycleCall.isAboutPartition : CycleCall → Bool
  | .acquire _ _ => true
  | .compactPartition _ => true
  | .release _ => true
  | _ => false

/-- The calls of a run about single partitions, with their turns. -/
def CycleLog.partitionCalls (log : CycleLog) : List (Nat × CycleCall) :=
  log.calls.filter fun entry => entry.2.isAboutPartition

namespace CycleReplies

variable (replies : CycleReplies)

/-- The run gets past the table check, the scan, the selection and the session start. -/
structure EntersLoop (config : CompactionConfig) (targetPartition : Option String)
    (allPartitions eligible : List PartitionStats) (skippedCount : Nat) : Prop where
  verified : replies.verifyDeltaTableExists = .ok ()
  scanned : replies.scanPartitions = .ok allPartitions
  chosen : choosePartitions config targetPartition allPartitions replies.selectionClock =
    some (eligible, skippedCount)
  eligible_ne : eligible ≠ []
  started : replies.createSparkSession = .ok ()

/-- The metrics with which a run enters its loop. -/
def entryMetrics (config : CompactionConfig) (runId : String) (started : Int)
    (allPartitions eligible : List PartitionStats) (skippedCount : Nat) : CompactionRunMetrics where
  runId := runId
  tablePath := config.deltaTablePath
  startedAt := started
  partitionsScanned := allPartitions.length
  eligiblePartitions := eligible.length
  skippedPartitions := skippedCount

variable {replies} {config : CompactionConfig} {targetPartition : Option String}
  {allPartitions eligible : List PartitionStats} {skippedCount : Nat}

theorem loopCalls_aboutPartition (replies : CycleReplies) (runId : String) (turn : Nat)
    (parts : List PartitionStats) :
    ∀ entry ∈ replies.loopCalls runId turn parts, entry.2.isAboutPartition = true := by
  have in_turn : ∀ (turn : Nat) (stats : PartitionStats),
      ∀ entry ∈ replies.turnCalls runId turn stats, entry.2.isAboutPartition = true := by
    intro turn stats
    simp only [turnCalls]
    split <;> simp [CycleCall.isAboutPartition]
  induction parts generalizing turn with
  | nil => simp [loopCalls]
  | cons stats rest ih =>
      intro entry member
      simp only [loopCalls] at member
      split at member
      · exact ih turn entry member
      · rcases List.mem_append.mp member with first | later
        · exact in_turn turn stats entry first
        · split at later
          · simp at later
          · exact ih (turn + 1) entry later

/-- With a session, the chosen partitions go through the loop. -/
theorem runWith_compactEligible (eligible_ne : eligible ≠ [])
    (sparked : replies.createSparkSession = .ok ()) (runId : String) (skippedCount : Nat)
    (metrics : CompactionRunMetrics) (log : CycleLog) :
    ∃ turn, (compactEligible runId eligible skippedCount metrics).runWith replies.handle log =
      (afterLoop (replies.loopMetrics log.turn eligible
        { metrics with
          eligiblePartitions := eligible.length
          skippedPartitions := skippedCount })).runWith replies.handle
        { turn
          calls := log.calls ++ (log.turn, .createSparkSession) ::
            replies.loopCalls runId log.turn eligible } := by
  obtain ⟨turn, loop⟩ := replies.runWith_compactEach runId eligible
    { metrics with eligiblePartitions := eligible.length, skippedPartitions := skippedCount }
    (log.add log.turn .createSparkSession)
  refine ⟨turn, ?_⟩
  simp only [compactEligible, eligible_ne, if_false, ask, Program.perform_bind,
    Program.runWith_call, handle, sparked, afterSession]
  rw [Program.runWith_bind_of_ok replies.handle loop]
  simp [CycleLog.add]

/-- A run which enters its loop ends as `afterLoop` does, and its calls about partitions are
those of the loop. -/
theorem runCycle_of_entersLoop
    (entered : replies.EntersLoop config targetPartition allPartitions eligible skippedCount)
    (runId : String) (started : Int) :
    ∃ log : CycleLog,
      replies.runCycle config targetPartition runId started =
        (afterLoop (replies.loopMetrics 0 eligible
          (entryMetrics config runId started allPartitions eligible skippedCount))).runWith
            replies.handle log ∧
      log.partitionCalls = replies.loopCalls runId 0 eligible := by
  obtain ⟨verified, scanned, chosen, eligible_ne, sparked⟩ := entered
  have only_loop : (replies.loopCalls runId 0 eligible).filter (·.2.isAboutPartition) =
      replies.loopCalls runId 0 eligible :=
    List.filter_eq_self.mpr (replies.loopCalls_aboutPartition runId 0 eligible)
  have choose := chosen
  unfold choosePartitions at choose
  simp only [runCycle, runCompactionCycle, ask, Program.perform_bind, Program.runWith_call, handle,
    verified, afterVerify, scanned, afterScan]
  cases aimed : targetPartition.filter (· != "") with
  | some target =>
      simp only [aimed, Option.map_eq_some_iff, Prod.mk.injEq] at choose
      obtain ⟨found, found_eq, rfl, rfl⟩ := choose
      obtain ⟨turn, run⟩ := runWith_compactEligible eligible_ne sparked runId 0 _ _
      simp only [found_eq]
      refine ⟨_, run, ?_⟩
      simpa [CycleLog.partitionCalls, CycleLog.add, CycleCall.isAboutPartition] using only_loop
  | none =>
      simp only [aimed, Option.some.injEq, Prod.mk.injEq] at choose
      obtain ⟨rfl, rfl⟩ := choose
      obtain ⟨turn, run⟩ := runWith_compactEligible eligible_ne sparked runId _ _ _
      simp only [Program.runWith_call, handle]
      refine ⟨_, run, ?_⟩
      simpa [CycleLog.partitionCalls, CycleLog.add, CycleCall.isAboutPartition] using only_loop

/-- What follows the loop makes no call about a partition. -/
theorem partitionCalls_afterLoop (replies : CycleReplies)
    (result : CompactionRunMetrics × Option PyException) (log : CycleLog) :
    ((afterLoop result).runWith replies.handle log).2.partitionCalls = log.partitionCalls := by
  obtain ⟨metrics, ends⟩ := result
  cases ends with
  | none =>
      simp [afterLoop, finalizeRun, ask, handle, CycleLog.add, CycleLog.partitionCalls,
        CycleCall.isAboutPartition]
  | some exc =>
      cases kind : exc.isCompactionError <;>
        simp [afterLoop, handleFailure, finalizeRun, ask, handle, CycleLog.add,
          CycleLog.partitionCalls, CycleCall.isAboutPartition, kind]

/-! ## Attempts -/

/-- Some step of the turn raises. -/
def FailsAt (replies : CycleReplies) (turn : Nat) (stats : PartitionStats) : Prop :=
  (∃ exc, replies.acquire turn = .error exc) ∨
    replies.acquire turn = .ok true ∧
      ((∃ exc, replies.compactPartition turn stats = .error exc) ∨
        ∃ exc, replies.release turn = .error exc)

/-- The run asks for the lock of the partition and, if it gets it, has it compacted. -/
def Attempted (replies : CycleReplies) (log : CycleLog) (runId : String) (turn : Nat)
    (stats : PartitionStats) : Prop :=
  (turn, .acquire stats.partitionId runId) ∈ log.calls ∧
    (replies.acquire turn = .ok true → (turn, .compactPartition stats) ∈ log.calls)

theorem failsAt_of_escaped {turn : Nat} (left : replies.escaped turn ≠ none)
    (stats : PartitionStats) : replies.FailsAt turn stats := by
  unfold escaped at left
  unfold FailsAt
  cases acquired : replies.acquire turn with
  | error exc => exact .inl ⟨exc, rfl⟩
  | ok granted =>
      cases granted with
      | false => simp [acquired] at left
      | true =>
          cases released : replies.release turn with
          | error exc => exact .inr ⟨rfl, .inr ⟨exc, rfl⟩⟩
          | ok done => simp [acquired, released] at left

/-- The loop makes the calls of a turn exactly when no exception escaped before it. -/
theorem mem_loopCalls (replies : CycleReplies) (runId : String) (call : CycleCall) (index : Nat)
    {parts : List PartitionStats} (nonempty : ∀ stats ∈ parts, stats.fileCount ≠ 0) (turn : Nat) :
    (index, call) ∈ replies.loopCalls runId turn parts ↔
      ∃ offset, ∃ within : offset < parts.length, index = turn + offset ∧
        (∀ earlier < offset, replies.escaped (turn + earlier) = none) ∧
        (index, call) ∈ replies.turnCalls runId index parts[offset] := by
  have tagged : ∀ (turn : Nat) (stats : PartitionStats),
      (index, call) ∈ replies.turnCalls runId turn stats → index = turn := by
    intro turn stats member
    have tags : ∀ entry ∈ replies.turnCalls runId turn stats, entry.1 = turn := by
      simp only [turnCalls]
      split <;> simp
    exact tags _ member
  induction parts generalizing turn with
  | nil => simp [loopCalls]
  | cons stats rest ih =>
      have here : stats.fileCount ≠ 0 := nonempty stats List.mem_cons_self
      have later := ih (fun other member => nonempty other (List.mem_cons_of_mem stats member))
        (turn + 1)
      simp only [loopCalls, here, if_false, List.mem_append]
      constructor
      · rintro (first | rest_mem)
        · obtain rfl := tagged turn stats first
          exact ⟨0, by simp, by simp, by simp, by simpa using first⟩
        · cases ends : replies.escaped turn with
          | some exc => simp [ends] at rest_mem
          | none =>
              simp only [ends, Option.isSome_none, Bool.false_eq_true, if_false] at rest_mem
              obtain ⟨offset, within, at_index, before, member⟩ := later.mp rest_mem
              refine ⟨offset + 1, by simpa using within, by omega, ?_, by simpa using member⟩
              intro earlier earlier_lt
              cases earlier with
              | zero => simpa using ends
              | succ earlier =>
                  have := before earlier (by omega)
                  rwa [show turn + 1 + earlier = turn + (earlier + 1) by omega] at this
      · rintro ⟨offset, within, at_index, before, member⟩
        cases offset with
        | zero =>
            obtain rfl : index = turn := by simpa using at_index
            exact .inl (by simpa using member)
        | succ offset =>
            have ends : replies.escaped turn = none := by simpa using before 0 (by omega)
            simp only [ends, Option.isSome_none, Bool.false_eq_true, if_false]
            refine .inr (later.mpr ⟨offset, by simpa using within, by omega, ?_,
              by simpa using member⟩)
            intro earlier earlier_lt
            rw [show turn + 1 + earlier = turn + (earlier + 1) by omega]
            exact before (earlier + 1) (by omega)

theorem attempted_iff
    (entered : replies.EntersLoop config targetPartition allPartitions eligible skippedCount)
    (nonempty : ∀ stats ∈ eligible, stats.files ≠ []) (runId : String) (started : Int)
    {turn : Nat} (within : turn < eligible.length) :
    replies.Attempted (replies.runCycle config targetPartition runId started).2 runId turn
        eligible[turn] ↔
      ∀ earlier < turn, replies.escaped earlier = none := by
  have counts : ∀ stats ∈ eligible, stats.fileCount ≠ 0 := fun stats member empty =>
    nonempty stats member (List.length_eq_zero_iff.mp empty)
  obtain ⟨log, run, loop_calls⟩ := runCycle_of_entersLoop entered runId started
  have calls_eq : (replies.runCycle config targetPartition runId started).2.partitionCalls =
      replies.loopCalls runId 0 eligible := by
    rw [run, partitionCalls_afterLoop, loop_calls]
  have in_run : ∀ call : CycleCall, call.isAboutPartition = true →
      ((turn, call) ∈ (replies.runCycle config targetPartition runId started).2.calls ↔
        (turn, call) ∈ replies.loopCalls runId 0 eligible) := by
    intro call about
    rw [← calls_eq, CycleLog.partitionCalls, List.mem_filter]
    simp [about]
  unfold Attempted
  rw [in_run _ rfl, in_run _ rfl, replies.mem_loopCalls runId _ turn counts,
    replies.mem_loopCalls runId _ turn counts]
  constructor
  · rintro ⟨⟨offset, -, at_turn, before, -⟩, -⟩
    obtain rfl : turn = offset := by simpa using at_turn
    simpa using before
  · intro before
    refine ⟨⟨turn, within, by simp, by simpa using before, by simp [turnCalls]⟩, ?_⟩
    intro acquired
    exact ⟨turn, within, by simp, by simpa using before, by simp [turnCalls, acquired]⟩

/-- A failing partition leaves all others attempted exactly when no acquire or release raises
before the last one. -/
theorem others_attempted_iff
    (entered : replies.EntersLoop config targetPartition allPartitions eligible skippedCount)
    (nonempty : ∀ stats ∈ eligible, stats.files ≠ []) (runId : String) (started : Int) :
    (∀ bad, ∀ bad_lt : bad < eligible.length, replies.FailsAt bad eligible[bad] →
        ∀ other, ∀ other_lt : other < eligible.length, other ≠ bad →
          replies.Attempted (replies.runCycle config targetPartition runId started).2 runId other
            eligible[other]) ↔
      ∀ turn, turn + 1 < eligible.length → replies.escaped turn = none := by
  constructor
  · intro isolated turn next_lt
    by_contra left
    have attempted := isolated turn (by omega) (failsAt_of_escaped left _) (turn + 1) next_lt
      (by omega)
    exact left ((attempted_iff entered nonempty runId started next_lt).mp attempted turn (by omega))
  · intro stays bad bad_lt fails other other_lt other_ne
    refine (attempted_iff entered nonempty runId started other_lt).mpr ?_
    intro earlier earlier_lt
    exact stays earlier (by omega)

/-! ### A lock which cannot be read -/

/-- One small file of each of two hours. -/
def hourStats (hour : Int) : PartitionStats where
  eventDate := "2024-06-11"
  eventHour := hour
  files := [{ key := "raw/events/part-0.parquet", sizeBytes := 1000, lastModified := 0 }]

/-- A single file makes a partition eligible. -/
def eagerConfig : CompactionConfig :=
  { smallFileCountThreshold := 0 }

/-- The stored lock of the first partition is not JSON; everything else succeeds. -/
def unreadableLock : CycleReplies where
  verifyDeltaTableExists := .ok ()
  scanPartitions := .ok [hourStats 10, hourStats 11]
  selectionClock := fun _ => hours 1
  createSparkSession := .ok ()
  acquire := fun turn =>
    if turn = 0 then
      .error
        { type := .other "JSONDecodeError"
          message := "Expecting value: line 1 column 1 (char 0)" }
    else
      .ok true
  compactPartition := fun _ stats =>
    .ok
      ⟨{ partitionId := stats.partitionId
         filesBefore := stats.fileCount
         filesAfter := 1
         bytesBefore := stats.totalBytes
         bytesAfter := stats.totalBytes
         durationMillis := 0
         method := .zorderInspired }, ⟨rfl, rfl, rfl⟩⟩
  release := fun _ => .ok ()
  now := hours 1

theorem unreadableLock_entersLoop :
    unreadableLock.EntersLoop eagerConfig none [hourStats 10, hourStats 11]
      [hourStats 10, hourStats 11] 0 where
  verified := rfl
  scanned := rfl
  chosen := by decide
  eligible_ne := by simp
  started := rfl

theorem others_attempted_iff_unreadableLock :
    (∀ bad, ∀ bad_lt : bad < [hourStats 10, hourStats 11].length,
        unreadableLock.FailsAt bad [hourStats 10, hourStats 11][bad] →
        ∀ other, ∀ other_lt : other < [hourStats 10, hourStats 11].length, other ≠ bad →
          unreadableLock.Attempted (unreadableLock.runCycle eagerConfig none "run-1" 0).2 "run-1"
            other [hourStats 10, hourStats 11][other]) ↔
      ∀ turn, turn + 1 < [hourStats 10, hourStats 11].length →
        unreadableLock.escaped turn = none :=
  others_attempted_iff unreadableLock_entersLoop (by simp [hourStats]) "run-1" 0

/-- The unreadable lock of the first partition keeps the run from the second. -/
theorem unreadableLock_stops_run :
    unreadableLock.EntersLoop eagerConfig none [hourStats 10, hourStats 11]
        [hourStats 10, hourStats 11] 0 ∧
      unreadableLock.FailsAt 0 (hourStats 10) ∧
      ¬unreadableLock.Attempted (unreadableLock.runCycle eagerConfig none "run-1" 0).2 "run-1" 1
        (hourStats 11) := by
  refine ⟨unreadableLock_entersLoop, .inl ⟨_, rfl⟩, ?_⟩
  rintro ⟨requested, -⟩
  revert requested
  decide

/-! ## Accounts -/

/-- The partition of a turn is compacted. -/
def succeeds (replies : CycleReplies) (entry : PartitionStats × Nat) : Bool :=
  match replies.acquire entry.2, replies.compactPartition entry.2 entry.1 with
  | .ok true, .ok _ => true
  | _, _ => false

/-- The lock of a turn is held by another worker. -/
def conflicts (replies : CycleReplies) (entry : PartitionStats × Nat) : Bool :=
  match replies.acquire entry.2 with
  | .ok false => true
  | _ => false

/-- How part of the loop changes the metrics: `entries` are the partitions it works on, with
their turns, and `empties` is the number of partitions without files. -/
structure Accounted (replies : CycleReplies) (entries : List (PartitionStats × Nat))
    (empties : Nat) (before after : CompactionRunMetrics) : Prop where
  details : after.partitionDetails.map PartitionDetail.partitionId =
    before.partitionDetails.map PartitionDetail.partitionId ++
      (entries.filter replies.succeeds).map (·.1.partitionId)
  failed : after.failedPartitions.map FailedPartition.partitionId =
    before.failedPartitions.map FailedPartition.partitionId ++
      (entries.filter (!replies.succeeds ·)).map (·.1.partitionId)
  compacted : after.compactedPartitions =
    before.compactedPartitions + (entries.filter replies.succeeds).length
  lockConflicts : after.lockConflicts =
    before.lockConflicts + (entries.filter replies.conflicts).length
  eligible : after.eligiblePartitions = before.eligiblePartitions - empties
  skipped : after.skippedPartitions = before.skippedPartitions + empties
  scanned : after.partitionsScanned = before.partitionsScanned

theorem Accounted.refl (replies : CycleReplies) (metrics : CompactionRunMetrics) :
    replies.Accounted [] 0 metrics metrics := by
  constructor <;> simp

theorem Accounted.trans {first last : List (PartitionStats × Nat)} {empties empties' : Nat}
    {before middle after : CompactionRunMetrics}
    (left : replies.Accounted first empties before middle)
    (right : replies.Accounted last empties' middle after) :
    replies.Accounted (first ++ last) (empties + empties') before after where
  details := by rw [right.details, left.details]; simp
  failed := by rw [right.failed, left.failed]; simp
  compacted := by
    rw [right.compacted, left.compacted, List.filter_append, List.length_append]
    omega
  lockConflicts := by
    rw [right.lockConflicts, left.lockConflicts, List.filter_append, List.length_append]; omega
  eligible := by rw [right.eligible, left.eligible]; omega
  skipped := by rw [right.skipped, left.skipped]; omega
  scanned := right.scanned.trans left.scanned

theorem accounted_skipEmpty (replies : CycleReplies) (metrics : CompactionRunMetrics) :
    replies.Accounted [] 1 metrics metrics.skipEmpty := by
  constructor <;> simp [CompactionRunMetrics.skipEmpty]

/-- One iteration from which nothing escapes accounts for its partition. -/
theorem accounted_turnMetrics {turn : Nat} (stays : replies.escaped turn = none)
    (stats : PartitionStats) (metrics : CompactionRunMetrics) :
    replies.Accounted [(stats, turn)] 0 metrics (replies.turnMetrics turn stats metrics) := by
  unfold turnMetrics
  cases acquired : replies.acquire turn with
  | error exc => simp [escaped, acquired] at stays
  | ok granted =>
      cases granted with
      | false =>
          constructor <;> simp [succeeds, conflicts, acquired,
            CompactionRunMetrics.recordLockConflict, CompactionRunMetrics.recordFailed]
      | true =>
          cases outcome : replies.compactPartition turn stats with
          | error exc =>
              constructor <;> simp [succeeds, conflicts, acquired, outcome,
                CompactionRunMetrics.recordOutcome, CompactionRunMetrics.addBefore,
                CompactionRunMetrics.recordFailed]
          | ok part =>
              constructor <;> simp [succeeds, conflicts, acquired, outcome,
                CompactionRunMetrics.recordOutcome, CompactionRunMetrics.addBefore,
                CompactionRunMetrics.recordCompacted, PartitionDetail.partitionId,
                part.property.partitionId]

/-- The partitions that the loop works on. -/
def withFiles (parts : List PartitionStats) : List PartitionStats :=
  parts.filter fun stats => stats.fileCount ≠ 0

/-- A relation on metrics which survives skipping an empty partition, and an iteration from which
nothing escapes, holds across a loop from which nothing escapes. -/
theorem loopMetrics_related
    {related : List (PartitionStats × Nat) → Nat → CompactionRunMetrics → CompactionRunMetrics →
      Prop}
    (refl : ∀ metrics, related [] 0 metrics metrics)
    (skip : ∀ {entries empties metrics after}, related entries empties metrics.skipEmpty after →
      related entries (empties + 1) metrics after)
    (iterate : ∀ {turn stats entries empties metrics after}, replies.escaped turn = none →
      related entries empties (replies.turnMetrics turn stats metrics) after →
        related ((stats, turn) :: entries) empties metrics after)
    (parts : List PartitionStats) (turn : Nat) (metrics : CompactionRunMetrics)
    (stays : ∀ offset < (withFiles parts).length, replies.escaped (turn + offset) = none) :
    (replies.loopMetrics turn parts metrics).2 = none ∧
      related ((withFiles parts).zipIdx turn) (parts.length - (withFiles parts).length) metrics
        (replies.loopMetrics turn parts metrics).1 := by
  induction parts generalizing turn metrics with
  | nil => exact ⟨rfl, refl metrics⟩
  | cons stats rest ih =>
      have rest_le : (withFiles rest).length ≤ rest.length := List.length_filter_le _ _
      by_cases empty : stats.fileCount = 0
      · have present : withFiles (stats :: rest) = withFiles rest := by simp [withFiles, empty]
        rw [present] at stays ⊢
        obtain ⟨ends, later⟩ := ih turn metrics.skipEmpty stays
        simp only [loopMetrics, empty, if_true]
        refine ⟨ends, ?_⟩
        have both := skip later
        rwa [show rest.length - (withFiles rest).length + 1 =
          (stats :: rest).length - (withFiles rest).length by simp only [List.length_cons]; omega]
          at both
      · have present : withFiles (stats :: rest) = stats :: withFiles rest := by
          simp [withFiles, empty]
        rw [present] at stays ⊢
        have here : replies.escaped turn = none := by simpa using stays 0 (by simp)
        have later : ∀ offset < (withFiles rest).length,
            replies.escaped (turn + 1 + offset) = none := by
          intro offset offset_lt
          rw [show turn + 1 + offset = turn + (offset + 1) by omega]
          exact stays (offset + 1) (by simpa using offset_lt)
        obtain ⟨ends, later⟩ := ih (turn + 1) (replies.turnMetrics turn stats metrics) later
        simp only [loopMetrics, empty, if_false, here]
        refine ⟨ends, ?_⟩
        simpa using iterate here later

/-- A loop from which nothing escapes accounts for all its partitions. -/
theorem accounted_loopMetrics (parts : List PartitionStats) (turn : Nat)
    (metrics : CompactionRunMetrics)
    (stays : ∀ offset < (withFiles parts).length, replies.escaped (turn + offset) = none) :
    (replies.loopMetrics turn parts metrics).2 = none ∧
      replies.Accounted ((withFiles parts).zipIdx turn)
        (parts.length - (withFiles parts).length) metrics
        (replies.loopMetrics turn parts metrics).1 := by
  apply loopMetrics_related (Accounted.refl replies)
  · intro entries empties metrics after later
    have both := (accounted_skipEmpty replies metrics).trans later
    rwa [List.nil_append, Nat.add_comm] at both
  · intro turn stats entries empties metrics after here later
    simpa using (accounted_turnMetrics here stats metrics).trans later
  · exact stays

/-- A run which nothing ends before the end of its loop returns the metrics of the loop. -/
theorem runCycle_of_loop_ends
    (entered : replies.EntersLoop config targetPartition allPartitions eligible skippedCount)
    (runId : String) (started : Int)
    (ends : (replies.loopMetrics 0 eligible
      (entryMetrics config runId started allPartitions eligible skippedCount)).2 = none) :
    (replies.runCycle config targetPartition runId started).1 =
      .ok ((replies.loopMetrics 0 eligible
        (entryMetrics config runId started allPartitions eligible skippedCount)).1.markComplete
          replies.now) := by
  obtain ⟨log, run, -⟩ := runCycle_of_entersLoop entered runId started
  rcases loop : replies.loopMetrics 0 eligible
    (entryMetrics config runId started allPartitions eligible skippedCount) with ⟨final, escape⟩
  rw [loop] at run ends
  obtain rfl : escape = none := ends
  rw [run]
  simp [afterLoop, finalizeRun, ask, handle]

/-- At the end of its loop a run has entered every eligible partition with files once, in order,
into exactly one of its two lists, and the counters agree with the lists. -/
theorem every_partition_accounted
    (entered : replies.EntersLoop config targetPartition allPartitions eligible skippedCount)
    (stays : ∀ turn < (withFiles eligible).length, replies.escaped turn = none)
    (runId : String) (started : Int) :
    ∃ metrics, (replies.runCycle config targetPartition runId started).1 = .ok metrics ∧
      metrics.partitionDetails.map PartitionDetail.partitionId =
        ((withFiles eligible).zipIdx.filter replies.succeeds).map (·.1.partitionId) ∧
      metrics.failedPartitions.map FailedPartition.partitionId =
        ((withFiles eligible).zipIdx.filter (!replies.succeeds ·)).map (·.1.partitionId) ∧
      metrics.compactedPartitions = metrics.partitionDetails.length ∧
      metrics.compactedPartitions + metrics.failedPartitions.length = metrics.eligiblePartitions ∧
      metrics.lockConflicts = ((withFiles eligible).zipIdx.filter replies.conflicts).length ∧
      (targetPartition.filter (· != "") = none →
        metrics.eligiblePartitions + metrics.skippedPartitions = metrics.partitionsScanned) := by
  obtain ⟨ends, accounted⟩ := accounted_loopMetrics eligible 0
    (entryMetrics config runId started allPartitions eligible skippedCount) (by simpa using stays)
  have run := runCycle_of_loop_ends entered runId started ends
  have chosen := entered.chosen
  generalize (replies.loopMetrics 0 eligible
    (entryMetrics config runId started allPartitions eligible skippedCount)).1 = final
    at run accounted
  have fewer : (withFiles eligible).length ≤ eligible.length := List.length_filter_le _ _
  have details := accounted.details
  have failed := accounted.failed
  have compacted := accounted.compacted
  have conflicts := accounted.lockConflicts
  have eligible_eq := accounted.eligible
  have skipped_eq := accounted.skipped
  have scanned_eq := accounted.scanned
  simp only [entryMetrics, List.map_nil, List.nil_append] at details failed
  simp only [entryMetrics, Int.zero_add] at compacted conflicts eligible_eq skipped_eq scanned_eq
  have details_length : final.partitionDetails.length =
      ((withFiles eligible).zipIdx.filter replies.succeeds).length := by
    simpa using congrArg List.length details
  have failed_length : final.failedPartitions.length =
      ((withFiles eligible).zipIdx.filter (!replies.succeeds ·)).length := by
    simpa using congrArg List.length failed
  have both_sides : (withFiles eligible).length =
      ((withFiles eligible).zipIdx.filter replies.succeeds).length +
        ((withFiles eligible).zipIdx.filter (!replies.succeeds ·)).length := by
    have numbered : (withFiles eligible).length = (withFiles eligible).zipIdx.length := by simp
    rw [numbered]
    exact List.length_eq_length_filter_add _
  refine ⟨final.markComplete replies.now, run, details, failed, ?_, ?_, conflicts, ?_⟩
  · rw [CompactionRunMetrics.markComplete, compacted, details_length]
  · simp only [CompactionRunMetrics.markComplete]
    omega
  · intro untargeted
    have sides : eligible.length + skippedCount = allPartitions.length := by
      simp only [choosePartitions, untargeted, Option.some.injEq, Prod.mk.injEq] at chosen
      obtain ⟨rfl, rfl⟩ := chosen
      exact selectPartitions_length _ _ _
    simp only [CompactionRunMetrics.markComplete]
    omega

/-- The first partition is compacted, the second returns no rows. -/
def secondEmpty : CycleReplies :=
  { unreadableLock with
    acquire := fun _ => .ok true
    compactPartition := fun turn stats =>
      if turn = 0 then unreadableLock.compactPartition turn stats
      else
        .error (.emptyPartitionError
          ("Partition " ++ stats.partitionId ++ " returned no rows from Delta read")) }

theorem secondEmpty_entersLoop :
    secondEmpty.EntersLoop eagerConfig none [hourStats 10, hourStats 11]
      [hourStats 10, hourStats 11] 0 :=
  ⟨rfl, rfl, unreadableLock_entersLoop.chosen, by simp, rfl⟩

theorem every_partition_accounted_secondEmpty :
    ∃ metrics, (secondEmpty.runCycle eagerConfig none "run-1" 0).1 = .ok metrics ∧
      metrics.partitionDetails.map PartitionDetail.partitionId =
        ["event_date=2024-06-11/event_hour=10"] ∧
      metrics.failedPartitions.map FailedPartition.partitionId =
        ["event_date=2024-06-11/event_hour=11"] ∧
      metrics.compactedPartitions + metrics.failedPartitions.length =
        metrics.eligiblePartitions := by
  have stays : ∀ turn < (withFiles [hourStats 10, hourStats 11]).length,
      secondEmpty.escaped turn = none := fun _ _ => rfl
  obtain ⟨metrics, run, details, failed, -, sum, -⟩ :=
    every_partition_accounted secondEmpty_entersLoop stays "run-1" 0
  exact ⟨metrics, run, details.trans (by decide), failed.trans (by decide), sum⟩

end CycleReplies

end Lakehouse
