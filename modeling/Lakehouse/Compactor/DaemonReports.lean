import Lakehouse.Compactor.CycleAccounts
import Lakehouse.Compactor.DaemonRun
import Lakehouse.Compactor.MetricsFile
import Mathlib.Data.List.ReduceOption

/-!
# The summaries of a daemon

What a cycle writes into the metrics file is what it returns, or the error it ends with.  Read back
line by line, the file tells what became of each cycle of a daemon.
-/

namespace Lakehouse

open Foundation

/-! ## The summary of a cycle -/

/-- What has been written, and what the table check has raised. -/
structure Summaries where
  checkFailed : Option PyException := none
  written : List CompactionRunMetrics := []

def Summaries.after (summaries : Summaries) :
    (request : CycleCall) → CycleReply request → Summaries
  | .verifyDeltaTableExists, .error exc => { summaries with checkFailed := some exc }
  | .writeRunSummary metrics, _ => { summaries with written := summaries.written ++ [metrics] }
  | _, _ => summaries

def summaryProtocol : Program.Protocol CycleCall CycleReply Summaries where
  permits _ _ := True
  next := Summaries.after

/-- Which run the metrics are about. -/
def CompactionRunMetrics.identity (metrics : CompactionRunMetrics) : String × String × Int :=
  (metrics.runId, metrics.tablePath, metrics.startedAt)

/-- What a cycle has written when it returns or raises. -/
def Summarised (identity : String × String × Int) :
    Except PyException CompactionRunMetrics → Summaries → Prop
  | .ok metrics, summaries => summaries.written = [metrics] ∧ metrics.identity = identity
  | .error exc, summaries =>
      summaries.written = [] ∧ summaries.checkFailed = some exc ∧ exc.type ≠ .tableNotFoundError ∨
        ∃ metrics, summaries.written = [metrics] ∧ metrics.identity = identity ∧
          metrics.error = some exc.message

/-- The program ends with the summary of the run. -/
abbrev Summarises (identity : String × String × Int)
    (program : CycleProgram CompactionRunMetrics) (summaries : Summaries) : Prop :=
  program.FollowsTo summaryProtocol (Summarised identity) summaries

section Cycle

variable {identity : String × String × Int} {metrics : CompactionRunMetrics}
  {checkFailed : Option PyException}

theorem summarises_finalizeRun (own : metrics.identity = identity) :
    Summarises identity (finalizeRun metrics) { checkFailed } :=
  ⟨trivial, fun _ => ⟨trivial, fun _ => ⟨rfl, own⟩⟩⟩

theorem summarises_handleFailure (own : metrics.identity = identity) (exc : PyException)
    (sparkStarted : Bool) :
    Summarises identity (handleFailure metrics exc sparkStarted) { checkFailed } := by
  refine ⟨trivial, fun finished => ⟨trivial, fun done => ?_⟩⟩
  let complete := { metrics with error := some exc.message }.markComplete finished
  have returns : Summarised identity (.ok complete) { checkFailed, written := [complete] } :=
    ⟨rfl, own⟩
  have raises : Summarised identity (.error exc) { checkFailed, written := [complete] } :=
    .inr ⟨complete, rfl, own, rfl⟩
  have ends : Summarises identity
      (if exc.isCompactionError = true then return complete else Program.raise exc)
      { checkFailed, written := [complete] } := by
    split
    · exact returns
    · exact raises
  cases sparkStarted with
  | false => exact ends
  | true => exact ⟨trivial, fun _ => ends⟩

theorem summarises_afterLoop (own : metrics.identity = identity) (ends : Option PyException) :
    Summarises identity (afterLoop (metrics, ends)) { checkFailed } := by
  cases ends with
  | some exc => exact summarises_handleFailure own exc true
  | none => exact ⟨trivial, fun _ => ⟨trivial, fun _ => ⟨trivial, fun _ => ⟨rfl, own⟩⟩⟩⟩

theorem identity_recordOutcome (metrics : CompactionRunMetrics) (stats : PartitionStats)
    (outcome : Except PyException (CompactionOf stats)) :
    ((metrics.addBefore stats).recordOutcome stats outcome).identity = metrics.identity := by
  cases outcome <;> rfl

theorem summarises_compactEach (runId : String) (parts : List PartitionStats)
    (own : metrics.identity = identity) :
    Summarises identity (compactEach runId parts metrics >>= afterLoop) { checkFailed } := by
  induction parts generalizing metrics with
  | nil => exact summarises_afterLoop own none
  | cons stats rest ih =>
      rw [compactEach, Program.bind_assoc, compactOne]
      split
      · exact ih own
      · refine ⟨trivial, fun reply => ?_⟩
        rcases reply with exc | (_ | _)
        · exact summarises_afterLoop own (some exc)
        · exact ih own
        · refine ⟨trivial, fun outcome => ⟨trivial, fun released => ?_⟩⟩
          have kept := (identity_recordOutcome metrics stats outcome).trans own
          cases released with
          | error exc => exact summarises_afterLoop kept (some exc)
          | ok done => exact ih kept

theorem summarises_compactEligible (runId : String) (eligible : List PartitionStats)
    (skippedCount : Nat) (own : metrics.identity = identity) :
    Summarises identity (compactEligible runId eligible skippedCount metrics) { checkFailed } := by
  have kept : ({ metrics with
      eligiblePartitions := eligible.length
      skippedPartitions := skippedCount } : CompactionRunMetrics).identity = identity := own
  rw [compactEligible]
  split
  · exact summarises_finalizeRun kept
  · refine ⟨trivial, fun reply => ?_⟩
    cases reply with
    | ok done => exact summarises_compactEach runId eligible kept
    | error exc =>
        show Summarises identity (afterSession runId eligible _ (.error exc)) _
        rw [afterSession]
        split
        · exact summarises_finalizeRun kept
        · exact summarises_handleFailure kept exc false

/-- A cycle which returns has written what it returns, and nothing else; one which raises has
written its error, unless the table check has raised. -/
theorem summarises_runCompactionCycle (config : CompactionConfig)
    (targetPartition : Option String) (runId : String) (started : Int) :
    Summarises (runId, config.deltaTablePath, started)
      (runCompactionCycle config targetPartition runId started) {} := by
  refine ⟨trivial, fun verified => ?_⟩
  cases verified with
  | error exc =>
      show Summarises _ (afterVerify config targetPartition runId _ (.error exc)) _
      rw [afterVerify]
      split
      · exact summarises_finalizeRun rfl
      · rename_i other
        exact .inl ⟨rfl, rfl, other⟩
  | ok found =>
      refine ⟨trivial, fun scanned => ?_⟩
      cases scanned with
      | error exc => exact summarises_handleFailure rfl exc false
      | ok partitions =>
          show Summarises _ (afterScan config targetPartition runId _ (.ok partitions)) _
          simp only [afterScan]
          split
          · split
            · exact summarises_finalizeRun rfl
            · exact summarises_compactEligible runId _ 0 rfl
          · exact ⟨trivial, fun clock => summarises_compactEligible runId _ _ rfl⟩

end Cycle

/-! ## The metrics file of a daemon -/

/-- A daemon with a metrics file; what else happens in its cycles is left to a handler. -/
structure ReportingDaemon (σ : Type) extends DaemonTiming where
  config : CompactionConfig
  runId : Nat → String
  started : Nat → Int
  handle : Nat → (request : CycleCall) → σ → CycleReply request × σ

/-- What the record of a cycle says of its outcome. -/
def Tells (identity : String × String × Int) (record : Option CompactionRunMetrics) :
    Except PyException CompactionRunMetrics → Prop
  | .ok metrics => record = some metrics ∧ metrics.identity = identity
  | .error exc =>
      record = none ∧ exc.type ≠ .tableNotFoundError ∨
        ∃ metrics, record = some metrics ∧ metrics.identity = identity ∧
          metrics.error = some exc.message

namespace ReportingDaemon

variable {σ : Type} (daemon : ReportingDaemon σ)

def identity (number : Nat) : String × String × Int :=
  (daemon.runId number, daemon.config.deltaTablePath, daemon.started number)

/-- One cycle on the world and the metrics file. -/
def cycle (number : Nat) (state : σ × Option (List Char)) :
    Except PyException CompactionRunMetrics × (σ × Option (List Char)) :=
  let result := (runCompactionCycle daemon.config none (daemon.runId number)
    (daemon.started number)).runWith
      (Program.observing (daemon.handle number) summaryProtocol) (state.1, {})
  (result.1,
    (result.2.1,
      result.2.2.written.foldl (fun file metrics => writeRunSummary metrics file) state.2))

def surroundings : DaemonSurroundings (σ × Option (List Char)) where
  toDaemonTiming := daemon.toDaemonTiming
  cycle := daemon.cycle

/-- The file holds one record for each cycle, in their order, unless a table check has raised. -/
def Reports (values : List Json.Value) (outcomes : List (Except PyException CompactionRunMetrics))
    (file : Option (List Char)) : Prop :=
  ∃ records : List (Option CompactionRunMetrics),
    records.length = outcomes.length ∧
      (∀ number outcome record, outcomes[number]? = some outcome →
        records[number]? = some record → Tells (daemon.identity number) record outcome) ∧
      Json.Records file (values ++ records.reduceOption.map CompactionRunMetrics.toDict)

/-- What one cycle adds to the file. -/
theorem cycle_record (number : Nat) (state : σ × Option (List Char)) :
    ∃ record, Tells (daemon.identity number) record (daemon.cycle number state).1 ∧
      (daemon.cycle number state).2.2 =
        record.toList.foldl (fun file metrics => writeRunSummary metrics file) state.2 := by
  have summarised := Program.final_of_followsTo (daemon.handle number)
    (summarises_runCompactionCycle daemon.config none (daemon.runId number)
      (daemon.started number)) state.1
  simp only [cycle]
  generalize (runCompactionCycle daemon.config none (daemon.runId number)
    (daemon.started number)).runWith
      (Program.observing (daemon.handle number) summaryProtocol) (state.1, {}) = result
      at summarised ⊢
  obtain ⟨outcome, world, summaries⟩ := result
  cases outcome with
  | ok metrics =>
      obtain ⟨written, own⟩ := summarised
      exact ⟨some metrics, ⟨rfl, own⟩, by rw [written]; rfl⟩
  | error exc =>
      rcases summarised with ⟨written, -, other⟩ | ⟨metrics, written, own, error_eq⟩
      · exact ⟨none, .inl ⟨rfl, other⟩, by rw [written]; rfl⟩
      · exact ⟨some metrics, .inr ⟨metrics, rfl, own, error_eq⟩, by rw [written]; rfl⟩

variable {daemon}

theorem Reports.cycle {values : List Json.Value}
    {outcomes : List (Except PyException CompactionRunMetrics)}
    {state : σ × Option (List Char)} (reports : daemon.Reports values outcomes state.2) :
    daemon.Reports values (outcomes ++ [(daemon.cycle outcomes.length state).1])
      (daemon.cycle outcomes.length state).2.2 := by
  obtain ⟨records, length, told, read⟩ := reports
  obtain ⟨record, tells, file_eq⟩ := daemon.cycle_record outcomes.length state
  refine ⟨records ++ [record], by simp [length], fun number outcome other found found' => ?_, ?_⟩
  · rcases DaemonSurroundings.getElem?_concat_eq_some found with ⟨less, earlier⟩ | ⟨rfl, rfl⟩
    · rw [List.getElem?_append_left (length ▸ less)] at found'
      exact told number outcome other earlier found'
    · rw [← length, List.getElem?_concat_length] at found'
      obtain rfl := Option.some.inj found'
      exact tells
  · rw [file_eq]
    cases record with
    | none => simpa [List.reduceOption_append] using read
    | some metrics =>
        simpa [List.reduceOption_append, writeRunSummary] using read.append metrics.toDict

theorem reports_runCycles (daemon : ReportingDaemon σ) (count : Nat)
    {state : σ × Option (List Char)} {values : List Json.Value}
    (start : Json.Records state.2 values) :
    daemon.Reports values (daemon.surroundings.runCycles count state).1
      (daemon.surroundings.runCycles count state).2.2 := by
  induction count with
  | zero => exact ⟨[], rfl, by simp, by
      simpa [DaemonSurroundings.runCycles, List.reduceOption_nil] using start⟩
  | succ count ih =>
      have next := ih.cycle
      rwa [DaemonSurroundings.length_runCycles] at next

/-- After any number of rounds of a daemon, whatever happens in its cycles and whenever a signal
comes, the lines of the metrics file read back as those it had before and then one record for each
cycle: what the cycle returned, or the error it ended with.  Only a cycle whose table check raised
something other than `TableNotFoundError` has left no record. -/
theorem daemon_reports (daemon : ReportingDaemon σ) (intervalSeconds : Int) (count : Nat)
    {world : σ} {file : Option (List Char)} {values : List Json.Value}
    (start : Json.Records file values) :
    daemon.Reports values
      (daemon.surroundings.run intervalSeconds count (world, file)).2.outcomes
      (daemon.surroundings.run intervalSeconds count (world, file)).2.state.2 := by
  obtain ⟨-, reached⟩ := daemon.surroundings.reached_run intervalSeconds count (world, file)
  obtain ⟨outcomes_eq, state_eq⟩ := Prod.mk.inj reached.cycles
  rw [outcomes_eq, state_eq]
  exact reports_runCycles daemon _ start

/-- The storage does not answer in the second cycle. -/
def watchReports : ReportingDaemon CycleLog where
  toDaemonTiming := steadyTiming (some 5)
  config := CycleReplies.eagerConfig
  runId number := String.ofList (List.replicate number 'x')
  started _ := 0
  handle number :=
    if number = 1 then CycleReplies.unreachableStore.handle else CycleReplies.secondEmpty.handle

theorem daemon_reports_watch :
    watchReports.Reports [] (watchReports.surroundings.run 3600 4 ({}, none)).2.outcomes
      (watchReports.surroundings.run 3600 4 ({}, none)).2.state.2 :=
  daemon_reports watchReports 3600 4 Json.records_none

end ReportingDaemon

end Lakehouse
