import Lakehouse.Compactor.CompactionDaemon

/-!
# The phases of a cycle

The order in which an untargeted cycle makes its calls: it plans from one scan, and between the
lock of a partition and its release it compacts this partition only.
-/

namespace Lakehouse

open Foundation

/-- How far a cycle has come. -/
inductive CyclePhase
  | fresh
  | scanned (partitions : List PartitionStats)
  /-- The partitions to compact, and the id of the one whose lock was granted. -/
  | planned (plan : List PartitionStats) (locked : Option String)

namespace CyclePhase

def permits (phase : CyclePhase) : CycleCall → Prop
  | .scanPartitions => phase = .fresh
  | .selectionClock => ∃ partitions, phase = .scanned partitions
  | .acquire partitionId _ =>
      ∃ plan, phase = .planned plan none ∧ ∃ stats ∈ plan, stats.partitionId = partitionId
  | .compactPartition stats =>
      ∃ plan, phase = .planned plan (some stats.partitionId) ∧ stats ∈ plan
  | .release partitionId => ∃ plan, phase = .planned plan (some partitionId)
  | _ => True

def next (config : CompactionConfig) :
    CyclePhase → (request : CycleCall) → CycleReply request → CyclePhase
  | _, .scanPartitions, .ok partitions => .scanned partitions
  | .scanned partitions, .selectionClock, clock =>
      .planned (selectPartitions (.fromConfig config) partitions clock).1 none
  | .planned plan _, .acquire partitionId _, .ok true => .planned plan (some partitionId)
  | .planned plan _, .release _, _ => .planned plan none
  | phase, _, _ => phase

end CyclePhase

/-- The protocol of an untargeted cycle. -/
def cycleProtocol (config : CompactionConfig) :
    Program.Protocol CycleCall CycleReply CyclePhase where
  permits := CyclePhase.permits
  next := CyclePhase.next config

variable {config : CompactionConfig} {phase : CyclePhase}

theorem follows_finalizeRun (metrics : CompactionRunMetrics) :
    (finalizeRun metrics).Follows (cycleProtocol config) phase :=
  ⟨trivial, fun _ => ⟨trivial, fun _ => trivial⟩⟩

theorem follows_handleFailure (metrics : CompactionRunMetrics) (exc : PyException)
    (sparkStarted : Bool) :
    (handleFailure metrics exc sparkStarted).Follows (cycleProtocol config) phase := by
  refine Program.follows_bind (follows_finalizeRun _) fun metrics later => ?_
  cases sparkStarted <;> cases exc.isCompactionError <;>
    simp [ask, Program.perform, Program.follows_call, cycleProtocol, CyclePhase.permits]

theorem follows_afterLoop (result : CompactionRunMetrics × Option PyException) :
    (afterLoop result).Follows (cycleProtocol config) phase := by
  obtain ⟨metrics, ends⟩ := result
  cases ends with
  | some exc => exact follows_handleFailure _ _ _
  | none =>
      refine Program.follows_bind (follows_finalizeRun _) fun metrics later => ?_
      exact ⟨trivial, fun _ => trivial⟩

/-- The loop locks, compacts and releases one planned partition after the other. -/
theorem follows_compactEach (runId : String) {plan parts : List PartitionStats}
    (planned : ∀ stats ∈ parts, stats ∈ plan) (metrics : CompactionRunMetrics) :
    (compactEach runId parts metrics >>= afterLoop).Follows (cycleProtocol config)
      (.planned plan none) := by
  induction parts generalizing metrics with
  | nil => exact follows_afterLoop (metrics, none)
  | cons stats rest ih =>
      have member := planned stats List.mem_cons_self
      have later := ih fun other inside => planned other (List.mem_cons_of_mem stats inside)
      rw [compactEach, Program.bind_assoc, compactOne]
      split
      · exact later metrics.skipEmpty
      · refine ⟨⟨plan, rfl, stats, member, rfl⟩, fun reply => ?_⟩
        match reply with
        | .error exc => exact follows_afterLoop (metrics, some exc)
        | .ok false => exact later _
        | .ok true =>
            refine ⟨⟨plan, rfl, member⟩, fun outcome => ⟨⟨plan, rfl⟩, fun released => ?_⟩⟩
            match released with
            | .error exc =>
                exact follows_afterLoop
                  ((metrics.addBefore stats).recordOutcome stats outcome, some exc)
            | .ok () => exact later _

theorem follows_compactEligible (runId : String) (eligible : List PartitionStats)
    (skippedCount : Nat) (metrics : CompactionRunMetrics) :
    (compactEligible runId eligible skippedCount metrics).Follows (cycleProtocol config)
      (.planned eligible none) := by
  rw [compactEligible]
  split
  · exact follows_finalizeRun _
  · refine ⟨trivial, fun reply => ?_⟩
    match reply with
    | .ok () => exact follows_compactEach runId (fun _ member => member) _
    | .error exc =>
        show (afterSession runId eligible _ (.error exc)).Follows _ _
        rw [afterSession]
        split
        · exact follows_finalizeRun _
        · exact follows_handleFailure _ _ _

/-- An untargeted cycle follows its protocol from the start. -/
theorem follows_runCompactionCycle (config : CompactionConfig) (runId : String) (started : Int) :
    (runCompactionCycle config none runId started).Follows (cycleProtocol config) .fresh := by
  refine ⟨trivial, fun verified => ?_⟩
  match verified with
  | .error exc =>
      show (afterVerify config none runId _ (.error exc)).Follows _ _
      rw [afterVerify]
      split
      · exact follows_finalizeRun _
      · trivial
  | .ok () =>
      refine ⟨rfl, fun scanned => ?_⟩
      match scanned with
      | .error exc => exact follows_handleFailure _ _ _
      | .ok partitions =>
          exact ⟨⟨partitions, rfl⟩, fun clock => follows_compactEligible _ _ _ _⟩

end Lakehouse
