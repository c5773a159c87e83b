import Mathlib.Data.Rat.Defs
import Mathlib.Algebra.Order.Ring.Rat
import Mathlib.Data.List.Chain
import Mathlib.Tactic.Linarith
import Lakehouse.Compactor.CompactionDaemon
import Lakehouse.Foundation.FloatRounding
import Lakehouse.Foundation.Loop

/-!
# The daemon

`run_daemon` as a loop over whole cycles.  A signal only clears the flag `_running`, so that signals
are told apart by the first read of the flag which comes after one of them.  The daemon outlives
whatever a cycle raises, and its cycles keep the interval, up to the rounding of floats and the
precision of the clock.
-/

namespace Lakehouse

open Foundation

/-- What the daemon logs about a cycle. -/
inductive DaemonReport
  | compactionCycleFailed (exitCode : Int) (runId : String)
  | unhandledError (exc : PyException)
  deriving DecidableEq

/-- The calls of `run_daemon`. -/
inductive DaemonCall
  /-- The value of `_running`. -/
  | running
  /-- `time.monotonic()`. -/
  | monotonic
  | runCompactionCycle
  | report (event : DaemonReport)
  | sleep (duration : ℚ)

abbrev DaemonReply : DaemonCall → Type
  | .running => Bool
  | .monotonic => ℚ
  | .runCompactionCycle => Except PyException CompactionRunMetrics
  | .report _ => Unit
  | .sleep _ => Unit

abbrev DaemonProgram := Program DaemonCall DaemonReply PyException

/-- What is logged about the outcome of a cycle. -/
def reportOf : Except PyException CompactionRunMetrics → Option DaemonReport
  | .ok metrics =>
      if metrics.exitCode = exitFailure then
        some (.compactionCycleFailed metrics.exitCode metrics.runId)
      else
        none
  | .error exc => some (.unhandledError exc)

def logOutcome (outcome : Except PyException CompactionRunMetrics) : DaemonProgram Unit :=
  match reportOf outcome with
  | some event => Program.perform (DaemonCall.report event)
  | none => return ()

/-- Sleep unless the daemon is to stop or is late. -/
def sleepIf (sleepFor : ℚ) (running : Bool) : DaemonProgram Unit :=
  if running = true ∧ 0 < sleepFor then
    Program.perform (DaemonCall.sleep sleepFor)
  else
    return ()

/-- The body of the loop. -/
def daemonCycle (intervalSeconds : Int) : DaemonProgram Unit := do
  let cycleStart ← Program.perform DaemonCall.monotonic
  let outcome ← Program.perform DaemonCall.runCompactionCycle
  logOutcome outcome
  let cycleEnd ← Program.perform DaemonCall.monotonic
  let elapsed := nearestFloat (cycleEnd - cycleStart)
  let running ← Program.perform DaemonCall.running
  sleepIf (max 0 (nearestFloat (nearestFloat intervalSeconds - elapsed))) running

/-- The body if the daemon is to go on; whether it is. -/
def continueIf (intervalSeconds : Int) (running : Bool) : DaemonProgram Bool :=
  if running = true then do
    daemonCycle intervalSeconds
    return true
  else
    return false

/-- One round of the loop. -/
def daemonRound (intervalSeconds : Int) : DaemonProgram Bool := do
  let running ← Program.perform DaemonCall.running
  continueIf intervalSeconds running

/-- `run_daemon` for a number of rounds at most; whether it is still running. -/
def runDaemon (intervalSeconds : Int) (count : Nat) : DaemonProgram Bool :=
  (daemonRound intervalSeconds).rounds count

/-- `time.sleep` takes at most 2^63 nanoseconds, 292 years, and raises `OverflowError` for more. -/
def longestSleep : Int := 9223372036

/-! ## Surroundings -/

/-- The signal and the clock of a daemon. -/
structure DaemonTiming where
  /-- The first read of `_running` after a signal. -/
  shutdown : Option Nat
  /-- What the clock shows at a time. -/
  clock : ℚ → ℚ
  /-- How far off the clock can be. -/
  precision : ℚ
  clock_mono : Monotone clock
  clock_near : ∀ time, |clock time - time| ≤ precision
  /-- The time which passes before a call, by the number of earlier calls. -/
  lag : Nat → ℚ
  lag_nonneg : ∀ calls, 0 ≤ lag calls

/-- What surrounds a daemon whose cycles act on some state; its sleeps do not raise. -/
structure DaemonSurroundings (σ : Type) extends DaemonTiming where
  /-- A cycle, by the number of earlier ones. -/
  cycle : Nat → σ → Except PyException CompactionRunMetrics × σ

theorem abs_id_sub_le (time : ℚ) : |id time - time| ≤ 0 := by
  simp

/-- An exact clock, and a unit of time before each call. -/
def steadyTiming (shutdown : Option Nat) : DaemonTiming where
  shutdown := shutdown
  clock := id
  precision := 0
  clock_mono := monotone_id
  clock_near := abs_id_sub_le
  lag _ := 1
  lag_nonneg _ := zero_le_one

structure DaemonWorld (σ : Type) where
  state : σ
  time : ℚ := 0
  calls : Nat := 0
  /-- Number of reads of `_running`. -/
  reads : Nat := 0
  /-- The time when the clock was last read. -/
  reading : ℚ := 0
  /-- The times of the readings before the cycles, the last one first. -/
  starts : List ℚ := []
  outcomes : List (Except PyException CompactionRunMetrics) := []
  reports : List DaemonReport := []
  sleeps : List ℚ := []

namespace DaemonSurroundings

variable {σ : Type} (surroundings : DaemonSurroundings σ)

/-- Whether the flag is found cleared. -/
def cleared (reads : Nat) : Bool :=
  surroundings.shutdown.any (· ≤ reads)

/-- The world when a call is made. -/
def enter (world : DaemonWorld σ) : DaemonWorld σ :=
  { world with time := world.time + surroundings.lag world.calls, calls := world.calls + 1 }

/-- The world after a cycle. -/
def afterCycle (world : DaemonWorld σ) : DaemonWorld σ :=
  let result := surroundings.cycle world.outcomes.length world.state
  { surroundings.enter world with
    state := result.2
    starts := world.reading :: world.starts
    outcomes := world.outcomes ++ [result.1] }

def handle : (request : DaemonCall) → DaemonWorld σ → DaemonReply request × DaemonWorld σ
  | .running, world =>
      (!surroundings.cleared world.reads,
        { surroundings.enter world with reads := world.reads + 1 })
  | .monotonic, world =>
      let entered := surroundings.enter world
      (surroundings.clock entered.time, { entered with reading := entered.time })
  | .runCompactionCycle, world =>
      ((surroundings.cycle world.outcomes.length world.state).1, surroundings.afterCycle world)
  | .report event, world =>
      ((), { surroundings.enter world with reports := world.reports ++ [event] })
  | .sleep duration, world =>
      let entered := surroundings.enter world
      ((), { entered with time := entered.time + duration, sleeps := duration :: world.sleeps })

/-- Run the daemon from a state: whether it still runs after the rounds, and the world then. -/
def run (intervalSeconds : Int) (count : Nat) (state : σ) :
    Except PyException Bool × DaemonWorld σ :=
  (runDaemon intervalSeconds count).runWith surroundings.handle { state }

/-- The outcomes of cycles one after another, and the state after them. -/
def runCycles : Nat → σ → List (Except PyException CompactionRunMetrics) × σ
  | 0, state => ([], state)
  | count + 1, state =>
      let (outcomes, later) := runCycles count state
      let result := surroundings.cycle count later
      (outcomes ++ [result.1], result.2)

/-- The cycles which the flag admits among the rounds: it is read before a cycle and after it. -/
def admitted (count : Nat) : Nat :=
  match surroundings.shutdown with
  | none => count
  | some first => min count ((first + 1) / 2)

/-- The interval after a time, less what is lost by rounding and by two readings of the clock. -/
def waited (intervalSeconds : Int) (start : ℚ) : ℚ :=
  start + intervalSeconds * (1 - 1 / 2 ^ 53) - 2 * surroundings.precision

/-! ## One round -/

variable {surroundings} {world : DaemonWorld σ}

variable (surroundings) in
theorem time_le_enter (world : DaemonWorld σ) : world.time ≤ (surroundings.enter world).time := by
  have nonneg := surroundings.lag_nonneg world.calls
  simp only [enter]
  linarith

/-- A flag which is cleared stays cleared. -/
theorem cleared_mono {reads later : Nat} (le : reads ≤ later)
    (cleared : surroundings.cleared reads = true) : surroundings.cleared later = true := by
  unfold DaemonSurroundings.cleared at cleared ⊢
  cases first : surroundings.shutdown with
  | none => simp [first] at cleared
  | some number =>
      simp only [first, Option.any_some, decide_eq_true_eq] at cleared ⊢
      omega

/-- Nothing but time has passed, and reports have been logged. -/
structure Passes (earlier later : DaemonWorld σ) (reports : List DaemonReport) : Prop where
  state : later.state = earlier.state
  time : earlier.time ≤ later.time
  reads : later.reads = earlier.reads
  starts : later.starts = earlier.starts
  outcomes : later.outcomes = earlier.outcomes
  reports : later.reports = earlier.reports ++ reports
  sleeps : later.sleeps = earlier.sleeps

theorem runWith_logOutcome (outcome : Except PyException CompactionRunMetrics)
    (world : DaemonWorld σ) :
    ∃ later, (logOutcome outcome).runWith surroundings.handle world = (.ok (), later) ∧
      Passes world later (reportOf outcome).toList := by
  unfold logOutcome
  cases reportOf outcome with
  | none => exact ⟨world, rfl, rfl, le_rfl, rfl, rfl, rfl, (List.append_nil _).symm, rfl⟩
  | some event =>
      exact ⟨_, rfl, rfl, surroundings.time_le_enter world, rfl, rfl, rfl, rfl, rfl⟩

/-- The world after a sleep which may have been skipped. -/
structure Sleeps (sleepFor : ℚ) (running : Bool) (earlier later : DaemonWorld σ) : Prop where
  state : later.state = earlier.state
  time : earlier.time ≤ later.time
  slept : running = true → earlier.time + sleepFor ≤ later.time
  reads : later.reads = earlier.reads
  starts : later.starts = earlier.starts
  outcomes : later.outcomes = earlier.outcomes
  reports : later.reports = earlier.reports
  sleeps : later.sleeps = earlier.sleeps ∨
    0 < sleepFor ∧ later.sleeps = sleepFor :: earlier.sleeps

theorem runWith_sleepIf (sleepFor : ℚ) (running : Bool) (world : DaemonWorld σ) :
    ∃ later, (sleepIf sleepFor running).runWith surroundings.handle world = (.ok (), later) ∧
      Sleeps sleepFor running world later := by
  have entered := surroundings.time_le_enter world
  unfold sleepIf
  split
  · rename_i sleeps
    have longer : world.time + sleepFor ≤ (surroundings.enter world).time + sleepFor := by
      linarith
    refine ⟨_, rfl, rfl, ?_, fun _ => longer, rfl, rfl, rfl, rfl, .inr ⟨sleeps.2, rfl⟩⟩
    exact le_trans (by linarith) longer
  · rename_i skips
    refine ⟨world, rfl, rfl, le_rfl, fun set => ?_, rfl, rfl, rfl, rfl, .inl rfl⟩
    have late : ¬0 < sleepFor := fun positive => skips ⟨set, positive⟩
    linarith

/-- The world after the body of the loop, which began at a time. -/
structure Cycles (surroundings : DaemonSurroundings σ) (intervalSeconds : Int) (start : ℚ)
    (earlier later : DaemonWorld σ) : Prop where
  state : later.state = (surroundings.cycle earlier.outcomes.length earlier.state).2
  began : earlier.time ≤ start
  /-- Unless the flag is cleared, the interval is over. -/
  time : surroundings.cleared earlier.reads = false → intervalSeconds ≤ longestSleep →
    surroundings.waited intervalSeconds start ≤ later.time
  reads : later.reads = earlier.reads + 1
  starts : later.starts = start :: earlier.starts
  outcomes : later.outcomes =
    earlier.outcomes ++ [(surroundings.cycle earlier.outcomes.length earlier.state).1]
  reports : later.reports = earlier.reports ++
    (reportOf (surroundings.cycle earlier.outcomes.length earlier.state).1).toList
  sleeps : later.sleeps = earlier.sleeps ∨
    ∃ duration : ℚ, 0 < duration ∧ (intervalSeconds ≤ longestSleep → duration ≤ intervalSeconds) ∧
      later.sleeps = duration :: earlier.sleeps

/-- A float of a number of seconds which can be slept is this number. -/
theorem nearestFloat_interval {intervalSeconds : Int}
    (positive : (0 : ℚ) < nearestFloat intervalSeconds) (short : intervalSeconds ≤ longestSleep) :
    nearestFloat intervalSeconds = (intervalSeconds : ℚ) := by
  have natural : 1 ≤ intervalSeconds := by
    by_contra less
    have nonpos : (intervalSeconds : ℚ) ≤ 0 := by exact_mod_cast (by omega : intervalSeconds ≤ 0)
    exact absurd positive (not_lt.mpr (nearestFloat_nonpos nonpos))
  refine nearestFloat_intCast natural (short.trans ?_)
  decide

/-- After the remaining time the interval is over. -/
theorem waited_le (surroundings : DaemonSurroundings σ) {intervalSeconds : Int}
    (short : intervalSeconds ≤ longestSleep) {start finish : ℚ} (passed : start ≤ finish) :
    surroundings.waited intervalSeconds start ≤
      finish + max 0 (remaining (nearestFloat intervalSeconds) (surroundings.clock start)
        (surroundings.clock finish)) := by
  have readings := @le_add_remaining (nearestFloat intervalSeconds) _ _
    (surroundings.clock_mono passed)
  have start_near := (abs_le.mp (surroundings.clock_near start)).1
  have finish_near := (abs_le.mp (surroundings.clock_near finish)).2
  have rests := le_max_left 0 (remaining (nearestFloat intervalSeconds)
    (surroundings.clock start) (surroundings.clock finish))
  have nonneg : 0 ≤ surroundings.precision :=
    (abs_nonneg _).trans (surroundings.clock_near start)
  unfold waited
  rcases le_or_gt (intervalSeconds : ℚ) 0 with nonpos | positive
  · linarith
  · have natural : 1 ≤ intervalSeconds := by exact_mod_cast positive
    have small : intervalSeconds ≤ 2 ^ 53 := short.trans (by decide)
    rw [nearestFloat_intCast natural small] at readings rests ⊢
    linarith

/-- No sleep is longer than the interval. -/
theorem remaining_interval_le {intervalSeconds : Int} {start finish : ℚ} (passed : start ≤ finish)
    (waits : 0 < remaining (nearestFloat intervalSeconds) start finish)
    (short : intervalSeconds ≤ longestSleep) :
    remaining (nearestFloat intervalSeconds) start finish ≤ intervalSeconds := by
  have positive := pos_of_remaining_pos passed waits
  rw [nearestFloat_interval positive short] at waits ⊢
  exact remaining_le passed (lt_of_le_of_lt short (by decide)) waits

theorem runWith_daemonCycle (intervalSeconds : Int) (world : DaemonWorld σ) :
    ∃ later start, (daemonCycle intervalSeconds).runWith surroundings.handle world =
        (.ok (), later) ∧
      surroundings.Cycles intervalSeconds start world later := by
  let begun : DaemonWorld σ :=
    { surroundings.enter world with reading := (surroundings.enter world).time }
  obtain ⟨logged, log_run, passes⟩ := @runWith_logOutcome _ surroundings
    (surroundings.cycle world.outcomes.length world.state).1 (surroundings.afterCycle begun)
  let finished : DaemonWorld σ :=
    { surroundings.enter logged with reading := (surroundings.enter logged).time }
  let asked : DaemonWorld σ := { surroundings.enter finished with reads := logged.reads + 1 }
  let rest := remaining (nearestFloat intervalSeconds)
    (surroundings.clock (surroundings.enter world).time)
    (surroundings.clock (surroundings.enter logged).time)
  obtain ⟨later, sleep_run, sleeps⟩ := @runWith_sleepIf _ surroundings
    (max 0 rest) (!surroundings.cleared logged.reads) asked
  have run : (daemonCycle intervalSeconds).runWith surroundings.handle world = (.ok (), later) :=
    (Program.runWith_bind_of_ok surroundings.handle log_run _).trans sleep_run
  have cycled : (surroundings.enter world).time ≤ (surroundings.enter logged).time :=
    calc (surroundings.enter world).time
      _ ≤ (surroundings.afterCycle begun).time := surroundings.time_le_enter begun
      _ ≤ logged.time := passes.time
      _ ≤ (surroundings.enter logged).time := surroundings.time_le_enter logged
  have asked_late : (surroundings.enter logged).time ≤ asked.time :=
    surroundings.time_le_enter finished
  refine ⟨later, (surroundings.enter world).time, run, ?_⟩
  exact {
    state := sleeps.state.trans passes.state
    began := surroundings.time_le_enter world
    time := by
      intro set short
      have same : logged.reads = world.reads := passes.reads
      have slept := sleeps.slept (by simpa [same] using set)
      have waited := surroundings.waited_le short cycled
      simp only [rest] at slept
      linarith
    reads := by rw [sleeps.reads]; exact congrArg (· + 1) passes.reads
    starts := sleeps.starts.trans passes.starts
    outcomes := sleeps.outcomes.trans passes.outcomes
    reports := sleeps.reports.trans passes.reports
    sleeps := by
      have kept : asked.sleeps = world.sleeps := passes.sleeps
      rw [← kept]
      refine sleeps.sleeps.imp_right ?_
      rintro ⟨positive, slept⟩
      have waits : 0 < rest := by simpa using positive
      rw [max_eq_right waits.le] at slept
      exact ⟨_, waits, remaining_interval_le (surroundings.clock_mono cycled) waits, slept⟩ }

/-! ## Whole runs -/

/-- An element of a longer list is one of the shorter list or the new one. -/
theorem getElem?_concat_eq_some {α : Type} {items : List α} {last item : α} {number : Nat}
    (found : (items ++ [last])[number]? = some item) :
    number < items.length ∧ items[number]? = some item ∨ number = items.length ∧ last = item := by
  rcases Nat.lt_trichotomy number items.length with earlier | same | later
  · rw [List.getElem?_append_left earlier] at found
    exact .inl ⟨earlier, found⟩
  · rw [List.getElem?_append_right same.ge, same] at found
    exact .inr ⟨same, by simpa using found⟩
  · rw [List.getElem?_eq_none (by simp; omega)] at found
    cases found

@[simp]
theorem length_runCycles (count : Nat) (state : σ) :
    (surroundings.runCycles count state).1.length = count := by
  induction count with
  | zero => rfl
  | succ count ih => simp [runCycles, ih]

/-- Each cycle began when the interval since the one before was over. -/
def Paced (surroundings : DaemonSurroundings σ) (intervalSeconds : Int) (starts : List ℚ) : Prop :=
  starts.IsChain fun later earlier : ℚ => surroundings.waited intervalSeconds earlier ≤ later

/-- The world after a number of rounds with a cycle. -/
structure Reached (surroundings : DaemonSurroundings σ) (intervalSeconds : Int) (state : σ)
    (past : Nat) (world : DaemonWorld σ) : Prop where
  cycles : (world.outcomes, world.state) = surroundings.runCycles past state
  reports : world.reports = world.outcomes.filterMap reportOf
  counted : world.starts.length = past
  paced : intervalSeconds ≤ longestSleep → surroundings.Paced intervalSeconds world.starts
  sleeps : ∀ duration ∈ world.sleeps,
    0 < duration ∧ (intervalSeconds ≤ longestSleep → duration ≤ intervalSeconds)
  within : surroundings.admitted past = past

/-- The world before a round: the interval is over unless the flag is found cleared. -/
structure Going (surroundings : DaemonSurroundings σ) (intervalSeconds : Int) (state : σ)
    (past : Nat) (world : DaemonWorld σ) : Prop
    extends Reached surroundings intervalSeconds state past world where
  reads : world.reads = 2 * past
  waits : surroundings.cleared (2 * past) = false → intervalSeconds ≤ longestSleep →
    ∀ start ∈ world.starts.head?, surroundings.waited intervalSeconds start ≤ world.time

/-- The last read of the flag has found it cleared. -/
structure Ended (surroundings : DaemonSurroundings σ) (intervalSeconds : Int) (state : σ)
    (past : Nat) (world : DaemonWorld σ) : Prop
    extends Reached surroundings intervalSeconds state past world where
  last : ∀ count, past < count → surroundings.admitted count = past

theorem admitted_of_cleared {past : Nat} (within : surroundings.admitted past = past)
    (cleared : surroundings.cleared (2 * past) = true) {count : Nat} (more : past < count) :
    surroundings.admitted count = past := by
  unfold admitted at within ⊢
  unfold DaemonSurroundings.cleared at cleared
  cases first : surroundings.shutdown with
  | none => simp [first] at cleared
  | some number =>
      simp only [first, Option.any_some, decide_eq_true_eq] at cleared within ⊢
      omega

theorem admitted_of_set {past : Nat} (set : surroundings.cleared (2 * past) = false) :
    surroundings.admitted (past + 1) = past + 1 := by
  unfold admitted
  unfold DaemonSurroundings.cleared at set
  cases first : surroundings.shutdown with
  | none => rfl
  | some number =>
      simp only [first, Option.any_some, decide_eq_false_iff_not] at set ⊢
      omega

/-- A round with a cycle leads from one round to the next. -/
theorem Going.next {intervalSeconds : Int} {state : σ} {past : Nat} {start : ℚ}
    {earlier later : DaemonWorld σ}
    (going : surroundings.Going intervalSeconds state past earlier)
    (set : surroundings.cleared (2 * past) = false)
    (cycles : surroundings.Cycles intervalSeconds start
      { surroundings.enter earlier with reads := earlier.reads + 1 } later) :
    surroundings.Going intervalSeconds state (past + 1) later := by
  obtain ⟨outcomes_eq, state_eq⟩ := Prod.mk.inj going.cycles
  have length : earlier.outcomes.length = past := by
    rw [outcomes_eq, length_runCycles]
  have began : earlier.time ≤ start :=
    le_trans (surroundings.time_le_enter earlier) cycles.began
  have reads : later.reads = 2 * (past + 1) := by
    rw [cycles.reads]
    show earlier.reads + 1 + 1 = _
    rw [going.reads]
    omega
  exact {
    cycles := by
      rw [cycles.outcomes, cycles.state]
      simp [enter, runCycles, outcomes_eq, state_eq]
    reports := by
      rw [cycles.reports, cycles.outcomes, List.filterMap_append]
      refine congrArg₂ _ going.reports ?_
      cases event : reportOf (surroundings.cycle earlier.outcomes.length earlier.state).1 <;>
        simp [enter, event]
    counted := by
      rw [cycles.starts]
      exact congrArg (· + 1) going.counted
    paced := by
      intro short
      rw [cycles.starts]
      refine List.isChain_cons.mpr ⟨fun previous head => ?_, going.paced short⟩
      exact le_trans (going.waits set short previous head) began
    sleeps := by
      intro duration member
      rcases cycles.sleeps with same | ⟨slept, positive, short, added⟩
      · exact going.sleeps duration (same ▸ member)
      · rw [added] at member
        rcases List.mem_cons.mp member with rfl | earlier_sleep
        · exact ⟨positive, short⟩
        · exact going.sleeps duration earlier_sleep
    within := admitted_of_set set
    reads := reads
    waits := by
      intro still_set short previous head
      rw [cycles.starts] at head
      obtain rfl : start = previous := Option.some.inj head
      refine cycles.time ?_ short
      by_contra cleared
      have le : earlier.reads + 1 ≤ 2 * (past + 1) := by
        rw [going.reads]
        omega
      have before := surroundings.cleared_mono le (eq_true_of_ne_false cleared)
      rw [still_set] at before
      cases before }

/-- The premise of the loop rule. -/
theorem runWith_daemonRound {intervalSeconds : Int} {state : σ} (past : Nat)
    (world : DaemonWorld σ) (going : surroundings.Going intervalSeconds state past world) :
    ∃ again later, (daemonRound intervalSeconds).runWith surroundings.handle world =
        (.ok again, later) ∧
      (again = true → surroundings.Going intervalSeconds state (past + 1) later) ∧
      (again = false → surroundings.Ended intervalSeconds state past later) := by
  let asked : DaemonWorld σ := { surroundings.enter world with reads := world.reads + 1 }
  have head : (daemonRound intervalSeconds).runWith surroundings.handle world =
      (continueIf intervalSeconds (!surroundings.cleared world.reads)).runWith
        surroundings.handle asked := rfl
  rw [head, going.reads]
  cases flag : surroundings.cleared (2 * past) with
  | true =>
      refine ⟨false, asked, rfl, by simp, fun _ => ?_⟩
      exact {
        cycles := going.cycles
        reports := going.reports
        counted := going.counted
        paced := going.paced
        sleeps := going.sleeps
        within := going.within
        last := fun count more => admitted_of_cleared going.within flag more }
  | false =>
      obtain ⟨later, start, run, cycles⟩ :=
        @runWith_daemonCycle _ surroundings intervalSeconds asked
      refine ⟨true, later, ?_, fun _ => going.next flag cycles, by simp⟩
      exact Program.runWith_bind_of_ok surroundings.handle run _

/-- A run never raises, and it ends within the rounds exactly if the flag admits fewer cycles. -/
theorem reached_run (surroundings : DaemonSurroundings σ) (intervalSeconds : Int) (count : Nat)
    (state : σ) :
    (surroundings.run intervalSeconds count state).1 =
        .ok (decide (surroundings.admitted count = count)) ∧
      surroundings.Reached intervalSeconds state (surroundings.admitted count)
        (surroundings.run intervalSeconds count state).2 := by
  have start : surroundings.Going intervalSeconds state 0 { state } := {
    cycles := rfl
    reports := rfl
    counted := rfl
    paced := fun _ => .nil
    sleeps := by simp
    within := by
      unfold admitted
      cases surroundings.shutdown <;> simp
    reads := rfl
    waits := by simp }
  obtain ⟨again, later, ran, goes_on, ended⟩ :=
    Program.runWith_rounds runWith_daemonRound count 0 start
  have run : surroundings.run intervalSeconds count state = (.ok again, later) := ran
  rw [run]
  cases again with
  | true =>
      have going := goes_on rfl
      rw [Nat.zero_add] at going
      rw [going.within]
      exact ⟨by simp, going.toReached⟩
  | false =>
      obtain ⟨last, -, less, last_round⟩ := ended rfl
      rw [Nat.zero_add] at less
      rw [last_round.last count less]
      exact ⟨by simp [less.ne], last_round.toReached⟩

/-- Whatever its cycles raise, the daemon runs one after another until a signal, finishes the cycle
during which the signal came, and reports exactly the cycles which failed. -/
theorem runDaemon_cycles (surroundings : DaemonSurroundings σ) (intervalSeconds : Int)
    (count : Nat) (state : σ) :
    (surroundings.run intervalSeconds count state).1 =
        .ok (decide (surroundings.admitted count = count)) ∧
      ((surroundings.run intervalSeconds count state).2.outcomes,
          (surroundings.run intervalSeconds count state).2.state) =
        surroundings.runCycles (surroundings.admitted count) state ∧
      (surroundings.run intervalSeconds count state).2.reports =
        (surroundings.runCycles (surroundings.admitted count) state).1.filterMap reportOf := by
  obtain ⟨returned, reached⟩ := reached_run surroundings intervalSeconds count state
  refine ⟨returned, reached.cycles, ?_⟩
  rw [reached.reports, ← reached.cycles]

/-- However long the cycles take and whenever a signal comes, the cycles keep an interval which can
be slept, and no sleep is longer than it. -/
theorem runDaemon_paced (surroundings : DaemonSurroundings σ) (intervalSeconds : Int)
    (count : Nat) (state : σ) (short : intervalSeconds ≤ longestSleep) :
    (surroundings.run intervalSeconds count state).2.starts.length =
        surroundings.admitted count ∧
      ((surroundings.run intervalSeconds count state).2.starts.IsChain fun later earlier : ℚ =>
        earlier + intervalSeconds * (1 - 1 / 2 ^ 53) - 2 * surroundings.precision ≤ later) ∧
      ∀ duration ∈ (surroundings.run intervalSeconds count state).2.sleeps,
        0 < duration ∧ duration ≤ intervalSeconds := by
  obtain ⟨-, reached⟩ := reached_run surroundings intervalSeconds count state
  exact ⟨reached.counted, reached.paced short, fun duration slept =>
    ⟨(reached.sleeps duration slept).1, (reached.sleeps duration slept).2 short⟩⟩

/-- Each cycle raises, and the flag is cleared during the third one. -/
def thirdCycleSignalled : DaemonSurroundings Unit where
  toDaemonTiming := steadyTiming (some 5)
  cycle _ _ := (.error (.valueError "no table"), ())

theorem runDaemon_paced_hourly :
    (thirdCycleSignalled.run 3600 10 ()).2.starts.length = 3 ∧
      ∀ duration ∈ (thirdCycleSignalled.run 3600 10 ()).2.sleeps, duration ≤ 3600 := by
  obtain ⟨counted, -, sleeps⟩ := runDaemon_paced thirdCycleSignalled 3600 10 () (by decide)
  exact ⟨counted.trans (by decide), fun duration slept => (sleeps duration slept).2⟩

end DaemonSurroundings

end Lakehouse
