import Lakehouse.Compactor.CompactionDaemon
import Lakehouse.Compactor.TableContents

/-!
# A table among its writers

Any number of workers run compaction cycles on one table, and the streaming job appends to it
between any two calls to Spark.  Whether or not the locks keep the workers apart, a cycle compacts
only partitions which it has scanned, and no interleaving loses, duplicates or changes a row.
-/

namespace Lakehouse

open Foundation

/-! ## Cycles down to Spark -/

/-- The calls of a cycle, with those of `compact_partition` in place of it. -/
inductive WorkerCall
  | cycle (request : CycleCall)
  | spark (request : SparkCall)

abbrev WorkerReply : WorkerCall → Type
  | .cycle request => CycleReply request
  | .spark request => SparkReply request

abbrev WorkerProgram := Program WorkerCall WorkerReply PyException

def askSpark (request : SparkCall) : WorkerProgram (SparkReply request) :=
  Program.perform (WorkerCall.spark request)

/-- `compact_partition` within a cycle, which catches what it raises. -/
def compactInCycle (config : CompactionConfig) (stats : PartitionStats) :
    WorkerProgram (Except PyException (CompactionOf stats)) :=
  ((compactPartition config stats).expand askSpark).attempt

/-- What a worker does for a call of its cycle. -/
def carryOut (config : CompactionConfig) :
    (request : CycleCall) → WorkerProgram (CycleReply request)
  | .compactPartition stats => compactInCycle config stats
  | request => Program.perform (WorkerCall.cycle request)

/-- The arguments of a cycle, its run id and its start time. -/
structure CycleStart where
  config : CompactionConfig
  targetPartition : Option String
  runId : String
  started : Int

/-- A whole cycle of a worker. -/
def CycleStart.program (start : CycleStart) : WorkerProgram CompactionRunMetrics :=
  (runCompactionCycle start.config start.targetPartition start.runId start.started).expand
    (carryOut start.config)

/-! ## What a cycle compacts -/

/-- The partitions which a cycle has scanned; it compacts no others. -/
def scanProtocol : Program.Protocol CycleCall CycleReply (List PartitionStats) where
  permits
    | scanned, .compactPartition stats => stats ∈ scanned
    | _, _ => True
  next
    | _, .scanPartitions, .ok partitions => partitions
    | scanned, _, _ => scanned

namespace ScanProtocol

variable {scanned : List PartitionStats}

theorem follows_finalizeRun (metrics : CompactionRunMetrics) :
    (finalizeRun metrics).Follows scanProtocol scanned :=
  ⟨trivial, fun _ => ⟨trivial, fun _ => trivial⟩⟩

theorem follows_handleFailure (metrics : CompactionRunMetrics) (exc : PyException)
    (sparkStarted : Bool) :
    (handleFailure metrics exc sparkStarted).Follows scanProtocol scanned := by
  refine Program.follows_bind (follows_finalizeRun _) fun metrics later => ?_
  cases sparkStarted <;> cases exc.isCompactionError <;>
    simp [ask, Program.perform, Program.follows_call, scanProtocol]

theorem follows_afterLoop (result : CompactionRunMetrics × Option PyException) :
    (afterLoop result).Follows scanProtocol scanned := by
  obtain ⟨metrics, ends⟩ := result
  cases ends with
  | some exc => exact follows_handleFailure _ _ _
  | none =>
      refine Program.follows_bind (follows_finalizeRun _) fun metrics later => ?_
      exact ⟨trivial, fun _ => trivial⟩

theorem follows_compactEach (runId : String) {parts : List PartitionStats}
    (inside : parts ⊆ scanned) (metrics : CompactionRunMetrics) :
    (compactEach runId parts metrics >>= afterLoop).Follows scanProtocol scanned := by
  induction parts generalizing metrics with
  | nil => exact follows_afterLoop (metrics, none)
  | cons stats rest ih =>
      obtain ⟨member, others⟩ := List.cons_subset.mp inside
      have later := ih others
      rw [compactEach, Program.bind_assoc, compactOne]
      split
      · exact later metrics.skipEmpty
      · refine ⟨trivial, fun reply => ?_⟩
        match reply with
        | .error exc => exact follows_afterLoop (metrics, some exc)
        | .ok false => exact later _
        | .ok true =>
            refine ⟨member, fun outcome => ⟨trivial, fun released => ?_⟩⟩
            match released with
            | .error exc =>
                exact follows_afterLoop
                  ((metrics.addBefore stats).recordOutcome stats outcome, some exc)
            | .ok () => exact later _

theorem follows_compactEligible (runId : String) {eligible : List PartitionStats}
    (inside : eligible ⊆ scanned) (skippedCount : Nat) (metrics : CompactionRunMetrics) :
    (compactEligible runId eligible skippedCount metrics).Follows scanProtocol scanned := by
  rw [compactEligible]
  split
  · exact follows_finalizeRun _
  · refine ⟨trivial, fun reply => ?_⟩
    match reply with
    | .ok () => exact follows_compactEach runId inside _
    | .error exc =>
        show (afterSession runId eligible _ (.error exc)).Follows _ _
        rw [afterSession]
        split
        · exact follows_finalizeRun _
        · exact follows_handleFailure _ _ _

/-- A cycle compacts only partitions which it has scanned, targeted or not. -/
theorem follows_runCompactionCycle (config : CompactionConfig) (targetPartition : Option String)
    (runId : String) (started : Int) :
    (runCompactionCycle config targetPartition runId started).Follows scanProtocol [] := by
  refine ⟨trivial, fun verified => ?_⟩
  match verified with
  | .error exc =>
      show (afterVerify config targetPartition runId _ (.error exc)).Follows _ _
      rw [afterVerify]
      split
      · exact follows_finalizeRun _
      · trivial
  | .ok () =>
      refine ⟨trivial, fun listed => ?_⟩
      match listed with
      | .error exc => exact follows_handleFailure _ _ _
      | .ok partitions =>
          show (afterScan config targetPartition runId _ (.ok partitions)).Follows scanProtocol
            partitions
          simp only [afterScan]
          split
          · split
            · exact follows_finalizeRun _
            · rename_i found
              have member := List.mem_of_find?_eq_some found
              have only := List.cons_subset.mpr ⟨member, List.nil_subset _⟩
              exact follows_compactEligible runId only 0 _
          · refine ⟨trivial, fun clock => follows_compactEligible runId ?_ _ _⟩
            exact (selectPartitions_sublist _ partitions clock).subset

end ScanProtocol

/-- The calls of a worker: to Spark only those which compact a partition it has scanned. -/
def workerProtocol (config : CompactionConfig) :
    Program.Protocol WorkerCall WorkerReply (List PartitionStats) where
  permits
    | _, .cycle _ => True
    | scanned, .spark request => ∃ stats ∈ scanned, request.Permitted config stats
  next
    | scanned, .cycle request, reply => scanProtocol.next scanned request reply
    | scanned, .spark _, _ => scanned

theorem followsTo_compactInCycle (config : CompactionConfig) {scanned : List PartitionStats}
    {stats : PartitionStats} (member : stats ∈ scanned) :
    (compactInCycle config stats).FollowsTo (workerProtocol config)
      (fun outcome later => ∃ result, outcome = .ok result ∧ later = scanned) scanned := by
  have calls : ((compactPartition config stats).expand askSpark).EveryCall fun request =>
      (workerProtocol config).permits scanned request ∧
        ∀ reply, (workerProtocol config).next scanned request reply = scanned :=
    Program.everyCall_expand everyCall_compactPartition fun request permitted =>
      (Program.everyCall_perform _).mpr ⟨⟨stats, member, permitted⟩, fun _ => rfl⟩
  exact Program.followsTo_attempt_of_idle (fun _ => id) calls

theorem follows_program (start : CycleStart) :
    start.program.Follows (workerProtocol start.config) [] := by
  refine Program.follows_expand ?_ (ScanProtocol.follows_runCompactionCycle _ _ _ _)
  intro scanned request permitted
  cases request with
  | compactPartition stats => exact followsTo_compactInCycle start.config permitted
  | _ => exact ⟨trivial, fun reply => ⟨reply, rfl, rfl⟩⟩

/-! ## Steps next to the table -/

/-- What a cycle is told by the outside. -/
structure Told where
  reply : (request : CycleCall) → CycleReply request

/-- The partitions which a cycle is shown. -/
def Told.shown (told : Told) : List PartitionStats :=
  match told.reply .scanPartitions with
  | .ok partitions => partitions
  | .error _ => []

inductive TableStep (ω D δ : Type)
  /-- A worker starts a cycle; one which it had not finished was killed. -/
  | launch (worker : ω) (start : CycleStart)
  /-- A worker makes its next call. -/
  | call (worker : ω) (told : Told)
  /-- The streaming job appends files. -/
  | append (files : List (List (Row D δ)))

namespace TableStep

variable {ω D δ : Type}

/-- The rows which the step appends. -/
def appended : TableStep ω D δ → List (Row D δ)
  | .append files => files.flatten
  | _ => []

/-- The partitions which the step can show to a cycle. -/
def shown : TableStep ω D δ → List PartitionStats
  | .call _ told => told.shown
  | _ => []

end TableStep

/-- The table, and what is left of the cycle of each worker. -/
abbrev TableState (ω D δ : Type) :=
  Program.Shared ω (SparkWorld D δ) WorkerCall WorkerReply PyException CompactionRunMetrics

/-- Add files, in one commit. -/
def TableContents.append {D δ : Type} (contents : TableContents D δ)
    (files : List (List (Row D δ))) : TableContents D δ :=
  contents.replace (fun _ => false) files

section Steps

variable {ω D δ : Type} [DecidableEq ω] [DecidableEq D] (spark : Spark D δ)
  (choices : SparkChoices D δ) (tablePath : String)

def answer (told : Told) :
    (request : WorkerCall) → SparkWorld D δ → WorkerReply request × SparkWorld D δ
  | .cycle request, world => (told.reply request, world)
  | .spark request, world => request.serve spark choices tablePath world

def TableStep.apply : TableStep ω D δ → TableState ω D δ → TableState ω D δ
  | .launch worker start, state =>
      { state with threads := Function.update state.threads worker start.program }
  | .call worker told, state => Program.advance (answer spark choices tablePath told) worker state
  | .append files, state =>
      { state with world := { state.world with contents := state.world.contents.append files } }

/-- The state after steps in turn. -/
def runTable (steps : List (TableStep ω D δ)) (state : TableState ω D δ) : TableState ω D δ :=
  steps.foldl (fun state step => step.apply spark choices tablePath state) state

/-- Each worker starts a cycle on the table. -/
def launched (starts : ω → CycleStart) (contents : TableContents D δ) : TableState ω D δ where
  world := { contents, calls := 0 }
  threads worker := (starts worker).program

/-- The table after steps which begin with the launch of the workers. -/
def tableAfter (starts : ω → CycleStart) (steps : List (TableStep ω D δ))
    (contents : TableContents D δ) : TableContents D δ :=
  (runTable spark choices tablePath steps (launched starts contents)).world.contents

end Steps

/-! ## The invariant -/

/-- After a call a cycle has scanned what it has been shown. -/
theorem scanned_next_subset {shown scanned : List PartitionStats} (told : Told)
    (request : CycleCall) (within : scanned ⊆ shown) (more : told.shown ⊆ shown) :
    scanProtocol.next scanned request (told.reply request) ⊆ shown := by
  cases request with
  | scanPartitions =>
      cases listed : told.reply .scanPartitions with
      | error exc => exact within
      | ok partitions =>
          rw [Told.shown, listed] at more
          exact more
  | _ => exact within

section Invariant

variable {ω D δ : Type} [DecidableEq D] {spark : Spark D δ} {choices : SparkChoices D δ}
  {tablePath : String} {contents : TableContents D δ} {appended : List (Row D δ)}
  {shown : List PartitionStats} {world : SparkWorld D δ}

/-- The dates of the partitions stand verbatim in a literal. -/
def VerbatimDates (shown : List PartitionStats) : Prop :=
  ∀ stats ∈ shown, Sql.Verbatim stats.eventDate.toList

/-- A table which began with the contents holds their rows and the appended ones, and the files of
the rows outside the partitions are still there. -/
structure KeepsRows (spark : Spark D δ) (contents : TableContents D δ) (appended : List (Row D δ))
    (shown : List PartitionStats) (world : SparkWorld D δ) : Prop where
  rows : (world.contents.rows.map StoredRow.row).Perm
    (contents.rows.map StoredRow.row ++ appended)
  outside : ∀ stored ∈ contents.rows,
    (∀ stats ∈ shown, ¬stored.row.InPartition spark.castDate stats) →
      stored ∈ world.contents.rows

omit [DecidableEq D] in
theorem KeepsRows.mono (keeps : KeepsRows spark contents appended shown world)
    {larger : List PartitionStats} (subset : shown ⊆ larger) :
    KeepsRows spark contents appended larger world :=
  ⟨keeps.rows, fun stored member outside =>
    keeps.outside stored member fun stats inside => outside stats (subset inside)⟩

/-- A row outside the partition of a rewrite stays in its file. -/
theorem TableContents.Unchanged.mem {castDate : String → Option D} {stats : PartitionStats}
    {before after : TableContents D δ} (unchanged : Unchanged castDate stats before after)
    {stored : StoredRow D δ} (member : stored ∈ before.rows)
    (outside : ¬stored.row.InPartition castDate stats) : stored ∈ after.rows := by
  have kept : stored ∈ before.rows.filter fun stored => ¬stored.row.InPartition castDate stats :=
    List.mem_filter.mpr ⟨member, decide_eq_true outside⟩
  rw [← unchanged.outside] at kept
  exact (List.mem_filter.mp kept).1

theorem KeepsRows.serve (keeps : KeepsRows spark contents appended shown world)
    {config : CompactionConfig} {stats : PartitionStats} {request : SparkCall}
    (member : stats ∈ shown) (verbatim : Sql.Verbatim stats.eventDate.toList)
    (permitted : request.Permitted config stats) :
    KeepsRows spark contents appended shown (request.serve spark choices tablePath world).2 := by
  obtain ⟨condition, read, inside⟩ :=
    condition_replaceWhereClause (δ := δ) spark.castDate verbatim
  have unchanged : TableContents.Unchanged spark.castDate stats world.contents
      (request.serve spark choices tablePath world).2.contents :=
    unchanged_serve read inside permitted
  exact ⟨unchanged.rows.trans keeps.rows, fun stored stored_mem outside =>
    unchanged.mem (keeps.outside stored stored_mem outside) (outside stats member)⟩

omit [DecidableEq D] in
theorem KeepsRows.append (keeps : KeepsRows spark contents appended shown world)
    (files : List (List (Row D δ))) :
    KeepsRows spark contents (appended ++ files.flatten) shown
      { world with contents := world.contents.append files } := by
  have rows : (world.contents.append files).rows =
      world.contents.rows ++ storeFiles world.contents.version files := by
    simp [TableContents.append, TableContents.replace]
  constructor
  · rw [rows, List.map_append, map_row_storeFiles, ← List.append_assoc]
    exact keeps.rows.append_right _
  · intro stored member outside
    rw [rows]
    exact List.mem_append_left _ (keeps.outside stored member outside)

variable [DecidableEq ω]

/-- The table keeps its rows, and each worker compacts only what it has been shown. -/
structure Guarded (spark : Spark D δ) (contents : TableContents D δ) (appended : List (Row D δ))
    (shown : List PartitionStats) (state : TableState ω D δ) : Prop where
  verbatim : VerbatimDates shown
  keeps : KeepsRows spark contents appended shown state.world
  workers : ∃ (config : ω → CompactionConfig) (scanned : ω → List PartitionStats),
    (∀ worker, scanned worker ⊆ shown) ∧
      ∀ worker, (state.threads worker).Follows (workerProtocol (config worker)) (scanned worker)

variable {state : TableState ω D δ}

/-- A call of one worker keeps the rows, whatever the others are in the middle of. -/
theorem Guarded.call (guarded : Guarded spark contents appended shown state) (worker : ω)
    {told : Told} (told_verbatim : VerbatimDates told.shown) :
    Guarded spark contents appended (shown ++ told.shown)
      (Program.advance (answer spark choices tablePath told) worker state) := by
  have verbatim : VerbatimDates (shown ++ told.shown) :=
    List.forall_mem_append.mpr ⟨guarded.verbatim, told_verbatim⟩
  have fewer : shown ⊆ shown ++ told.shown := List.subset_append_left _ _
  obtain ⟨config, scanned, within, follows⟩ := guarded.workers
  have preserved : ∀ worker (scanned : ω → List PartitionStats) request world,
      (workerProtocol (config worker)).permits (scanned worker) request →
      ((∀ other, scanned other ⊆ shown ++ told.shown) ∧
        KeepsRows spark contents appended (shown ++ told.shown) world) →
      (∀ other, Function.update scanned worker ((workerProtocol (config worker)).next
          (scanned worker) request (answer spark choices tablePath told request world).1) other ⊆
            shown ++ told.shown) ∧
        KeepsRows spark contents appended (shown ++ told.shown)
          (answer spark choices tablePath told request world).2 := by
    rintro worker scanned request world permitted ⟨within, keeps⟩
    cases request with
    | cycle request =>
        refine ⟨fun other => ?_, keeps⟩
        by_cases same : other = worker
        · subst same
          rw [Function.update_self]
          exact scanned_next_subset told request (within other) (List.subset_append_right _ _)
        · rw [Function.update_of_ne same]
          exact within other
    | spark request =>
        obtain ⟨stats, member, allowed⟩ := permitted
        have inside := within worker member
        refine ⟨fun other => ?_, keeps.serve inside (verbatim stats inside) allowed⟩
        have same : Function.update scanned worker ((workerProtocol (config worker)).next
            (scanned worker) (.spark request)
            (answer spark choices tablePath told (.spark request) world).1) = scanned :=
          Function.update_eq_self worker scanned
        rw [same]
        exact within other
  obtain ⟨scanned', ⟨within', keeps'⟩, follows'⟩ := Program.advance_keeps _ preserved worker
    ⟨fun other => List.Subset.trans (within other) fewer, guarded.keeps.mono fewer⟩ follows
  exact ⟨verbatim, keeps', config, scanned', within', follows'⟩

omit [DecidableEq D] in
theorem Guarded.launch (guarded : Guarded spark contents appended shown state) (worker : ω)
    (start : CycleStart) :
    Guarded spark contents appended shown
      { state with threads := Function.update state.threads worker start.program } := by
  obtain ⟨config, scanned, within, follows⟩ := guarded.workers
  refine ⟨guarded.verbatim, guarded.keeps, Function.update config worker start.config,
    Function.update scanned worker [], fun other => ?_, fun other => ?_⟩
  all_goals
    by_cases same : other = worker
  · subst same
    simp
  · rw [Function.update_of_ne same]
    exact within other
  · subst same
    simp only [Function.update_self]
    exact follows_program start
  · simp only [Function.update_of_ne same]
    exact follows other

theorem Guarded.apply (choices : SparkChoices D δ) (tablePath : String)
    (guarded : Guarded spark contents appended shown state) {step : TableStep ω D δ}
    (verbatim : VerbatimDates step.shown) :
    Guarded spark contents (appended ++ step.appended) (shown ++ step.shown)
      (step.apply spark choices tablePath state) := by
  cases step with
  | launch worker start =>
      show Guarded spark contents (appended ++ []) (shown ++ []) _
      rw [List.append_nil, List.append_nil]
      exact guarded.launch worker start
  | call worker told =>
      show Guarded spark contents (appended ++ []) (shown ++ told.shown) _
      rw [List.append_nil]
      exact guarded.call worker verbatim
  | append files =>
      show Guarded spark contents (appended ++ files.flatten) (shown ++ []) _
      rw [List.append_nil]
      exact ⟨guarded.verbatim, guarded.keeps.append files, guarded.workers⟩

theorem Guarded.run (choices : SparkChoices D δ) (tablePath : String)
    (guarded : Guarded spark contents appended shown state) {steps : List (TableStep ω D δ)}
    (verbatim : ∀ step ∈ steps, VerbatimDates step.shown) :
    Guarded spark contents (appended ++ steps.flatMap TableStep.appended)
      (shown ++ steps.flatMap TableStep.shown) (runTable spark choices tablePath steps state) := by
  induction steps generalizing appended shown state with
  | nil =>
      rw [List.flatMap_nil, List.flatMap_nil, List.append_nil, List.append_nil]
      exact guarded
  | cons step steps ih =>
      rw [List.forall_mem_cons] at verbatim
      have rest := ih (guarded.apply choices tablePath verbatim.1) verbatim.2
      rwa [List.append_assoc, List.append_assoc] at rest

omit [DecidableEq D] [DecidableEq ω] in
theorem guarded_launched (starts : ω → CycleStart) (contents : TableContents D δ) :
    Guarded spark contents [] [] (launched starts contents) where
  verbatim := by simp [VerbatimDates]
  keeps := ⟨by rw [List.append_nil, launched], fun stored member _ => member⟩
  workers := ⟨fun worker => (starts worker).config, fun _ => [], by simp,
    fun worker => follows_program (starts worker)⟩

/-- **No interleaving loses a row.**  Whatever cycles any number of workers run on the table,
killed at any call or not and kept apart by locks or not, and whatever is appended between their
calls, the table holds the rows with which it began and the appended ones, each as often; and the
files of the rows outside the partitions which were shown to the workers are still there.  The dates
of these partitions stand verbatim in a literal. -/
theorem table_keeps_rows (spark : Spark D δ) (choices : SparkChoices D δ) (tablePath : String)
    (starts : ω → CycleStart) (contents : TableContents D δ) {steps : List (TableStep ω D δ)}
    (verbatim : ∀ step ∈ steps, ∀ stats ∈ step.shown, Sql.Verbatim stats.eventDate.toList) :
    ((tableAfter spark choices tablePath starts steps contents).rows.map StoredRow.row).Perm
      (contents.rows.map StoredRow.row ++ steps.flatMap TableStep.appended) ∧
    ∀ stored ∈ contents.rows,
      (∀ stats ∈ steps.flatMap TableStep.shown,
        ¬stored.row.InPartition spark.castDate stats) →
      stored ∈ (tableAfter spark choices tablePath starts steps contents).rows := by
  have launch : Guarded spark contents [] [] (launched starts contents) :=
    guarded_launched starts contents
  have guarded := launch.run choices tablePath verbatim
  exact ⟨guarded.keeps.rows, guarded.keeps.outside⟩

end Invariant

theorem verbatim_hourTen : Sql.Verbatim hourTen.eventDate.toList :=
  Sql.verbatim_of_plain (by decide +kernel) (by decide +kernel)

/-- Every lock is granted. -/
def lockRace : Told where
  reply
    | .verifyDeltaTableExists => .ok ()
    | .scanPartitions => .ok [hourTen]
    | .selectionClock => fun _ => hours 1
    | .createSparkSession => .ok ()
    | .acquire _ _ => .ok true
    | .compactPartition stats => .error (.valueError stats.partitionId)
    | .release _ => .ok ()
    | .now => hours 2
    | .writeRunSummary _ => ()
    | .stopSparkSession => ()

/-- Two workers which were both granted the lock rewrite the partition in turn, and a row is
appended before the first of them saves. -/
def raceSteps : List (TableStep Bool String String) :=
  let both : List (TableStep Bool String String) := [.call false lockRace, .call true lockRace]
  (List.replicate 8 both).flatten ++ [.append [[⟨"2024-06-11", (10 : Int), "late"⟩]]] ++
    (List.replicate 7 both).flatten

def raceStarts : Bool → CycleStart :=
  fun _ => ⟨{ smallFileCountThreshold := 0 }, none, "run", 0⟩

def raceChoices : SparkChoices String String :=
  { lateOptimizeFailure with failsAfter := fun _ => none }

theorem shown_raceSteps : ∀ step ∈ raceSteps, ∀ stats ∈ step.shown, stats = hourTen := by
  simp [raceSteps, TableStep.shown, Told.shown, lockRace]

/-- The race leaves the row of the next hour in its file. -/
theorem table_keeps_rows_raceSteps :
    (⟨⟨"2024-06-11", (11 : Int), "login"⟩, 0, 4⟩ : StoredRow String String) ∈
      (tableAfter textSpark raceChoices "s3a://lakehouse/raw/events" raceStarts raceSteps
        nullableTable).rows := by
  have verbatim : ∀ step ∈ raceSteps, ∀ stats ∈ step.shown,
      Sql.Verbatim stats.eventDate.toList := by
    intro step member stats shown
    rw [shown_raceSteps step member stats shown]
    exact verbatim_hourTen
  refine (table_keeps_rows textSpark raceChoices "s3a://lakehouse/raw/events" raceStarts
    nullableTable verbatim).2 _ (by decide +kernel) fun stats member => ?_
  obtain ⟨step, inside, shown⟩ := List.mem_flatMap.mp member
  rw [shown_raceSteps step inside stats shown]
  decide +kernel

example :
    let final := tableAfter textSpark raceChoices "s3a://lakehouse/raw/events" raceStarts raceSteps
      nullableTable
    final.version = 4 ∧ final.rows.length = 6 := by
  decide +kernel

end Lakehouse
