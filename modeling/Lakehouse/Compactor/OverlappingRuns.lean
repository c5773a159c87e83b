import Mathlib.Data.List.GetD
import Lakehouse.Compactor.CyclePhases
import Lakehouse.Compactor.DeltaCompactor
import Lakehouse.Compactor.LeaseSafety
import Lakehouse.Compactor.Settling

/-!
# Two cycles on one table

Two untargeted cycles perform their calls in any order, each call as a whole, over the objects of
the table and the stored locks.  The calls end within the age skip, and no lock which a cycle holds
expires.  A partition is rewritten once as long as every lock is granted to a cycle whose scan saw
all files which the partition has at that time.
-/

namespace Lakehouse

open Foundation

/-- Two untargeted cycles with one configuration. -/
structure TwoRuns where
  config : CompactionConfig
  ownerId : Bool → String
  ownerId_injective : Function.Injective ownerId
  runId : Bool → String
  startedAt : Bool → Int

/-- One call of a run, and what the environment decides about it. -/
structure RunStep where
  run : Bool
  /-- When the call ends. -/
  time : Int
  /-- The exception which the call raises, if it can raise. -/
  fault : Option PyException := none
  /-- Whether the call takes effect before it raises. -/
  late : Bool := false
  pages : List (List S3Object) := []
  /-- The readings of the clock by the selection, as far as they differ from the time. -/
  readings : List Int := []
  /-- The files which are committed. -/
  written : List S3Object := []
  filesAndBytesAfter : Int × Int := (0, 0)
  durationMillis : Int := 0
  method : CompactionMethod := .zorderInspired

/-- The stores which both runs use, and what has happened. -/
structure OverlapWorld where
  clock : Int
  objects : List S3Object
  bucket : Bucket
  /-- The objects which were stored when the run scanned them. -/
  snapshot : Bool → List S3Object
  /-- The partition which the run has locked, and the time of its acquisition. -/
  held : Bool → Option (String × Int)
  /-- Which run has committed files to which partition. -/
  rewrites : List (Bool × (String × Int))

/-- Every partition is rewritten by at most one of the two runs. -/
def OverlapWorld.RewrittenOnce (world : OverlapWorld) : Prop :=
  ∀ key, ¬((true, key) ∈ world.rewrites ∧ (false, key) ∈ world.rewrites)

/-- Both runs with what is left to execute of them. -/
abbrev OverlapState :=
  Program.Shared Bool OverlapWorld CycleCall CycleReply PyException CompactionRunMetrics

/-- The reply of a call which raises; some calls cannot. -/
def raising : (request : CycleCall) → PyException → CycleReply request → CycleReply request
  | .verifyDeltaTableExists, exc, _ => .error exc
  | .scanPartitions, exc, _ => .error exc
  | .createSparkSession, exc, _ => .error exc
  | .acquire _ _, exc, _ => .error exc
  | .compactPartition _, exc, _ => .error exc
  | .release _, exc, _ => .error exc
  | .selectionClock, _, reply => reply
  | .now, _, reply => reply
  | .writeRunSummary _, _, reply => reply
  | .stopSparkSession, _, reply => reply

namespace TwoRuns

variable (runs : TwoRuns)

/-- The lock managers of the runs. -/
def fleet : UniformFleet Bool where
  manager run :=
    { config := runs.config
      ownerId := runs.ownerId run
      runId := runs.runId run }
  lockBasePath := runs.config.lockBasePath
  lockBasePath_eq _ := rfl
  ownerId_injective := runs.ownerId_injective
  lockTimeoutSeconds := runs.config.lockTimeoutSeconds
  lockTimeoutSeconds_eq _ := rfl

/-- The start of the first run. -/
def begins : Int := min (runs.startedAt true) (runs.startedAt false)

/-- The whole `acquire` of a run, which reads the clock itself. -/
def acquire (run : Bool) (partitionId runId : String) (time : Int) (bucket : Bucket) :
    Except PyException Bool × Bucket :=
  ((runs.fleet.manager run).acquire partitionId none (some runId)).runWith (serve time) bucket

theorem acquire_eq_acquireAt (run : Bool) (partitionId runId : String) (time : Int)
    (bucket : Bucket) :
    runs.acquire run partitionId runId time bucket =
      runs.fleet.acquireAt run partitionId time (some runId) bucket :=
  LockManager.runWith_acquire_none _

/-- A call which does not raise on account of its environment. -/
def effect (step : RunStep) :
    (request : CycleCall) → OverlapWorld → CycleReply request × OverlapWorld
  | .verifyDeltaTableExists, world =>
      (Lakehouse.verifyDeltaTableExists runs.config world.objects, world)
  | .scanPartitions, world =>
      (.ok (Lakehouse.scanPartitions runs.config step.pages),
        { world with snapshot := Function.update world.snapshot step.run world.objects })
  | .selectionClock, world => (fun index => step.readings.getD index step.time, world)
  | .createSparkSession, world => (.ok (), world)
  | .acquire partitionId runId, world =>
      let result := runs.acquire step.run partitionId runId step.time world.bucket
      (result.1,
        { world with
          bucket := result.2
          held :=
            if result.1 = .ok true then
              Function.update world.held step.run (some (partitionId, step.time))
            else world.held })
  | .compactPartition stats, world =>
      (.ok (compactionMetrics stats step.filesAndBytesAfter step.durationMillis step.method),
        { world with
          objects := world.objects ++ step.written
          rewrites :=
            if step.written = [] then world.rewrites
            else (step.run, stats.key) :: world.rewrites })
  | .release partitionId, world =>
      let result := runs.fleet.releaseAt step.run partitionId step.time world.bucket
      (result.1,
        { world with
          bucket := result.2
          held := Function.update world.held step.run none })
  | .now, world => (step.time, world)
  | .writeRunSummary _, world => ((), world)
  | .stopSparkSession, world => ((), world)

/-- A call, which may raise before or after its effect. -/
def answer (step : RunStep) (request : CycleCall) (world : OverlapWorld) :
    CycleReply request × OverlapWorld :=
  let result := runs.effect step request world
  match step.fault with
  | none => (result.1, { result.2 with clock := step.time })
  | some exc =>
      (raising request exc result.1,
        { (if step.late then result.2 else world) with clock := step.time })

/-- Time goes on, within the age skip and before the held locks expire. -/
def Timely (world : OverlapWorld) (step : RunStep) : Prop :=
  world.clock ≤ step.time ∧
    step.time < runs.begins + minutes runs.config.partitionAgeSkipMinutes ∧
      ∀ run, ∀ lock ∈ world.held run, step.time < lock.2 + runs.fleet.leaseTime

instance (world : OverlapWorld) (step : RunStep) : Decidable (runs.Timely world step) :=
  inferInstanceAs (Decidable (_ ∧ _ ∧ _))

/-- What the environment decides is possible for the call: a scan lists the objects, the clock is
read during the selection, and the files of a commit are new files of the partition. -/
def Possible (world : OverlapWorld) (step : RunStep) : CycleCall → Prop
  | .scanPartitions => Lists runs.config world.objects step.pages
  | .selectionClock => ∀ reading ∈ step.readings, world.clock ≤ reading ∧ reading ≤ step.time
  | .compactPartition stats =>
      tableListing runs.config step.written = step.written ∧
        ∀ object ∈ step.written, scannedPartition runs.config object = some stats.key ∧
          runs.begins ≤ object.lastModified ∧ object.lastModified ≤ step.time
  | _ => True

instance (world : OverlapWorld) (step : RunStep) :
    (request : CycleCall) → Decidable (runs.Possible world step request)
  | .scanPartitions => inferInstanceAs (Decidable (List.Perm _ _))
  | .selectionClock => inferInstanceAs (Decidable (∀ reading ∈ step.readings, _ ∧ _))
  | .compactPartition _ => inferInstanceAs (Decidable (_ ∧ ∀ object ∈ step.written, _ ∧ _ ∧ _))
  | .verifyDeltaTableExists => inferInstanceAs (Decidable True)
  | .createSparkSession => inferInstanceAs (Decidable True)
  | .acquire _ _ => inferInstanceAs (Decidable True)
  | .release _ => inferInstanceAs (Decidable True)
  | .now => inferInstanceAs (Decidable True)
  | .writeRunSummary _ => inferInstanceAs (Decidable True)
  | .stopSparkSession => inferInstanceAs (Decidable True)

/-- The two runs, call by call. -/
def machine : Machine OverlapState RunStep where
  step state step :=
    match state.threads step.run with
    | .done _ => none
    | .raise _ => none
    | .call request _ =>
        if runs.Timely state.world step ∧ runs.Possible state.world step request then
          some (Program.advance (runs.answer step) step.run state)
        else none

/-- Both runs before their first calls, over any objects and stored locks. -/
def startState (objects : List S3Object) (bucket : Bucket) : OverlapState where
  world :=
    { clock := runs.begins
      objects
      bucket
      snapshot := fun _ => []
      held := fun _ => none
      rewrites := [] }
  threads run := runCompactionCycle runs.config none (runs.runId run) (runs.startedAt run)

/-- If the call is granted the lock of a partition, the scan of its run has seen all files which
are stored in this partition. -/
def LocksSeen (world : OverlapWorld) (step : RunStep) : CycleCall → Prop
  | .acquire partitionId runId =>
      step.fault = none →
        (runs.acquire step.run partitionId runId step.time world.bucket).1 = .ok true →
          ∀ object ∈ tableListing runs.config world.objects,
            ∀ key ∈ scannedPartition runs.config object, partitionIdText key.1 key.2 = partitionId →
              object ∈ world.snapshot step.run
  | _ => True

instance (world : OverlapWorld) (step : RunStep) :
    (request : CycleCall) → Decidable (runs.LocksSeen world step request)
  | .acquire partitionId runId =>
      inferInstanceAs (Decidable (step.fault = none →
        (runs.acquire step.run partitionId runId step.time world.bucket).1 = .ok true →
          ∀ object ∈ tableListing runs.config world.objects,
            ∀ key ∈ scannedPartition runs.config object, partitionIdText key.1 key.2 = partitionId →
              object ∈ world.snapshot step.run))
  | .verifyDeltaTableExists => .isTrue trivial
  | .scanPartitions => .isTrue trivial
  | .selectionClock => .isTrue trivial
  | .createSparkSession => .isTrue trivial
  | .compactPartition _ => .isTrue trivial
  | .release _ => .isTrue trivial
  | .now => .isTrue trivial
  | .writeRunSummary _ => .isTrue trivial
  | .stopSparkSession => .isTrue trivial

/-- The next call of the run which takes the step locks no partition with unseen files. -/
def StepLocksSeen (state : OverlapState) (step : RunStep) : Prop :=
  match state.threads step.run with
  | .call request _ => runs.LocksSeen state.world step request
  | _ => True

instance (state : OverlapState) (step : RunStep) : Decidable (runs.StepLocksSeen state step) :=
  match call : state.threads step.run with
  | .done _ => .isTrue (by simp only [StepLocksSeen, call])
  | .raise _ => .isTrue (by simp only [StepLocksSeen, call])
  | .call request _ =>
      decidable_of_iff (runs.LocksSeen state.world step request)
        (by simp only [StepLocksSeen, call])

/-! ## Steps -/

variable {runs} {world : OverlapWorld} {step : RunStep} {state next : OverlapState}

/-- A step performs the next call of its run. -/
theorem machine_step (taken : runs.machine.step state step = some next) :
    ∃ request resume, state.threads step.run = .call request resume ∧
      runs.Timely state.world step ∧ runs.Possible state.world step request ∧
      next =
        { world := (runs.answer step request state.world).2
          threads := Function.update state.threads step.run
            (resume (runs.answer step request state.world).1) } := by
  simp only [machine] at taken
  split at taken
  · simp at taken
  · simp at taken
  · rename_i request resume call
    split at taken
    · rename_i enabled
      rw [Program.advance_of_call _ call] at taken
      exact ⟨request, resume, call, enabled.1, enabled.2, (Option.some.inj taken).symm⟩
    · simp at taken

/-- Whether the call raises or not, it has its effect or none. -/
@[elab_as_elim]
theorem answer_cases {motive : OverlapWorld → Prop} (step : RunStep) (request : CycleCall)
    (world : OverlapWorld) (no_effect : motive { world with clock := step.time })
    (effect : motive { (runs.effect step request world).2 with clock := step.time }) :
    motive (runs.answer step request world).2 := by
  rw [answer]
  cases step.fault with
  | none => exact effect
  | some exc =>
      cases step.late with
      | false => exact no_effect
      | true => exact effect

/-! ## The locks -/

/-- The locks which the runs hold are stored. -/
def HoldsLocks (runs : TwoRuns) (world : OverlapWorld) : Prop :=
  ∀ run partitionId acquired, world.held run = some (partitionId, acquired) →
    runs.fleet.Holds world.bucket run partitionId acquired

private theorem holdsLocks_acquire {partitionId runId : String} (holds : runs.HoldsLocks world)
    (timely : runs.Timely world step) :
    runs.HoldsLocks (runs.effect step (.acquire partitionId runId) world).2 := by
  have stays : ∀ run lockedId acquired, world.held run = some (lockedId, acquired) →
      (run = step.run → lockedId = partitionId →
        (runs.acquire step.run partitionId runId step.time world.bucket).1 ≠ .ok true) →
      runs.fleet.Holds (runs.acquire step.run partitionId runId step.time world.bucket).2 run
        lockedId acquired := by
    intro run lockedId acquired locked refused
    have unexpired := timely.2.2 run _ locked
    have stored := holds run lockedId acquired locked
    let event : LockEvent Bool := ⟨step.run, step.time, .acquire partitionId runId⟩
    show runs.fleet.Holds (runs.fleet.bucketAfter event world.bucket) run lockedId acquired
    refine UniformFleet.holds_bucketAfter stored unexpired ?_ (by simp [event])
    intro otherId acquires same
    obtain ⟨rfl, -⟩ := LockOp.acquire.inj acquires
    subst same
    have granted := UniformFleet.acquireAt_self_of_holds stored unexpired (some runId)
    rw [← acquire_eq_acquireAt] at granted
    exact refused rfl rfl granted
  intro run lockedId acquired locked
  simp only [effect] at locked ⊢
  split at locked
  · rename_i granted
    by_cases own : run = step.run
    · subst own
      rw [Function.update_self] at locked
      obtain ⟨rfl, rfl⟩ := Prod.mk.inj (Option.some.inj locked)
      rw [acquire_eq_acquireAt] at granted ⊢
      exact UniformFleet.holds_of_acquireAt granted
    · rw [Function.update_of_ne own] at locked
      exact stays run lockedId acquired locked fun same => absurd same own
  · rename_i refused
    exact stays run lockedId acquired locked fun _ _ => refused

private theorem holdsLocks_release {partitionId : String} (holds : runs.HoldsLocks world)
    (timely : runs.Timely world step) :
    runs.HoldsLocks (runs.effect step (.release partitionId) world).2 := by
  intro run lockedId acquired locked
  simp only [effect] at locked ⊢
  by_cases own : run = step.run
  · subst own
    simp at locked
  · rw [Function.update_of_ne own] at locked
    let event : LockEvent Bool := ⟨step.run, step.time, .release partitionId⟩
    show runs.fleet.Holds (runs.fleet.bucketAfter event world.bucket) run lockedId acquired
    exact UniformFleet.holds_bucketAfter (holds run lockedId acquired locked)
      (timely.2.2 run _ locked) (by simp [event]) fun _ => Ne.symm own

theorem holdsLocks_answer (holds : runs.HoldsLocks world) (timely : runs.Timely world step)
    (request : CycleCall) : runs.HoldsLocks (runs.answer step request world).2 := by
  have effected : runs.HoldsLocks (runs.effect step request world).2 := by
    cases request with
    | acquire partitionId runId => exact holdsLocks_acquire holds timely
    | release partitionId => exact holdsLocks_release holds timely
    | _ => exact holds
  exact answer_cases step request world holds effected

/-- The runs do not hold the lock of one partition at one time. -/
theorem HoldsLocks.run_eq (holds : runs.HoldsLocks world) {run other : Bool} {partitionId : String}
    {acquired otherAcquired : Int} (held : world.held run = some (partitionId, acquired))
    (also_held : world.held other = some (partitionId, otherAcquired)) : run = other :=
  (holds run partitionId acquired held).worker_eq (holds other partitionId otherAcquired also_held)

/-! ## The files -/

/-- Every rewritten partition has a file from the time of the runs. -/
def RewritesRecent (runs : TwoRuns) (world : OverlapWorld) : Prop :=
  ∀ entry ∈ world.rewrites, ∃ object ∈ tableListing runs.config world.objects,
    scannedPartition runs.config object = some entry.2 ∧ runs.begins ≤ object.lastModified

private theorem rewritesRecent_compact {stats : PartitionStats}
    (recent : runs.RewritesRecent world)
    (possible : runs.Possible world step (.compactPartition stats)) :
    runs.RewritesRecent (runs.effect step (.compactPartition stats) world).2 := by
  intro entry member
  simp only [effect, tableListing_append, List.mem_append] at member ⊢
  have old : entry ∈ world.rewrites → ∃ object, (object ∈ tableListing runs.config world.objects ∨
      object ∈ tableListing runs.config step.written) ∧
      scannedPartition runs.config object = some entry.2 ∧ runs.begins ≤ object.lastModified := by
    intro before
    obtain ⟨object, listed, filed⟩ := recent entry before
    exact ⟨object, .inl listed, filed⟩
  split at member
  · exact old member
  · rename_i nonempty
    rcases List.mem_cons.mp member with rfl | before
    · obtain ⟨listed, inside⟩ := possible
      obtain ⟨object, new⟩ := List.exists_mem_of_ne_nil _ nonempty
      obtain ⟨filed, begins, -⟩ := inside object new
      exact ⟨object, .inr (listed.symm ▸ new), filed, begins⟩
    · exact old before

theorem rewritesRecent_answer {request : CycleCall} (recent : runs.RewritesRecent world)
    (possible : runs.Possible world step request) :
    runs.RewritesRecent (runs.answer step request world).2 := by
  have effected : runs.RewritesRecent (runs.effect step request world).2 := by
    cases request with
    | compactPartition stats => exact rewritesRecent_compact recent possible
    | _ => exact recent
  exact answer_cases step request world recent effected

/-- The files of the partition are older than the runs. -/
def OldIn (runs : TwoRuns) (store : List S3Object) (key : String × Int) : Prop :=
  ∀ object ∈ tableListing runs.config store,
    scannedPartition runs.config object = some key → object.lastModified < runs.begins

/-- A selected partition has only old files. -/
theorem oldIn_of_selected {store : List S3Object} {pages : List (List S3Object)}
    {clock : Nat → Int} {stats : PartitionStats} (lists : Lists runs.config store pages)
    (early : ∀ index, clock index < runs.begins + minutes runs.config.partitionAgeSkipMinutes)
    (selected : stats ∈
      (selectPartitions (.fromConfig runs.config) (scanPartitions runs.config pages) clock).1) :
    runs.OldIn store stats.key := by
  intro object listed filed
  obtain ⟨member, index, eligible⟩ := mem_selectPartitions selected
  obtain ⟨-, old, -⟩ := evaluatePartition_eligible.mp eligible
  have file : object.toFile ∈ stats.files :=
    (files_perm_storedFiles lists member).mem_iff.mpr (toFile_mem_filesOf listed filed)
  have before := old _ file
  have reading := early index
  simp only [PartitionSelectionPolicy.fromConfig, S3Object.toFile] at before
  omega

/-- A partition whose stored files a scan has seen, and which it found old, is not rewritten. -/
theorem not_rewritten_of_old {store : List S3Object} {key : String × Int} {run : Bool}
    (recent : runs.RewritesRecent world) (old : runs.OldIn store key)
    (seen : ∀ object ∈ tableListing runs.config world.objects,
      scannedPartition runs.config object = some key → object ∈ store) :
    (run, key) ∉ world.rewrites := by
  intro rewritten
  obtain ⟨object, listed, filed, begins⟩ := recent _ rewritten
  have listed_before : object ∈ tableListing runs.config store :=
    List.mem_filter.mpr ⟨seen object listed filed, (List.mem_filter.mp listed).2⟩
  have before := old object listed_before filed
  omega

/-! ## The phases -/

/-- What a run in a phase has seen, and what it holds. -/
def PhaseSound (runs : TwoRuns) (world : OverlapWorld) (run : Bool) : CyclePhase → Prop
  | .fresh => True
  | .scanned partitions =>
      ∃ pages, Lists runs.config (world.snapshot run) pages ∧
        partitions = scanPartitions runs.config pages
  | .planned plan locked =>
      (∀ stats ∈ plan, runs.OldIn (world.snapshot run) stats.key) ∧
        ∀ partitionId, locked = some partitionId →
          (∃ acquired, world.held run = some (partitionId, acquired)) ∧
            ∀ stats ∈ plan, stats.partitionId = partitionId → (!run, stats.key) ∉ world.rewrites

/-- A world which differs in nothing that a run has seen or holds. -/
theorem PhaseSound.frame {later : OverlapWorld} {run : Bool} {phase : CyclePhase}
    (sound : runs.PhaseSound world run phase) (snapshot : later.snapshot run = world.snapshot run)
    (held : later.held run = world.held run)
    (rewrites : ∀ plan partitionId, phase = .planned plan (some partitionId) → ∀ stats ∈ plan,
      stats.partitionId = partitionId → (!run, stats.key) ∈ later.rewrites →
        (!run, stats.key) ∈ world.rewrites) : runs.PhaseSound later run phase := by
  cases phase with
  | fresh => trivial
  | scanned partitions =>
      rw [PhaseSound, snapshot]
      exact sound
  | planned plan locked =>
      rw [PhaseSound, snapshot, held]
      refine ⟨sound.1, fun partitionId holds => ?_⟩
      obtain ⟨acquired, others⟩ := sound.2 partitionId holds
      refine ⟨acquired, fun stats member same rewritten => ?_⟩
      subst holds
      exact others stats member same (rewrites plan partitionId rfl stats member same rewritten)

theorem snapshot_answer_of_ne {other : Bool} (ne : other ≠ step.run) (request : CycleCall) :
    (runs.answer step request world).2.snapshot other = world.snapshot other := by
  have effected : (runs.effect step request world).2.snapshot other = world.snapshot other := by
    cases request with
    | scanPartitions => exact Function.update_of_ne ne _ _
    | _ => rfl
  exact answer_cases step request world rfl effected

theorem held_answer_of_ne {other : Bool} (ne : other ≠ step.run) (request : CycleCall) :
    (runs.answer step request world).2.held other = world.held other := by
  have effected : (runs.effect step request world).2.held other = world.held other := by
    cases request with
    | acquire partitionId runId =>
        simp only [effect]
        split
        · exact Function.update_of_ne ne _ _
        · rfl
    | release partitionId => exact Function.update_of_ne ne _ _
    | _ => rfl
  exact answer_cases step request world rfl effected

/-- Only a commit of the run itself is recorded. -/
theorem mem_rewrites_answer {request : CycleCall} {entry : Bool × (String × Int)}
    (member : entry ∈ (runs.answer step request world).2.rewrites) :
    entry ∈ world.rewrites ∨
      ∃ stats, request = .compactPartition stats ∧ entry = (step.run, stats.key) := by
  have effected : entry ∈ (runs.effect step request world).2.rewrites →
      entry ∈ world.rewrites ∨
        ∃ stats, request = .compactPartition stats ∧ entry = (step.run, stats.key) := by
    cases request with
    | compactPartition stats =>
        intro after
        simp only [effect] at after
        split at after
        · exact .inl after
        · rcases List.mem_cons.mp after with new | before
          · exact .inr ⟨stats, rfl, new⟩
          · exact .inl before
    | _ => exact .inl
  revert member
  exact answer_cases step request world .inl effected

/-- A call of one run leaves the phase of the other sound, unless it rewrites the partition which
the other has locked. -/
theorem phaseSound_other {request : CycleCall} {other : Bool} {phase : CyclePhase}
    (ne : other ≠ step.run) (sound : runs.PhaseSound world other phase)
    (excluded : ∀ stats plan, request = .compactPartition stats →
      phase ≠ .planned plan (some stats.partitionId)) :
    runs.PhaseSound (runs.answer step request world).2 other phase := by
  refine sound.frame (snapshot_answer_of_ne ne request) (held_answer_of_ne ne request) ?_
  intro plan partitionId locked planned _ same rewritten
  rcases mem_rewrites_answer rewritten with before | ⟨stats, compacts, new⟩
  · exact before
  · have id := PartitionStats.partitionId_eq_of_key_eq (Prod.mk.inj new).2
    rw [← same, id] at locked
    exact absurd locked (excluded stats plan compacts)

/-- A run which has locked nothing has planned partitions with old files only. -/
theorem phaseSound_unlocked {run : Bool} {plan : List PartitionStats} :
    runs.PhaseSound world run (.planned plan none) ↔
      ∀ stats ∈ plan, runs.OldIn (world.snapshot run) stats.key := by
  simp [PhaseSound]

private theorem phaseSound_scan (possible : runs.Possible world step .scanPartitions) :
    runs.PhaseSound (runs.answer step .scanPartitions world).2 step.run
      (CyclePhase.fresh.next runs.config .scanPartitions
        (runs.answer step .scanPartitions world).1) := by
  rw [answer]
  cases step.fault with
  | none =>
      have listed : Lists runs.config world.objects step.pages := possible
      exact ⟨step.pages, by simpa [effect] using listed, rfl⟩
  | some exc => trivial

private theorem phaseSound_selection {partitions : List PartitionStats}
    (timely : runs.Timely world step) (possible : runs.Possible world step .selectionClock)
    (sound : runs.PhaseSound world step.run (.scanned partitions)) :
    runs.PhaseSound (runs.answer step .selectionClock world).2 step.run
      ((CyclePhase.scanned partitions).next runs.config .selectionClock
        (runs.answer step .selectionClock world).1) := by
  obtain ⟨pages, lists, rfl⟩ := sound
  have early : ∀ index, step.readings.getD index step.time <
      runs.begins + minutes runs.config.partitionAgeSkipMinutes := by
    intro index
    have soon := timely.2.1
    rcases Nat.lt_or_ge index step.readings.length with within | beyond
    · have reading := (possible _ (List.getElem_mem within)).2
      rw [List.getD_eq_getElem _ _ within]
      omega
    · rwa [List.getD_eq_default _ _ beyond]
  have old : ∀ stats ∈ (selectPartitions (.fromConfig runs.config)
      (scanPartitions runs.config pages) fun index => step.readings.getD index step.time).1,
      runs.OldIn (world.snapshot step.run) stats.key := fun _ selected =>
    oldIn_of_selected lists early selected
  have reply : (runs.answer step .selectionClock world).1 =
      fun index => step.readings.getD index step.time := by
    rw [answer]
    cases step.fault with
    | none => rfl
    | some exc => rfl
  rw [reply]
  apply phaseSound_unlocked.mpr
  exact answer_cases step .selectionClock world old old

private theorem phaseSound_acquire {partitionId runId : String} {plan : List PartitionStats}
    (recent : runs.RewritesRecent world)
    (seen : runs.LocksSeen world step (.acquire partitionId runId))
    (sound : runs.PhaseSound world step.run (.planned plan none)) :
    runs.PhaseSound (runs.answer step (.acquire partitionId runId) world).2 step.run
      ((CyclePhase.planned plan none).next runs.config (.acquire partitionId runId)
        (runs.answer step (.acquire partitionId runId) world).1) := by
  have old := phaseSound_unlocked.mp sound
  rw [answer]
  cases raised : step.fault with
  | some exc =>
      cases step.late with
      | false => exact phaseSound_unlocked.mpr old
      | true => exact phaseSound_unlocked.mpr old
  | none =>
      simp only [effect]
      cases reply : (runs.acquire step.run partitionId runId step.time world.bucket).1 with
      | error exc => exact phaseSound_unlocked.mpr old
      | ok granted =>
          cases granted with
          | false => exact phaseSound_unlocked.mpr old
          | true =>
              refine ⟨old, fun lockedId locked => ?_⟩
              obtain rfl := Option.some.inj locked
              refine ⟨⟨step.time, by simp⟩, fun stats member same => ?_⟩
              refine not_rewritten_of_old recent (old stats member) fun object listed filed => ?_
              exact seen raised reply object listed stats.key filed same

private theorem phaseSound_release {partitionId : String} {plan : List PartitionStats}
    {locked : Option String} (sound : runs.PhaseSound world step.run (.planned plan locked)) :
    runs.PhaseSound (runs.answer step (.release partitionId) world).2 step.run
      ((CyclePhase.planned plan locked).next runs.config (.release partitionId)
        (runs.answer step (.release partitionId) world).1) := by
  apply phaseSound_unlocked.mpr
  exact answer_cases step (.release partitionId) world sound.1 sound.1

private theorem phaseSound_compact {stats : PartitionStats} {plan : List PartitionStats}
    {locked : Option String} (sound : runs.PhaseSound world step.run (.planned plan locked)) :
    runs.PhaseSound (runs.answer step (.compactPartition stats) world).2 step.run
      ((CyclePhase.planned plan locked).next runs.config (.compactPartition stats)
        (runs.answer step (.compactPartition stats) world).1) := by
  have kept : (runs.answer step (.compactPartition stats) world).2.snapshot = world.snapshot ∧
      (runs.answer step (.compactPartition stats) world).2.held = world.held :=
    answer_cases step (.compactPartition stats) world ⟨rfl, rfl⟩ ⟨rfl, rfl⟩
  refine sound.frame (congrFun kept.1 _) (congrFun kept.2 _) ?_
  intro _ _ _ planned _ _ rewritten
  rcases mem_rewrites_answer rewritten with before | ⟨_, _, new⟩
  · exact before
  · exact absurd (Prod.mk.inj new).1 (by simp)

private theorem phaseSound_quiet {request : CycleCall} {phase : CyclePhase}
    (quiet : (runs.effect step request world).2 = world)
    (sound : runs.PhaseSound world step.run phase) :
    runs.PhaseSound (runs.answer step request world).2 step.run phase := by
  have later : runs.PhaseSound { world with clock := step.time } step.run phase :=
    sound.frame rfl rfl fun _ _ _ _ _ _ => id
  refine answer_cases step request world later ?_
  rwa [quiet]

/-- A permitted call leaves its own run in a sound phase. -/
theorem phaseSound_own {request : CycleCall} {phase : CyclePhase}
    (permitted : phase.permits request) (timely : runs.Timely world step)
    (possible : runs.Possible world step request) (recent : runs.RewritesRecent world)
    (seen : runs.LocksSeen world step request) (sound : runs.PhaseSound world step.run phase) :
    runs.PhaseSound (runs.answer step request world).2 step.run
      (phase.next runs.config request (runs.answer step request world).1) := by
  cases request with
  | scanPartitions =>
      obtain rfl : phase = .fresh := permitted
      exact phaseSound_scan possible
  | selectionClock =>
      obtain ⟨partitions, rfl⟩ := permitted
      exact phaseSound_selection timely possible sound
  | acquire partitionId runId =>
      obtain ⟨plan, rfl, -⟩ := permitted
      exact phaseSound_acquire recent seen sound
  | compactPartition stats =>
      obtain ⟨plan, rfl, -⟩ := permitted
      exact phaseSound_compact sound
  | release partitionId =>
      obtain ⟨plan, rfl⟩ := permitted
      exact phaseSound_release sound
  | _ => cases phase <;> exact phaseSound_quiet rfl sound

/-! ## Whole runs -/

/-- The invariant of both runs. -/
structure Sound (runs : TwoRuns) (state : OverlapState) : Prop where
  locks : runs.HoldsLocks state.world
  recent : runs.RewritesRecent state.world
  once : state.world.RewrittenOnce
  phases : ∀ run, ∃ phase, (state.threads run).Follows (cycleProtocol runs.config) phase ∧
    runs.PhaseSound state.world run phase

/-- A permitted commit is the first of its partition by either run, or by this run again. -/
private theorem rewrittenOnce_answer {request : CycleCall} {phase : CyclePhase}
    (once : world.RewrittenOnce) (permitted : phase.permits request)
    (sound : runs.PhaseSound world step.run phase) :
    (runs.answer step request world).2.RewrittenOnce := by
  rintro key ⟨first, second⟩
  have unlocked : ∀ stats, request = .compactPartition stats →
      (!step.run, stats.key) ∉ world.rewrites := by
    rintro stats rfl
    obtain ⟨plan, rfl, member⟩ := permitted
    exact (sound.2 _ rfl).2 stats member rfl
  rcases mem_rewrites_answer first with before | ⟨stats, compacts, new⟩
  · rcases mem_rewrites_answer second with also_before | ⟨stats, compacts, new⟩
    · exact once key ⟨before, also_before⟩
    · obtain ⟨own, rfl⟩ := Prod.mk.inj new
      exact unlocked stats compacts (by rwa [← own])
  · obtain ⟨own, rfl⟩ := Prod.mk.inj new
    rcases mem_rewrites_answer second with before | ⟨_, _, also_new⟩
    · exact unlocked stats compacts (by rwa [← own])
    · exact absurd (own.trans (Prod.mk.inj also_new).1.symm) (by decide)

theorem sound_step (sound : runs.Sound state) (seen : runs.StepLocksSeen state step)
    (taken : runs.machine.step state step = some next) : runs.Sound next := by
  obtain ⟨request, resume, call, timely, possible, rfl⟩ := machine_step taken
  rw [StepLocksSeen, call] at seen
  obtain ⟨phase, follows, phase_sound⟩ := sound.phases step.run
  rw [call, Program.follows_call] at follows
  obtain ⟨permitted, later⟩ := follows
  refine ⟨holdsLocks_answer sound.locks timely request, rewritesRecent_answer sound.recent possible,
    rewrittenOnce_answer sound.once permitted phase_sound, fun run => ?_⟩
  by_cases own : run = step.run
  · subst own
    refine ⟨_, ?_, phaseSound_own permitted timely possible sound.recent seen phase_sound⟩
    simp only [Function.update_self]
    exact later _
  · obtain ⟨other_phase, other_follows, other_sound⟩ := sound.phases run
    refine ⟨other_phase, by simpa [Function.update_of_ne own] using other_follows, ?_⟩
    refine phaseSound_other own other_sound ?_
    -- both runs would hold the lock of the partition
    rintro stats plan rfl rfl
    obtain ⟨own_plan, rfl, -⟩ := permitted
    obtain ⟨acquired, held⟩ := (phase_sound.2 _ rfl).1
    obtain ⟨other_acquired, other_held⟩ := (other_sound.2 _ rfl).1
    exact own (sound.locks.run_eq other_held held)

theorem sound_startState (objects : List S3Object) (bucket : Bucket) :
    runs.Sound (runs.startState objects bucket) where
  locks := by simp [HoldsLocks, startState]
  recent := by simp [RewritesRecent, startState]
  once := by simp [OverlapWorld.RewrittenOnce, startState]
  phases run := ⟨.fresh, follows_runCompactionCycle _ _ _, trivial⟩

/-- As long as every lock is granted to a run whose scan saw all files of the partition, every
partition is rewritten by at most one of the two runs. -/
theorem rewritten_once {objects : List S3Object} {bucket : Bucket} {steps : List RunStep}
    {final : OverlapState}
    (run : runs.machine.exec (runs.startState objects bucket) steps = some final)
    (seen : runs.machine.EveryStep runs.StepLocksSeen (runs.startState objects bucket) steps) :
    final.world.RewrittenOnce :=
  (runs.machine.exec_invariant_of_everyStep sound_step (sound_startState objects bucket) run
    seen).once

/-! ### Two runs on one partition -/

/-- Two workers which start together. -/
def twoWorkers : TwoRuns where
  config := oneSmallFile
  ownerId run := if run then "worker-1" else "worker-2"
  ownerId_injective := by
    intro left right
    cases left <;> cases right <;> decide
  runId run := if run then "4f1c0a9be27d" else "9d03be71c5aa"
  startedAt _ := hours 1

/-- A table with two small files in one partition. -/
def smallTable : List S3Object :=
  [⟨"raw/events/_delta_log/00000000000000000000.json", 900, 0⟩,
    smallObject "part-0", smallObject "part-1"]

/-- A call which ends some seconds after the start. -/
def callAfter (run : Bool) (elapsed : Int) : RunStep where
  run := run
  time := hours 1 + seconds elapsed

/-- A scan of the given objects. -/
def scanAfter (run : Bool) (elapsed : Int) (objects : List S3Object) : RunStep :=
  { callAfter run elapsed with pages := [objects] }

/-- A file which is written some seconds after the start. -/
def newFile (name : String) (elapsed : Int) : S3Object :=
  { smallObject name with lastModified := hours 1 + seconds elapsed }

/-- A commit of one file. -/
def commitAfter (run : Bool) (elapsed : Int) (name : String) : RunStep :=
  { callAfter run elapsed with written := [newFile name elapsed] }

/-- The first worker runs up to the release of the partition. -/
def firstWorkerRuns : List RunStep :=
  [callAfter true 5, scanAfter true 6 smallTable, callAfter true 7, callAfter true 8,
    callAfter true 9, commitAfter true 10 "part-2", callAfter true 11]

/-- The second worker plans before the first one starts, and locks the partition after it. -/
def plansThenLocks : List RunStep :=
  [callAfter false 1, scanAfter false 2 smallTable, callAfter false 3, callAfter false 4] ++
    firstWorkerRuns ++ [callAfter false 12, commitAfter false 13 "part-3"]

theorem twoWorkers_rewrite_twice :
    0 < twoWorkers.config.partitionAgeSkipMinutes ∧
      ∃ final, twoWorkers.machine.exec (twoWorkers.startState smallTable fun _ => none)
          plansThenLocks = some final ∧ ¬final.world.RewrittenOnce := by
  have rewrites : (twoWorkers.machine.exec (twoWorkers.startState smallTable fun _ => none)
      plansThenLocks).map (·.world.rewrites) =
        some [(false, ("2024-06-11", 10)), (true, ("2024-06-11", 10))] := by
    decide +kernel
  obtain ⟨final, run, both⟩ := Option.map_eq_some_iff.mp rewrites
  refine ⟨by decide, final, run, fun once => ?_⟩
  exact once ("2024-06-11", 10) (by simp [both])

/-- The second worker scans when the first one is done, and finds the partition too recent. -/
def scansAfterwards : List RunStep :=
  firstWorkerRuns ++
    [callAfter false 12, scanAfter false 13 (smallTable ++ [newFile "part-2" 10]),
      callAfter false 14, callAfter false 15]

theorem rewritten_once_scansAfterwards :
    ∃ final, twoWorkers.machine.exec (twoWorkers.startState smallTable fun _ => none)
      scansAfterwards = some final ∧ final.world.RewrittenOnce := by
  have completes : (twoWorkers.machine.exec (twoWorkers.startState smallTable fun _ => none)
      scansAfterwards).isSome = true := by
    decide +kernel
  have seen : twoWorkers.machine.EveryStep twoWorkers.StepLocksSeen
      (twoWorkers.startState smallTable fun _ => none) scansAfterwards := by
    decide +kernel
  obtain ⟨final, run⟩ := Option.isSome_iff_exists.mp completes
  exact ⟨final, run, rewritten_once run seen⟩

end TwoRuns

end Lakehouse
