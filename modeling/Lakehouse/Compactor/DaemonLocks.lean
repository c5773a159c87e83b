import Lakehouse.Compactor.CycleResources
import Lakehouse.Compactor.DaemonRun

/-!
# The locks of a daemon

Each cycle of a daemon has a lock manager of its own.  Between its cycles a daemon holds nothing,
neither for the cycle which has ended nor for any other one.
-/

namespace Lakehouse

open Foundation

/-! ## Locks of another owner -/

/-- No lock of the owner is stored. -/
def Lockless (ownerId : String) (bucket : Bucket) : Prop :=
  ∀ key lock, bucket.lock key = .ok (some lock) → lock.ownerId ≠ ownerId

theorem not_owns_of_lockless {manager : LockManager} {bucket : Bucket}
    (lockless : Lockless manager.ownerId bucket) (key : String) : ¬manager.Owns bucket key := by
  rintro ⟨lock, stored, own⟩
  exact lockless key lock stored own

theorem lockless_of_not_owns {manager : LockManager} {bucket : Bucket}
    (none_owned : ∀ key, ¬manager.Owns bucket key) : Lockless manager.ownerId bucket :=
  fun key lock stored own => none_owned key ⟨lock, stored, own⟩

theorem Lockless.run {ownerId : String} {bucket : Bucket} (lockless : Lockless ownerId bucket)
    (operation : ForeignOperation ownerId) : Lockless ownerId (operation.run bucket) := by
  intro key lock stored own
  exact lockless key lock (ForeignOperation.lock_before stored own) own

/-- Stores which differ at most in what was replaced. -/
def SameLocks (store store' : FailingStore) : Prop :=
  store.bucket = store'.bucket ∧ store.calls = store'.calls

/-- Stores with the same locks answer a call alike. -/
theorem serveFailing_congr (clock : Int) (faults : StorageFaults) (request : StorageCall)
    {store store' : FailingStore} (same : SameLocks store store') :
    (serveFailing clock faults request store).1 = (serveFailing clock faults request store').1 ∧
      SameLocks (serveFailing clock faults request store).2
        (serveFailing clock faults request store').2 := by
  obtain ⟨bucket, replaced, calls⟩ := store
  obtain ⟨bucket', replaced', calls'⟩ := store'
  obtain ⟨rfl, rfl⟩ : bucket = bucket' ∧ calls = calls' := same
  have replaces : ∀ (key : String) (value : Option LockBody) (fault : Option StorageFault),
      (FailingStore.tryReplace ⟨bucket, replaced, calls⟩ clock key value fault).1 =
          (FailingStore.tryReplace ⟨bucket, replaced', calls⟩ clock key value fault).1 ∧
        SameLocks (FailingStore.tryReplace ⟨bucket, replaced, calls⟩ clock key value fault).2
          (FailingStore.tryReplace ⟨bucket, replaced', calls⟩ clock key value fault).2 := by
    rintro key value (_ | ⟨error, _ | _⟩) <;> exact ⟨rfl, rfl, rfl⟩
  cases request with
  | now => exact ⟨rfl, rfl, rfl⟩
  | getObject key =>
      simp only [serveFailing]
      split <;> exact ⟨rfl, rfl, rfl⟩
  | putObject key body => exact replaces key (some body) _
  | deleteObject key => exact replaces key none _

/-- What a program leaves in the store does not depend on what was replaced before. -/
theorem bucket_runWith_serveFailing {α : Type} (clock : Int) (faults : StorageFaults)
    (program : LockProgram α) (bucket : Bucket) (replaced : List ReplacedRecord) :
    (program.runWith (serveFailing clock faults) { bucket, replaced }).2.bucket =
      (program.runWith (serveFailing clock faults) { bucket }).2.bucket := by
  have same : Program.SameRun (serveFailing clock faults) (serveFailing clock faults) SameLocks
      program program :=
    Program.sameRun_self (fun request _ _ same => serveFailing_congr clock faults request same) _
  exact (same { bucket, replaced } { bucket } ⟨rfl, rfl⟩).2.1

/-- An operation of a manager with another owner id. -/
def LockManager.asForeign (manager : LockManager) {ownerId : String}
    (foreign : manager.ownerId ≠ ownerId) (op : LockOp) (clock : Int) (faults : StorageFaults) :
    ForeignOperation ownerId where
  manager := manager
  foreign := foreign
  op := op
  now := none
  clock := clock
  faults := faults

theorem lockless_acquire {manager : LockManager} {ownerId : String}
    (foreign : manager.ownerId ≠ ownerId) (partitionId : String) (runId : Option String)
    (clock : Int) (faults : StorageFaults) {bucket : Bucket} (replaced : List ReplacedRecord)
    (lockless : Lockless ownerId bucket) :
    Lockless ownerId ((manager.acquire partitionId none runId).runWith (serveFailing clock faults)
      { bucket, replaced }).2.bucket := by
  have after := lockless.run
    (manager.asForeign foreign (.acquire partitionId runId) clock faults)
  rw [bucket_runWith_serveFailing]
  have same : (manager.asForeign foreign (.acquire partitionId runId) clock faults).run bucket =
      ((manager.acquire partitionId none runId).runWith (serveFailing clock faults)
        { bucket }).2.bucket := by
    simp only [ForeignOperation.run, LockManager.asForeign, LockOp.program, Program.runWith_bind]
    cases (manager.acquire partitionId none runId).runWith (serveFailing clock faults)
      { bucket } with
    | mk outcome later => cases outcome <;> rfl
  rwa [same] at after

theorem lockless_release {manager : LockManager} {ownerId : String}
    (foreign : manager.ownerId ≠ ownerId) (partitionId : String)
    (clock : Int) (faults : StorageFaults) {bucket : Bucket} (replaced : List ReplacedRecord)
    (lockless : Lockless ownerId bucket) :
    Lockless ownerId ((manager.release partitionId).runWith (serveFailing clock faults)
      { bucket, replaced }).2.bucket := by
  rw [bucket_runWith_serveFailing]
  exact lockless.run (manager.asForeign foreign (.release partitionId) clock faults)

namespace Surroundings

variable {manager : LockManager} {ownerId : String} (surroundings : Surroundings manager)

theorem lockless_interfere {operations : List (ForeignOperation manager.ownerId)}
    (outsiders : ∀ operation ∈ operations, operation.manager.ownerId ≠ ownerId) {bucket : Bucket}
    (lockless : Lockless ownerId bucket) : Lockless ownerId (interfere operations bucket) := by
  induction operations generalizing bucket with
  | nil => exact lockless
  | cons operation rest ih =>
      have foreign := outsiders operation List.mem_cons_self
      have first := lockless.run { operation with foreign := foreign }
      exact ih (fun later member => outsiders later (List.mem_cons_of_mem operation member)) first

/-- A call of a cycle stores no lock of an owner which neither the cycle nor the workers around it
are. -/
theorem lockless_handle (foreign : manager.ownerId ≠ ownerId)
    (outsiders : ∀ call, ∀ operation ∈ surroundings.others call,
      operation.manager.ownerId ≠ ownerId)
    (request : CycleCall) {world : CycleWorld} (lockless : Lockless ownerId world.bucket) :
    Lockless ownerId (surroundings.handle request world).2.bucket := by
  have entered : Lockless ownerId (surroundings.enter world).bucket :=
    lockless_interfere (outsiders world.calls) lockless
  cases request with
  | acquire partitionId runId =>
      exact lockless_acquire foreign partitionId _ _ _ _ entered
  | release partitionId => exact lockless_release foreign partitionId _ _ _ entered
  | createSparkSession =>
      simp only [handle]
      split <;> exact entered
  | _ => exact entered

theorem lockless_runCycle (foreign : manager.ownerId ≠ ownerId)
    (outsiders : ∀ call, ∀ operation ∈ surroundings.others call,
      operation.manager.ownerId ≠ ownerId)
    (targetPartition : Option String) (started : Int) {bucket : Bucket}
    (lockless : Lockless ownerId bucket) :
    Lockless ownerId (surroundings.runCycle targetPartition started bucket).2.bucket := by
  have preserved : ∀ (request : CycleCall) (world : CycleWorld), True →
      Lockless ownerId world.bucket →
      Lockless ownerId (surroundings.handle request world).2.bucket :=
    fun request _ _ => surroundings.lockless_handle foreign outsiders request
  exact Program.runWith_preserves surroundings.handle (Program.everyCall_true _) preserved lockless

/-- The world after a cycle, which has given back whatever it held. -/
theorem tracks_runCycle (targetPartition : Option String) (started : Int) {bucket : Bucket}
    (lockless : Lockless manager.ownerId bucket) :
    ∃ last, Tracks manager last (surroundings.runCycle targetPartition started bucket).2 ∧
      last.IsReleased := by
  have start : Tracks manager {} { bucket } :=
    ⟨fun key owns => absurd owns (not_owns_of_lockless lockless key), by simp, by simp, rfl⟩
  exact Program.runWith_followsTo surroundings.handle
    (releases_runCompactionCycle manager.config targetPartition manager.runId started)
    tracks_handle start

end Surroundings

/-- What a cycle leaves of itself in the world: each record it has replaced it has replaced rightly,
and it has stopped each session it has created. -/
structure CleanExit (manager : LockManager) (world : CycleWorld) : Prop where
  replaced : ∀ record ∈ world.replaced, manager.RightlyReplaced world.attempted record
  session : world.stopped = world.created ∧ world.created ≤ 1

theorem Tracks.lockless {manager : LockManager} {last : Holdings} {world : CycleWorld}
    (tracks : Surroundings.Tracks manager last world) (released : last.IsReleased) :
    Lockless manager.ownerId world.bucket := by
  refine lockless_of_not_owns fun key owns => ?_
  obtain ⟨partitionId, locked, -⟩ := tracks.owned key owns
  simp [released.1] at locked

theorem Tracks.cleanExit {manager : LockManager} {last : Holdings} {world : CycleWorld}
    (tracks : Surroundings.Tracks manager last world) (released : last.IsReleased) :
    CleanExit manager world := by
  refine ⟨tracks.replaced, ?_⟩
  have counted := tracks.session
  cases ends : last.session with
  | running => exact absurd ends released.2
  | absent =>
      rw [ends] at counted
      obtain ⟨created, stopped⟩ := Prod.mk.inj counted
      omega
  | stopped =>
      rw [ends] at counted
      obtain ⟨created, stopped⟩ := Prod.mk.inj counted
      omega

/-! ## A daemon among other workers -/

/-- The lock managers of the cycles of a daemon; each has a fresh owner id. -/
structure DaemonManagers where
  config : CompactionConfig
  ownerId : Nat → String
  runId : Nat → String
  ownerId_injective : Function.Injective ownerId

/-- The lock manager of a cycle. -/
def DaemonManagers.manager (managers : DaemonManagers) (number : Nat) : LockManager where
  config := managers.config
  ownerId := managers.ownerId number
  runId := managers.runId number

/-- What surrounds a daemon and each of its cycles; the other workers are none of its own. -/
structure DaemonNeighbours (managers : DaemonManagers) extends DaemonTiming where
  surroundings : (number : Nat) → Surroundings (managers.manager number)
  started : Nat → Int
  outsiders : ∀ number call, ∀ operation ∈ (surroundings number).others call,
    ∀ other, operation.manager.ownerId ≠ managers.ownerId other

/-- The stored locks, and the worlds which the cycles have left. -/
structure DaemonStore where
  bucket : Bucket
  exits : List CycleWorld := []

namespace DaemonNeighbours

variable {managers : DaemonManagers} (neighbours : DaemonNeighbours managers)

/-- One cycle of the daemon on the stored locks. -/
def cycle (number : Nat) (store : DaemonStore) :
    Except PyException CompactionRunMetrics × DaemonStore :=
  let result :=
    (neighbours.surroundings number).runCycle none (neighbours.started number) store.bucket
  (result.1, { bucket := result.2.bucket, exits := store.exits ++ [result.2] })

/-- The daemon on the stored locks. -/
def daemon : DaemonSurroundings DaemonStore where
  toDaemonTiming := neighbours.toDaemonTiming
  cycle := neighbours.cycle

/-- No lock of any cycle is stored, and the cycles so far have left nothing else. -/
structure Settled (managers : DaemonManagers) (count : Nat) (store : DaemonStore) : Prop where
  lockless : ∀ number, Lockless (managers.ownerId number) store.bucket
  length : store.exits.length = count
  exits : ∀ number world, store.exits[number]? = some world →
    CleanExit (managers.manager number) world

variable {neighbours}

theorem Settled.cycle {count : Nat} {store : DaemonStore} (settled : Settled managers count store) :
    Settled managers (count + 1) (neighbours.cycle count store).2 := by
  obtain ⟨last, tracks, released⟩ := (neighbours.surroundings count).tracks_runCycle none
    (neighbours.started count) (settled.lockless count)
  refine ⟨fun number => ?_, by simp [DaemonNeighbours.cycle, settled.length],
    fun number world found => ?_⟩
  · by_cases own : number = count
    · subst own
      exact Tracks.lockless tracks released
    · refine (neighbours.surroundings count).lockless_runCycle ?_ ?_ none _
        (settled.lockless number)
      · exact fun same => own (managers.ownerId_injective same).symm
      · exact fun call operation member => neighbours.outsiders count call operation member number
  · rcases DaemonSurroundings.getElem?_concat_eq_some found with ⟨-, earlier⟩ | ⟨rfl, rfl⟩
    · exact settled.exits number world earlier
    · rw [settled.length]
      exact Tracks.cleanExit tracks released

theorem settled_runCycles (neighbours : DaemonNeighbours managers) (count : Nat)
    {store : DaemonStore} (settled : Settled managers 0 store) :
    Settled managers count (neighbours.daemon.runCycles count store).2 := by
  induction count with
  | zero => exact settled
  | succ count ih => exact Settled.cycle ih

/-- After any number of rounds of a daemon among other workers, whenever a signal comes and whatever
its cycles raise, no lock of any of its cycles is stored, each session has been stopped, and each
cycle has replaced only its own locks and stale ones of partitions which it has attempted. -/
theorem daemon_leaves_nothing (neighbours : DaemonNeighbours managers) (intervalSeconds : Int)
    (count : Nat) {bucket : Bucket}
    (lockless : ∀ number, Lockless (managers.ownerId number) bucket) :
    Settled managers (neighbours.daemon.admitted count)
      (neighbours.daemon.run intervalSeconds count { bucket }).2.state := by
  have start : Settled managers 0 { bucket } := ⟨lockless, rfl, by simp⟩
  obtain ⟨-, reached⟩ := neighbours.daemon.reached_run intervalSeconds count { bucket }
  have state_eq := congrArg Prod.snd reached.cycles
  dsimp only at state_eq
  rw [state_eq]
  exact settled_runCycles neighbours _ start

/-! ### A daemon whose lease is taken over -/

open CycleReplies (eagerConfig hourStats)

/-- Owner ids of growing length. -/
def watchManagers : DaemonManagers where
  config := eagerConfig
  ownerId number := String.ofList (List.replicate number 'x')
  runId _ := "run"
  ownerId_injective := by
    intro number other same
    have lengths := congrArg (fun text : String => text.toList.length) same
    simpa using lengths

theorem worker_ne_ownerId (number : Nat) : "worker-2" ≠ watchManagers.ownerId number := by
  intro same
  have inside : 'w' ∈ List.replicate number 'x' := by
    have chars : "worker-2".toList = List.replicate number 'x' :=
      (congrArg String.toList same).trans String.toList_ofList
    rw [← chars]
    decide
  exact absurd (List.eq_of_mem_replicate inside) (by decide)

/-- Another worker takes over the first partition while it is compacted. -/
def rival (number : Nat) : ForeignOperation (watchManagers.ownerId number) where
  manager := { config := eagerConfig, ownerId := "worker-2" }
  foreign := worker_ne_ownerId number
  op := .acquire (hourStats 10).partitionId none
  now := none
  clock := hours 8
  faults := noFaults

theorem noFaults_reads_raise (calls : Nat) (key : String) (fault : StorageFault)
    (occurs : noFaults calls (.getObject key) = some fault) :
    LockManager.readReply (.error fault.error) ≠ .ok none := by
  simp [noFaults] at occurs

/-- The signal comes during the second cycle. -/
def watchNeighbours : DaemonNeighbours watchManagers where
  toDaemonTiming := steadyTiming (some 3)
  surroundings number := {
    others := fun call => if call = 6 then [rival number] else []
    clock := fun _ => hours 5
    failures := fun _ => ⟨noFaults, noFaults_reads_raise, fun _ _ _ => rfl⟩
    reply := fun _ request => (CycleReplies.secondEmpty.handle request {}).1 }
  started _ := 0
  outsiders := by
    intro number call operation member other
    dsimp only at member
    split at member
    · rw [List.mem_singleton.mp member]
      exact worker_ne_ownerId other
    · cases member

theorem watch_leaves_nothing :
    Settled watchManagers 2
      (watchNeighbours.daemon.run 3600 5 { bucket := fun _ => none }).2.state :=
  daemon_leaves_nothing watchNeighbours 3600 5 fun _ _ _ stored => by
    simp [Bucket.lock] at stored

end DaemonNeighbours

end Lakehouse
