import Lakehouse.Compactor.LockManager
import Lakehouse.Foundation.Machine

/-!
# Lease safety of atomic operations

Workers with one timeout perform whole operations in turn.  The state remembers when each worker
acquired each partition which it has not released since, and the invariant `Sound` says that the
lock of such a lease is stored until the lease expires.
-/

namespace Lakehouse

open Foundation

/-- Workers over one lock directory, with pairwise distinct owner ids. -/
structure Fleet (ω : Type) where
  manager : ω → LockManager
  lockBasePath : String
  lockBasePath_eq : ∀ worker, (manager worker).config.lockBasePath = lockBasePath
  ownerId_injective : Function.Injective fun worker => (manager worker).ownerId

/-- Workers which also share the timeout of their locks. -/
structure UniformFleet (ω : Type) extends Fleet ω where
  lockTimeoutSeconds : Int
  lockTimeoutSeconds_eq : ∀ worker,
    (manager worker).config.lockTimeoutSeconds = lockTimeoutSeconds

namespace Fleet

variable {ω : Type} (fleet : Fleet ω)

/-- The key under which every worker keeps the lock of a partition. -/
def lockKey (partitionId : String) : String :=
  lockFilePath fleet.lockBasePath partitionId

@[simp]
theorem storagePath_manager (worker : ω) (partitionId : String) :
    (fleet.manager worker).storagePath partitionId = fleet.lockKey partitionId := by
  rw [LockManager.storagePath, fleet.lockBasePath_eq, lockKey]

theorem lockKey_inj {partitionId other : String} :
    fleet.lockKey partitionId = fleet.lockKey other ↔ partitionId = other :=
  lockFilePath_inj

/-- The lock which a worker writes under the key of a partition. -/
def workerLock (worker : ω) (partitionId : String) (reference : Int)
    (runId : Option String) : CompactionLock :=
  (fleet.manager worker).newLock partitionId reference runId

theorem workerLock_ownerId_ne {worker other : ω} (ne : other ≠ worker) (partitionId : String)
    (reference : Int) (runId : Option String) :
    (fleet.workerLock worker partitionId reference runId).ownerId ≠
      (fleet.manager other).ownerId := by
  intro same
  exact ne (fleet.ownerId_injective same.symm)

end Fleet

/-- An operation of the lock manager. -/
inductive LockOp
  | acquire (partitionId : String) (runId : Option String)
  | cleanupStaleLock (partitionId : String)
  | release (partitionId : String)
  deriving DecidableEq

def LockOp.partitionId : LockOp → String
  | .acquire partitionId _ => partitionId
  | .cleanupStaleLock partitionId => partitionId
  | .release partitionId => partitionId

/-- One whole operation of one worker at one time. -/
structure LockEvent (ω : Type) where
  worker : ω
  time : Int
  op : LockOp

/-- The stored locks, and the acquisitions which are not released yet. -/
structure LeaseState (ω : Type) where
  clock : Int
  bucket : Bucket
  /-- When the worker last acquired the partition, if it has not released it since. -/
  leases : ω → String → Option Int

namespace UniformFleet

variable {ω : Type} (fleet : UniformFleet ω)

/-- The lease time in microseconds. -/
def leaseTime : Int := seconds fleet.lockTimeoutSeconds

/-- A whole `acquire`: what it returns, and the stored locks afterwards. -/
def acquireAt (worker : ω) (partitionId : String) (time : Int) (runId : Option String)
    (bucket : Bucket) : Except PyException Bool × Bucket :=
  ((fleet.manager worker).acquire partitionId (some time) runId).runWith (serve time) bucket

def cleanupAt (worker : ω) (partitionId : String) (time : Int) (bucket : Bucket) :
    Except PyException Bool × Bucket :=
  ((fleet.manager worker).cleanupStaleLock partitionId (some time)).runWith (serve time) bucket

def releaseAt (worker : ω) (partitionId : String) (time : Int) (bucket : Bucket) :
    Except PyException Unit × Bucket :=
  ((fleet.manager worker).release partitionId).runWith (serve time) bucket

/-- The stored locks after an event. -/
def bucketAfter (event : LockEvent ω) (bucket : Bucket) : Bucket :=
  match event.op with
  | .acquire partitionId runId =>
      (fleet.acquireAt event.worker partitionId event.time runId bucket).2
  | .cleanupStaleLock partitionId =>
      (fleet.cleanupAt event.worker partitionId event.time bucket).2
  | .release partitionId => (fleet.releaseAt event.worker partitionId event.time bucket).2

/-! ## Fresh locks -/

variable {fleet}

/-- Until its lease expires, the lock of a worker is not stale for any worker. -/
theorem isStale_workerLock {worker other : ω} {partitionId : String} {acquired now : Int}
    {runId : Option String} (unexpired : now < acquired + fleet.leaseTime) :
    (fleet.manager other).isStale (fleet.workerLock worker partitionId acquired runId) now =
      .ok false := by
  have timeout := fleet.lockTimeoutSeconds_eq
  have not_expired : ¬acquired + seconds fleet.lockTimeoutSeconds ≤ now := by
    rw [leaseTime] at unexpired
    omega
  have not_old : ¬seconds fleet.lockTimeoutSeconds < now - acquired := by
    rw [leaseTime] at unexpired
    omega
  simp [LockManager.isStale_eq, Fleet.workerLock, LockManager.newLock, LockManager.lockUntil,
    timeout, not_expired, not_old]

/-- The lock of the lease is stored. -/
def Holds (fleet : UniformFleet ω) (bucket : Bucket) (worker : ω) (partitionId : String)
    (acquired : Int) : Prop :=
  ∃ runId, bucket (fleet.lockKey partitionId) =
    some (fleet.workerLock worker partitionId acquired runId).toJson

theorem Holds.lock {bucket : Bucket} {worker : ω} {partitionId : String} {acquired : Int}
    (holds : fleet.Holds bucket worker partitionId acquired) :
    ∃ runId, bucket.lock (fleet.lockKey partitionId) =
      .ok (some (fleet.workerLock worker partitionId acquired runId)) := by
  obtain ⟨runId, stored⟩ := holds
  exact ⟨runId, Bucket.lock_of_stored stored⟩

/-- The stored lock has one owner. -/
theorem Holds.worker_eq {bucket : Bucket} {worker other : ω} {partitionId : String}
    {acquired otherAcquired : Int} (holds : fleet.Holds bucket worker partitionId acquired)
    (also_holds : fleet.Holds bucket other partitionId otherAcquired) : worker = other := by
  obtain ⟨runId, lock⟩ := holds.lock
  obtain ⟨otherRun, otherLock⟩ := also_holds.lock
  have same := Option.some.inj (Except.ok.inj (lock.symm.trans otherLock))
  exact fleet.ownerId_injective (congrArg CompactionLock.ownerId same)

/-- Nobody else acquires a partition with an unexpired lease. -/
theorem acquireAt_of_holds {bucket : Bucket} {worker other : ω} {partitionId : String}
    {acquired now : Int} (holds : fleet.Holds bucket worker partitionId acquired)
    (unexpired : now < acquired + fleet.leaseTime) (ne : other ≠ worker)
    (runId : Option String) :
    fleet.acquireAt other partitionId now runId bucket = (.ok false, bucket) := by
  obtain ⟨heldRun, stored⟩ := holds.lock
  rw [← fleet.storagePath_manager other] at stored
  rw [acquireAt, LockManager.runWith_acquire_of_fresh stored (isStale_workerLock unexpired)]
  exact if_neg (fleet.workerLock_ownerId_ne ne partitionId acquired heldRun)

/-- The owner acquires it again. -/
theorem acquireAt_self_of_holds {bucket : Bucket} {worker : ω} {partitionId : String}
    {acquired now : Int} (holds : fleet.Holds bucket worker partitionId acquired)
    (unexpired : now < acquired + fleet.leaseTime)
    (runId : Option String) :
    (fleet.acquireAt worker partitionId now runId bucket).1 = .ok true := by
  obtain ⟨heldRun, stored⟩ := holds.lock
  rw [← fleet.storagePath_manager worker] at stored
  rw [acquireAt, LockManager.runWith_acquire_of_fresh stored (isStale_workerLock unexpired)]
  exact congrArg Prod.fst (if_pos rfl)

/-- A successful acquisition stores its lock. -/
theorem holds_of_acquireAt {bucket : Bucket} {worker : ω} {partitionId : String} {now : Int}
    {runId : Option String}
    (granted : (fleet.acquireAt worker partitionId now runId bucket).1 = .ok true) :
    fleet.Holds (fleet.acquireAt worker partitionId now runId bucket).2 worker partitionId now := by
  refine ⟨runId, ?_⟩
  have stored := LockManager.stored_of_acquire granted
  rwa [fleet.storagePath_manager] at stored

/-- An event on another partition leaves the stored lock alone. -/
theorem bucketAfter_other_partition {event : LockEvent ω} {bucket : Bucket} {partitionId : String}
    (other : event.op.partitionId ≠ partitionId) :
    fleet.bucketAfter event bucket (fleet.lockKey partitionId) =
      bucket (fleet.lockKey partitionId) := by
  have key_ne : fleet.lockKey partitionId ≠
      (fleet.manager event.worker).storagePath event.op.partitionId := by
    rw [fleet.storagePath_manager]
    intro same
    exact other (fleet.lockKey_inj.mp same.symm)
  unfold bucketAfter
  cases op_eq : event.op with
  | acquire acquired runId =>
      rw [op_eq] at key_ne
      exact LockManager.runWith_other_key (LockManager.everyCall_acquire _ _) key_ne
  | cleanupStaleLock cleaned =>
      rw [op_eq] at key_ne
      exact LockManager.runWith_other_key (LockManager.everyCall_cleanupStaleLock _) key_ne
  | release released =>
      rw [op_eq] at key_ne
      exact LockManager.runWith_other_key LockManager.everyCall_release key_ne

/-- A lease which an event does not set keeps its lock until it expires. -/
theorem holds_bucketAfter {bucket : Bucket} {worker : ω} {partitionId : String}
    {acquired : Int} {event : LockEvent ω} (holds : fleet.Holds bucket worker partitionId acquired)
    (unexpired : event.time < acquired + fleet.leaseTime)
    (not_acquired : ∀ runId, event.op = .acquire partitionId runId → event.worker ≠ worker)
    (not_released : event.op = .release partitionId → event.worker ≠ worker) :
    fleet.Holds (fleet.bucketAfter event bucket) worker partitionId acquired := by
  by_cases elsewhere : event.op.partitionId ≠ partitionId
  · obtain ⟨runId, stored⟩ := holds
    exact ⟨runId, (bucketAfter_other_partition elsewhere).trans stored⟩
  · obtain rfl := not_not.mp elsewhere
    obtain ⟨heldRun, stored⟩ := holds.lock
    rw [← fleet.storagePath_manager event.worker] at stored
    have unchanged : fleet.bucketAfter event bucket = bucket := by
      unfold bucketAfter
      cases op_eq : event.op with
      | acquire acquiredId runId =>
          have foreign := not_acquired runId (by rw [op_eq]; rfl)
          rw [op_eq] at holds
          exact congrArg Prod.snd (acquireAt_of_holds holds unexpired foreign runId)
      | cleanupStaleLock cleaned =>
          rw [op_eq] at stored
          exact congrArg Prod.snd (LockManager.runWith_cleanupStaleLock_of_fresh stored
            (isStale_workerLock unexpired))
      | release released =>
          have foreign := not_released (by rw [op_eq]; rfl)
          rw [op_eq] at stored
          exact congrArg Prod.snd (LockManager.runWith_release_of_foreign stored
            (fleet.workerLock_ownerId_ne foreign _ _ _))
    rwa [unchanged]

/-! ## Leases -/

variable [DecidableEq ω]

/-- Set the lease of a worker on a partition. -/
def setLease (leases : ω → String → Option Int) (worker : ω) (partitionId : String)
    (lease : Option Int) : ω → String → Option Int :=
  Function.update leases worker (Function.update (leases worker) partitionId lease)

/-- The leases after an event with the given result of its `acquire`. -/
def leasesAfter (fleet : UniformFleet ω) (leases : ω → String → Option Int)
    (event : LockEvent ω) (bucket : Bucket) : ω → String → Option Int :=
  match event.op with
  | .acquire partitionId runId =>
      if (fleet.acquireAt event.worker partitionId event.time runId bucket).1 = .ok true then
        setLease leases event.worker partitionId (some event.time)
      else
        leases
  | .cleanupStaleLock _ => leases
  | .release partitionId => setLease leases event.worker partitionId none

/-- Events happen at non-decreasing times; a worker which stops has no further events. -/
def leaseMachine (fleet : UniformFleet ω) : Machine (LeaseState ω) (LockEvent ω) where
  step state event :=
    if event.time < state.clock then none
    else some
      { clock := event.time
        bucket := fleet.bucketAfter event state.bucket
        leases := fleet.leasesAfter state.leases event state.bucket }

/-- The state after an event. -/
theorem leaseMachine_step {state next : LeaseState ω} {event : LockEvent ω}
    (taken : fleet.leaseMachine.step state event = some next) :
    state.clock ≤ event.time ∧
      next = { clock := event.time
               bucket := fleet.bucketAfter event state.bucket
               leases := fleet.leasesAfter state.leases event state.bucket } := by
  simp only [leaseMachine] at taken
  split at taken
  · simp at taken
  · exact ⟨by omega, (Option.some.inj taken).symm⟩

@[simp]
theorem setLease_self (leases : ω → String → Option Int) (worker : ω) (partitionId : String)
    (lease : Option Int) : setLease leases worker partitionId lease worker partitionId = lease := by
  simp [setLease]

theorem setLease_of_ne {leases : ω → String → Option Int} {worker other : ω}
    {partitionId otherId : String} (ne : ¬(other = worker ∧ otherId = partitionId))
    (lease : Option Int) :
    setLease leases worker partitionId lease other otherId = leases other otherId := by
  unfold setLease
  by_cases same : other = worker
  · subst other
    have other_id : otherId ≠ partitionId := fun same => ne ⟨rfl, same⟩
    simp [Function.update_of_ne other_id]
  · simp [Function.update_of_ne same]

/-! ## The invariant -/

/-- Leases lie in the past, and an unexpired lease has its lock stored. -/
def Sound (fleet : UniformFleet ω) (state : LeaseState ω) : Prop :=
  ∀ worker partitionId acquired, state.leases worker partitionId = some acquired →
    acquired ≤ state.clock ∧
      (state.clock < acquired + fleet.leaseTime →
        fleet.Holds state.bucket worker partitionId acquired)

theorem sound_step {state next : LeaseState ω} {event : LockEvent ω} (sound : fleet.Sound state)
    (taken : fleet.leaseMachine.step state event = some next) : fleet.Sound next := by
  obtain ⟨later, rfl⟩ := leaseMachine_step taken
  intro worker partitionId acquired leased
  -- a lease from before the event
  have old : state.leases worker partitionId = some acquired →
      (∀ runId, event.op = .acquire partitionId runId →
        event.worker = worker →
          (fleet.acquireAt worker partitionId event.time runId state.bucket).1 ≠ .ok true) →
      (event.op = .release partitionId → event.worker ≠ worker) →
      acquired ≤ event.time ∧ (event.time < acquired + fleet.leaseTime →
        fleet.Holds (fleet.bucketAfter event state.bucket) worker partitionId acquired) := by
    intro before not_granted not_released
    obtain ⟨past, stored⟩ := sound worker partitionId acquired before
    refine ⟨by omega, fun unexpired => ?_⟩
    have holds := stored (by omega)
    refine holds_bucketAfter holds unexpired ?_ not_released
    intro runId acquires same
    exact not_granted runId acquires same
      (acquireAt_self_of_holds holds unexpired runId)
  cases op_eq : event.op with
  | acquire acquiredId runId =>
      simp only [leasesAfter, op_eq] at leased
      by_cases own : worker = event.worker ∧ partitionId = acquiredId
      · obtain ⟨rfl, rfl⟩ := own
        split at leased
        · rename_i granted
          rw [setLease_self] at leased
          obtain rfl := Option.some.inj leased
          refine ⟨Int.le_refl _, fun _ => ?_⟩
          simpa only [bucketAfter, op_eq] using holds_of_acquireAt granted
        · rename_i refused
          refine old leased ?_ (by simp [op_eq])
          intro otherRun acquires _
          rw [op_eq] at acquires
          obtain ⟨-, rfl⟩ := LockOp.acquire.inj acquires
          exact refused
      · refine old ?_ ?_ (by simp [op_eq])
        · split at leased
          · rwa [setLease_of_ne own] at leased
          · exact leased
        · intro otherRun acquires same
          rw [op_eq] at acquires
          exact absurd ⟨same.symm, (LockOp.acquire.inj acquires).1.symm⟩ own
  | cleanupStaleLock cleaned =>
      simp only [leasesAfter, op_eq] at leased
      exact old leased (by simp [op_eq]) (by simp [op_eq])
  | release released =>
      simp only [leasesAfter, op_eq] at leased
      by_cases own : worker = event.worker ∧ partitionId = released
      · obtain ⟨rfl, rfl⟩ := own
        simp at leased
      · rw [setLease_of_ne own] at leased
        refine old leased (by simp [op_eq]) ?_
        intro releases same
        rw [op_eq] at releases
        exact own ⟨same.symm, (LockOp.release.inj releases).symm⟩

/-- The state in which nobody has acquired anything, over any stored locks. -/
def startState (clock : Int) (bucket : Bucket) : LeaseState ω where
  clock := clock
  bucket := bucket
  leases := fun _ _ => none

theorem sound_of_run {clock : Int} {bucket : Bucket} {events : List (LockEvent ω)}
    {final : LeaseState ω}
    (run : fleet.leaseMachine.exec (startState clock bucket) events = some final) :
    fleet.Sound final :=
  fleet.leaseMachine.exec_invariant sound_step (by simp [Sound, startState]) run

/-- While a lease is neither released nor expired, its lock is stored, every `acquire` of another
worker returns `False`, and no other worker has an unexpired lease. -/
theorem lease_safety {clock : Int} {bucket : Bucket} {events : List (LockEvent ω)}
    {final : LeaseState ω}
    (run : fleet.leaseMachine.exec (startState clock bucket) events = some final)
    {worker : ω} {partitionId : String} {acquired : Int}
    (leased : final.leases worker partitionId = some acquired)
    {now : Int} (later : final.clock ≤ now) (unexpired : now < acquired + fleet.leaseTime) :
    (∃ lock, final.bucket.lock (fleet.lockKey partitionId) = .ok (some lock) ∧
      lock.ownerId = (fleet.manager worker).ownerId) ∧
    ∀ other ≠ worker,
      (∀ runId, (fleet.acquireAt other partitionId now runId final.bucket).1 = .ok false) ∧
      ∀ otherAcquired, final.leases other partitionId = some otherAcquired →
        otherAcquired + fleet.leaseTime ≤ now := by
  have sound := sound_of_run run
  obtain ⟨past, stored⟩ := sound worker partitionId acquired leased
  have holds := stored (by omega)
  refine ⟨?_, fun other ne => ⟨fun runId => ?_, fun otherAcquired otherLeased => ?_⟩⟩
  · obtain ⟨runId, lock⟩ := holds.lock
    exact ⟨_, lock, rfl⟩
  · exact congrArg Prod.fst (acquireAt_of_holds holds unexpired ne runId)
  · by_contra overlaps
    obtain ⟨-, otherStored⟩ := sound other partitionId otherAcquired otherLeased
    exact ne ((otherStored (by omega)).worker_eq holds)

/-! ### A refused acquisition -/

/-- Two workers with the default configuration. -/
def pair : UniformFleet Bool where
  manager worker := { config := {}, ownerId := if worker then "worker-1" else "worker-2" }
  lockBasePath := ({} : CompactionConfig).lockBasePath
  lockBasePath_eq _ := rfl
  ownerId_injective := by
    intro left right
    cases left <;> cases right <;> decide
  lockTimeoutSeconds := 3600
  lockTimeoutSeconds_eq _ := rfl

/-- The first of them acquires a partition. -/
def firstAcquires : LockEvent Bool :=
  ⟨true, 0, .acquire "event_date=2024-06-11/event_hour=10" none⟩

/-- The state after this acquisition. -/
def afterFirst : LeaseState Bool where
  clock := 0
  bucket := pair.bucketAfter firstAcquires fun _ => none
  leases := pair.leasesAfter (fun _ _ => none) firstAcquires fun _ => none

theorem lease_safety_pair :
    (pair.acquireAt false "event_date=2024-06-11/event_hour=10" (minutes 59) none
      afterFirst.bucket).1 = .ok false := by
  have run : pair.leaseMachine.exec (startState 0 fun _ => none) [firstAcquires] =
      some afterFirst := rfl
  have leased : afterFirst.leases true "event_date=2024-06-11/event_hour=10" = some 0 := by decide
  have unexpired : minutes 59 < 0 + pair.leaseTime := by decide
  exact ((lease_safety run leased (by decide) unexpired).2 false (by decide)).1 none

end UniformFleet

end Lakehouse
