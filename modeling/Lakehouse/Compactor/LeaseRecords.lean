import Lakehouse.Compactor.AcquireSpec
import Lakehouse.Compactor.BackendAgreement
import Lakehouse.Foundation.LeaseTable

/-!
# The lock store as a lease table

What the lock store is for: whole operations of lock managers with any timeouts, one after the
other, return what a table of leases by partition returns.
-/

namespace Lakehouse

open Foundation

/-! ## Operations as calls on a table -/

def LockOperation.leaseRequest (clock : Int) : LockOperation → LeaseRequest
  | .acquire now _ => .acquire (now.getD clock)
  | .release => .release
  | .cleanupStaleLock now => .cleanup (now.getD clock)
  | .isHeldBySelf => .isHeld

/-- The call as one on a lease table with the partition ids as keys. -/
def LockCall.leaseCall (call : LockCall) : LeaseCall String String where
  owner := call.manager.ownerId
  length := seconds call.manager.config.lockTimeoutSeconds
  key := call.partitionId
  request := call.operation.leaseRequest call.clock

/-- The lock is the record of the lease. -/
structure CompactionLock.Tells (lock : CompactionLock) (lease : Lease String) : Prop where
  ownerId : lock.ownerId = lease.owner
  acquiredAt : lock.acquiredAt = .ok lease.acquired
  expiresAt : lock.expiresAt = .ok lease.expires

/-- Under the key is the record of the lease, or none. -/
def RecordsAt (bucket : Bucket) (key : String) (lease : Option (Lease String)) : Prop :=
  ∃ found, bucket.lock key = .ok found ∧ Option.Rel CompactionLock.Tells found lease

/-- The bucket holds the records of the table. -/
def StoresTable (basePath : String) (bucket : Bucket) (table : LeaseTable String String) : Prop :=
  ∀ partitionId, RecordsAt bucket (lockFilePath basePath partitionId) (table partitionId)

theorem recordsAt_none {bucket : Bucket} {key : String} :
    RecordsAt bucket key none ↔ bucket.lock key = .ok none := by
  constructor
  · rintro ⟨found, read, ⟨⟩⟩
    exact read
  · exact fun read => ⟨none, read, .none⟩

theorem recordsAt_some {bucket : Bucket} {key : String} {lease : Lease String} :
    RecordsAt bucket key (some lease) ↔
      ∃ lock, bucket.lock key = .ok (some lock) ∧ lock.Tells lease := by
  constructor
  · rintro ⟨found, read, ⟨tells⟩⟩
    exact ⟨_, read, tells⟩
  · rintro ⟨lock, read, tells⟩
    exact ⟨some lock, read, .some tells⟩

theorem recordsAt_congr {bucket later : Bucket} {key : String} (same : later key = bucket key)
    {lease : Option (Lease String)} :
    RecordsAt later key lease ↔ RecordsAt bucket key lease := by
  rw [RecordsAt, RecordsAt, Bucket.lock, Bucket.lock, same]

/-! ## One operation -/

/-- Where an operation leads: it returns the value, leaves the record of the lease, and leaves the
other keys alone. -/
def LeadsTo {α : Type} (program : LockProgram α) (clock : Int) (bucket : Bucket) (key : String)
    (value : α) (lease : Option (Lease String)) : Prop :=
  ∃ later, program.runWith (serve clock) bucket = (.ok value, later) ∧
    RecordsAt later key lease ∧ ∀ other, other ≠ key → later other = bucket other

section Operations

variable {α β : Type} {clock : Int} {bucket : Bucket} {key : String} {lease : Option (Lease String)}

theorem LeadsTo.bind {program : LockProgram α} {value : α}
    (leads : LeadsTo program clock bucket key value lease) {next : α → LockProgram β} {result : β}
    (returns : next value = .done result) :
    LeadsTo (program >>= next) clock bucket key result lease := by
  obtain ⟨later, run, records⟩ := leads
  refine ⟨later, ?_, records⟩
  rw [Program.runWith_bind_of_ok _ run, returns, Program.runWith_done]

theorem LeadsTo.stays {program : LockProgram α} {value : α}
    (run : program.runWith (serve clock) bucket = (.ok value, bucket))
    (records : RecordsAt bucket key lease) : LeadsTo program clock bucket key value lease :=
  ⟨bucket, run, records, fun _ _ => rfl⟩

theorem LeadsTo.removes {program : LockProgram α} {value : α}
    (run : program.runWith (serve clock) bucket = (.ok value, Function.update bucket key none)) :
    LeadsTo program clock bucket key value none :=
  ⟨_, run, recordsAt_none.mpr (Bucket.lock_of_absent (Function.update_self _ _ _)),
    fun _ other => Function.update_of_ne other _ _⟩

theorem LeadsTo.writes {program : LockProgram α} {value : α} {lock : CompactionLock}
    {held : Lease String} (tells : lock.Tells held)
    (run : program.runWith (serve clock) bucket =
      (.ok value, Function.update bucket key (some lock.toJson))) :
    LeadsTo program clock bucket key value (some held) :=
  ⟨_, run,
    recordsAt_some.mpr ⟨lock, Bucket.lock_of_stored (Function.update_self _ _ _), tells⟩,
    fun _ other => Function.update_of_ne other _ _⟩

namespace LockManager

variable {manager : LockManager} {partitionId : String} {reference : Int} {lock : CompactionLock}
  {held : Lease String}

theorem isStale_of_tells (tells : lock.Tells held) :
    manager.isStale lock reference =
      .ok (decide (held.IsEnded (seconds manager.config.lockTimeoutSeconds) reference)) :=
  isStale_of_times tells.acquiredAt tells.expiresAt

/-- A cleanup without a given time takes that of the clock. -/
theorem runWith_cleanupStaleLock_getD (now : Option Int) :
    (manager.cleanupStaleLock partitionId now).runWith (serve clock) bucket =
      (manager.cleanupStaleLock partitionId (some (now.getD clock))).runWith (serve clock)
        bucket := by
  rw [cleanupStaleLock_eq, cleanupStaleLock_eq, Program.runWith_bind, Program.runWith_bind,
    runWith_readLock]
  rcases bucket.lock (manager.storagePath partitionId) with exc | (_ | existing)
  · rfl
  · rfl
  · cases now <;> rfl

theorem runWith_acquire_getD (now : Option Int) (runId : Option String) :
    (manager.acquire partitionId now runId).runWith (serve clock) bucket =
      (manager.acquire partitionId (some (now.getD clock)) runId).runWith (serve clock) bucket := by
  cases now <;> rfl

theorem runWith_cleanupStaleLock_of_absent
    (absent : bucket.lock (manager.storagePath partitionId) = .ok none) :
    (manager.cleanupStaleLock partitionId (some reference)).runWith (serve clock) bucket =
      (.ok false, bucket) := by
  rw [cleanupStaleLock_eq, Program.runWith_bind, runWith_readLock, absent]
  rfl

/-- A cleanup removes a lock whose lease has ended. -/
theorem runWith_cleanupStaleLock_of_ended (tells : lock.Tells held)
    (stored : bucket.lock (manager.storagePath partitionId) = .ok (some lock))
    (ended : held.IsEnded (seconds manager.config.lockTimeoutSeconds) reference) :
    (manager.cleanupStaleLock partitionId (some reference)).runWith (serve clock) bucket =
      (.ok true, Function.update bucket (manager.storagePath partitionId) none) := by
  have stale : manager.isStale lock reference = .ok true := by
    rw [isStale_of_tells tells, decide_eq_true ended]
  rw [cleanupStaleLock_eq, Program.runWith_bind, runWith_readLock, stored]
  simp only [cleanupRead_some, orClock, Program.pure_eq, Program.done_bind, stale,
    Program.ofExcept_ok, if_true, removeStale_eq, tells.acquiredAt]
  rfl

theorem runWith_acquire_of_free (runId : Option String) {removed : Bool} {cleaned : Bucket}
    (cleanup : (manager.cleanupStaleLock partitionId (some reference)).runWith (serve clock)
      bucket = (.ok removed, cleaned))
    (absent : cleaned.lock (manager.storagePath partitionId) = .ok none) :
    (manager.acquire partitionId (some reference) runId).runWith (serve clock) bucket =
      (.ok true, Function.update cleaned (manager.storagePath partitionId)
        (some (manager.newLock partitionId reference runId).toJson)) := by
  rw [runWith_acquire, cleanup]
  simp only [runWith_acquireClean, absent, Except.bind, isBlockedBy_none]

theorem LeadsTo.performCleanup (now : Option Int) {removed : Bool}
    (leads : LeadsTo (manager.cleanupStaleLock partitionId (some (now.getD clock))) clock bucket key
      removed lease) :
    LeadsTo (manager.s3.perform manager partitionId (.cleanupStaleLock now)) clock bucket key
      (some removed) lease := by
  obtain ⟨later, run, records⟩ := leads
  rw [← runWith_cleanupStaleLock_getD] at run
  rw [LockBackend.perform, ← cleanupStaleLock]
  exact LeadsTo.bind ⟨later, run, records⟩ rfl

theorem LeadsTo.performAcquire (now : Option Int) (runId : Option String) {granted : Bool}
    (leads : LeadsTo (manager.acquire partitionId (some (now.getD clock)) runId) clock bucket key
      granted lease) :
    LeadsTo (manager.s3.perform manager partitionId (.acquire now runId)) clock bucket key
      (some granted) lease := by
  obtain ⟨later, run, records⟩ := leads
  rw [← runWith_acquire_getD] at run
  rw [LockBackend.perform, ← acquire]
  exact LeadsTo.bind ⟨later, run, records⟩ rfl

theorem tells_newLock (runId : Option String) :
    (manager.newLock partitionId reference runId).Tells
      ⟨manager.ownerId, reference, reference + seconds manager.config.lockTimeoutSeconds⟩ :=
  ⟨rfl, rfl, rfl⟩

/-- The calls of the manager as calls on a table. -/
structure Asks (manager : LockManager) (request : LeaseRequest) (call : LeaseCall String String) :
    Prop where
  owner : call.owner = manager.ownerId
  length : call.length = seconds manager.config.lockTimeoutSeconds
  request : call.request = request

section Answers

variable {call : LeaseCall String String}
  (records : RecordsAt bucket (manager.storagePath partitionId) lease)
include records

theorem leadsTo_cleanup (asks : manager.Asks (.cleanup reference) call) :
    ∃ removed, (call.answer lease).1 = some removed ∧
      LeadsTo (manager.cleanupStaleLock partitionId (some reference)) clock bucket
        (manager.storagePath partitionId) removed (call.answer lease).2 := by
  cases lease with
  | none =>
      rw [LeaseCall.answer_cleanup_kept asks.request (by simp)]
      exact ⟨false, rfl,
        .stays (runWith_cleanupStaleLock_of_absent (recordsAt_none.mp records)) records⟩
  | some held =>
      obtain ⟨lock, stored, tells⟩ := recordsAt_some.mp records
      have judged := @isStale_of_tells manager reference lock held tells
      rw [← asks.length] at judged
      by_cases ended : held.IsEnded call.length reference
      · rw [LeaseCall.answer_cleanup_ended asks.request ended]
        rw [asks.length] at ended
        exact ⟨true, rfl, .removes (runWith_cleanupStaleLock_of_ended tells stored ended)⟩
      · have kept : ∀ other ∈ some held, ¬other.IsEnded call.length reference := by
          rintro other ⟨⟩
          exact ended
        rw [LeaseCall.answer_cleanup_kept asks.request kept]
        rw [decide_eq_false ended] at judged
        exact ⟨false, rfl, .stays (runWith_cleanupStaleLock_of_fresh stored judged) records⟩

theorem leadsTo_acquire (runId : Option String) (asks : manager.Asks (.acquire reference) call) :
    ∃ granted, (call.answer lease).1 = some granted ∧
      LeadsTo (manager.acquire partitionId (some reference) runId) clock bucket
        (manager.storagePath partitionId) granted (call.answer lease).2 := by
  have tells := @tells_newLock manager partitionId reference runId
  rw [← asks.owner, ← asks.length] at tells
  cases lease with
  | none =>
      have absent := recordsAt_none.mp records
      rw [LeaseCall.answer_acquire_free asks.request (by simp)]
      exact ⟨true, rfl, .writes tells
        (runWith_acquire_of_free runId (runWith_cleanupStaleLock_of_absent absent) absent)⟩
  | some held =>
      obtain ⟨lock, stored, told⟩ := recordsAt_some.mp records
      have judged := @isStale_of_tells manager reference lock held told
      rw [← asks.length] at judged
      by_cases ended : held.IsEnded call.length reference
      · have free : ∀ other ∈ some held, ¬other.Blocks call.owner call.length reference := by
          rintro other ⟨⟩ blocks
          exact blocks.2 ended
        rw [LeaseCall.answer_acquire_free asks.request free]
        rw [asks.length] at ended
        have removed := Bucket.lock_of_absent
          (Function.update_self (manager.storagePath partitionId) none bucket)
        have run := runWith_acquire_of_free runId
          (@runWith_cleanupStaleLock_of_ended clock bucket manager partitionId reference lock held
            told stored ended) removed
        rw [Function.update_idem] at run
        exact ⟨true, rfl, .writes tells run⟩
      · rw [decide_eq_false ended] at judged
        have run := @runWith_acquire_of_fresh manager partitionId clock bucket lock reference stored
          judged runId
        by_cases own : lock.ownerId = manager.ownerId
        · have free : ∀ other ∈ some held, ¬other.Blocks call.owner call.length reference := by
            rintro other ⟨⟩ blocks
            exact blocks.1 (told.ownerId.symm.trans (own.trans asks.owner.symm))
          rw [LeaseCall.answer_acquire_free asks.request free]
          rw [if_pos own] at run
          exact ⟨true, rfl, .writes tells run⟩
        · have blocks : held.Blocks call.owner call.length reference := by
            refine ⟨?_, ended⟩
            rw [asks.owner, ← told.ownerId]
            exact own
          rw [LeaseCall.answer_acquire_blocked asks.request blocks]
          rw [if_neg own] at run
          exact ⟨false, rfl, .stays run records⟩

theorem leadsTo_release (asks : manager.Asks .release call) :
    LeadsTo (manager.release partitionId) clock bucket (manager.storagePath partitionId) ()
      (call.answer lease).2 := by
  rw [LeaseCall.answer_release asks.request]
  cases lease with
  | none =>
      refine .stays ?_ records
      rw [release_eq, Program.runWith_bind, runWith_readLock, recordsAt_none.mp records]
      rfl
  | some held =>
      obtain ⟨lock, stored, told⟩ := recordsAt_some.mp records
      by_cases own : lock.ownerId = manager.ownerId
      · have same : held.owner = call.owner := by rw [← told.ownerId, own, asks.owner]
        have given_back : (some held).filter (fun lease => lease.owner ≠ call.owner) = none :=
          Option.filter_some_neg (by simp [same])
        rw [given_back]
        refine .removes ?_
        rw [release_eq, Program.runWith_bind, runWith_readLock, stored]
        simp only [releaseRead_some, own, if_true]
        rfl
      · have kept : (some held).filter (fun lease => lease.owner ≠ call.owner) = some held := by
          apply Option.filter_some_pos
          rw [← told.ownerId, asks.owner]
          exact decide_eq_true own
        rw [kept]
        exact .stays (runWith_release_of_foreign stored own) records

theorem leadsTo_isHeldBySelf (asks : manager.Asks .isHeld call) :
    ∃ held, (call.answer lease).1 = some held ∧
      LeadsTo (manager.s3.isHeldBySelf manager partitionId) clock bucket
        (manager.storagePath partitionId) held (call.answer lease).2 := by
  rw [LeaseCall.answer_isHeld asks.request]
  refine ⟨_, rfl, .stays ?_ records⟩
  have reads : (manager.s3.readLock partitionId).runWith (serve clock) bucket =
      (bucket.lock (manager.storagePath partitionId), bucket) := runWith_readLock clock bucket
  rw [LockBackend.isHeldBySelf, Program.runWith_bind, reads]
  cases lease with
  | none =>
      rw [recordsAt_none.mp records]
      rfl
  | some held =>
      obtain ⟨lock, stored, told⟩ := recordsAt_some.mp records
      rw [stored]
      simp [told.ownerId, asks.owner]

end Answers

/-- Every operation answers like the table. -/
theorem leadsTo_perform (operation : LockOperation) {call : LeaseCall String String}
    (asks : manager.Asks (operation.leaseRequest clock) call)
    (records : RecordsAt bucket (manager.storagePath partitionId) lease) :
    LeadsTo (manager.s3.perform manager partitionId operation) clock bucket
      (manager.storagePath partitionId) (call.answer lease).1 (call.answer lease).2 := by
  cases operation with
  | acquire now runId =>
      obtain ⟨granted, answer, leads⟩ := leadsTo_acquire records runId asks
      rw [answer]
      exact LeadsTo.performAcquire now runId leads
  | release =>
      have answer : (call.answer lease).1 = none :=
        congrArg Prod.fst (LeaseCall.answer_release asks.request)
      rw [answer]
      exact (leadsTo_release records asks).bind rfl
  | cleanupStaleLock now =>
      obtain ⟨removed, answer, leads⟩ := leadsTo_cleanup records asks
      rw [answer]
      exact LeadsTo.performCleanup now leads
  | isHeldBySelf =>
      obtain ⟨held, answer, leads⟩ := leadsTo_isHeldBySelf records asks
      rw [answer]
      exact leads.bind rfl

end LockManager

end Operations

/-! ## Runs -/

section Runs

variable {basePath : String} {bucket : Bucket} {table : LeaseTable String String}

/-- One call returns what the table returns, and leaves its records. -/
theorem StoresTable.perform (records : StoresTable basePath bucket table) (call : LockCall)
    (below : call.manager.config.lockBasePath = basePath) :
    ∃ later, (call.manager.s3.perform call.manager call.partitionId call.operation).runWith
        (serve call.clock) bucket = (.ok (LeaseTable.perform call.leaseCall table).1, later) ∧
      StoresTable basePath later (LeaseTable.perform call.leaseCall table).2 := by
  subst below
  have asks : call.manager.Asks (call.operation.leaseRequest call.clock) call.leaseCall :=
    ⟨rfl, rfl, rfl⟩
  obtain ⟨later, run, own, others⟩ :=
    LockManager.leadsTo_perform call.operation asks (records call.partitionId)
  refine ⟨later, run, fun partitionId => ?_⟩
  by_cases same : partitionId = call.partitionId
  · subst same
    rw [show (LeaseTable.perform call.leaseCall table).2 call.partitionId = _ from
      LeaseTable.perform_self call.leaseCall table]
    exact own
  · rw [LeaseTable.perform_of_ne same]
    exact (recordsAt_congr (others _ fun key => same (lockFilePath_inj.mp key))).mpr
      (records partitionId)

/-- Calls in turn on the bucket return what the table returns. -/
theorem StoresTable.runS3 {calls : List LockCall} (records : StoresTable basePath bucket table)
    (below : ∀ call ∈ calls, call.manager.config.lockBasePath = basePath) :
    (runS3 calls bucket).1 =
        (LeaseTable.run (calls.map LockCall.leaseCall) table).1.map .ok ∧
      StoresTable basePath (Lakehouse.runS3 calls bucket).2
        (LeaseTable.run (calls.map LockCall.leaseCall) table).2 := by
  induction calls generalizing bucket table with
  | nil => exact ⟨rfl, records⟩
  | cons call calls ih =>
      obtain ⟨later, run, kept⟩ := records.perform call (below call List.mem_cons_self)
      obtain ⟨outcomes, last⟩ :=
        ih kept fun other member => below other (List.mem_cons_of_mem call member)
      have first : Lakehouse.runS3 (call :: calls) bucket =
          (.ok (LeaseTable.perform call.leaseCall table).1 :: (Lakehouse.runS3 calls later).1,
            (Lakehouse.runS3 calls later).2) := by
        have performed : ((call.manager.s3By .exact).perform call.manager call.partitionId
            call.operation).runWith (serve call.clock) bucket =
              (.ok (LeaseTable.perform call.leaseCall table).1, later) := run
        rw [Lakehouse.runS3, runS3By_cons, performed]
      rw [first]
      exact ⟨congrArg (List.cons _) outcomes, last⟩

end Runs

/-! ## A lease outlasts the calls of others -/

theorem LockManager.everyCall_perform {manager : LockManager} {partitionId : String}
    (operation : LockOperation) :
    (manager.s3.perform manager partitionId operation).EveryCall (manager.Issues partitionId) := by
  cases operation with
  | acquire now runId =>
      rw [LockBackend.perform, ← acquire]
      exact Program.everyCall_bind (everyCall_acquire now runId) fun _ => by simp
  | release =>
      rw [LockBackend.perform, ← release]
      exact Program.everyCall_bind everyCall_release fun _ => by simp
  | cleanupStaleLock now =>
      rw [LockBackend.perform, ← cleanupStaleLock]
      exact Program.everyCall_bind (everyCall_cleanupStaleLock now) fun _ => by simp
  | isHeldBySelf =>
      have reads : (manager.s3.isHeldBySelf manager partitionId).EveryCall
          (manager.Issues partitionId) := by
        refine Program.everyCall_bind everyCall_readLock fun existing => ?_
        cases existing <;> exact Program.everyCall_done _
      exact Program.everyCall_bind reads fun _ => by simp

/-- What each call keeps, and what it is told meanwhile. -/
theorem runCalls_keeps {σ : Type} {run : LockCall → σ → Except PyException (Option Bool) × σ}
    {Inv : σ → Prop} {told : LockCall → Except PyException (Option Bool) → Prop}
    {calls : List LockCall}
    (kept : ∀ call ∈ calls, ∀ world, Inv world →
      Inv (run call world).2 ∧ told call (run call world).1)
    {world : σ} (start : Inv world) :
    Inv (runCalls run calls world).2 ∧
      ∀ pair ∈ calls.zip (runCalls run calls world).1, told pair.1 pair.2 := by
  induction calls generalizing world with
  | nil => exact ⟨start, by simp [runCalls]⟩
  | cons call calls ih =>
      obtain ⟨later, first⟩ := kept call List.mem_cons_self world start
      obtain ⟨last, rest⟩ :=
        ih (fun other member => kept other (List.mem_cons_of_mem call member)) later
      refine ⟨last, fun pair member => ?_⟩
      rcases List.mem_cons.mp member with rfl | member
      · exact first
      · exact rest pair member

/-- Under the key is the record of such a lease, or of none where that is allowed. -/
def LeaseAt (holds : Option (Lease String) → Prop) (key : String) (bucket : Bucket) : Prop :=
  ∃ lease, RecordsAt bucket key lease ∧ holds lease

/-- If the call is about the partition, it returns such an answer. -/
def LockCall.IsTold (call : LockCall) (partitionId : String) (told : Option Bool → Prop)
    (outcome : Except PyException (Option Bool)) : Prop :=
  call.partitionId = partitionId → ∃ answer, outcome = .ok answer ∧ told answer

/-- What a call does to the lease of a partition and is told about it follows from the table. -/
theorem LeaseAt.perform {holds : Option (Lease String) → Prop} {told : Option Bool → Prop}
    {partitionId : String} {call : LockCall} {bucket : Bucket}
    (kept : call.partitionId = partitionId → ∀ lease, holds lease →
      holds (call.leaseCall.answer lease).2 ∧ told (call.leaseCall.answer lease).1)
    (start : LeaseAt holds (call.manager.storagePath partitionId) bucket) :
    LeaseAt holds (call.manager.storagePath partitionId)
        ((call.manager.s3.perform call.manager call.partitionId call.operation).runWith
          (serve call.clock) bucket).2 ∧
      call.IsTold partitionId told
        ((call.manager.s3.perform call.manager call.partitionId call.operation).runWith
          (serve call.clock) bucket).1 := by
  obtain ⟨lease, records, has⟩ := start
  by_cases about : call.partitionId = partitionId
  · obtain ⟨still, answered⟩ := kept about lease has
    subst about
    have asks : call.manager.Asks (call.operation.leaseRequest call.clock) call.leaseCall :=
      ⟨rfl, rfl, rfl⟩
    obtain ⟨later, run, own, -⟩ := LockManager.leadsTo_perform call.operation asks records
    rw [run]
    exact ⟨⟨_, own, still⟩, fun _ => ⟨_, rfl, answered⟩⟩
  · have elsewhere : call.manager.storagePath partitionId ≠
        call.manager.storagePath call.partitionId :=
      fun same => about (lockFilePath_inj.mp same).symm
    have same := @LockManager.runWith_other_key _ _ call.clock bucket _ _
      (LockManager.everyCall_perform call.operation) _ elsewhere
    exact ⟨⟨lease, (recordsAt_congr same).mpr records, has⟩, fun same => absurd same about⟩

/-- What calls keep of the lease of a partition, and what they are told about it meanwhile. -/
theorem LeaseAt.runS3 {holds : Option (Lease String) → Prop}
    {told : LockCall → Option Bool → Prop} {basePath partitionId : String}
    {calls : List LockCall} {bucket : Bucket}
    (kept : ∀ call ∈ calls, call.partitionId = partitionId → ∀ lease, holds lease →
      holds (call.leaseCall.answer lease).2 ∧ told call (call.leaseCall.answer lease).1)
    (below : ∀ call ∈ calls, call.manager.config.lockBasePath = basePath)
    (start : LeaseAt holds (lockFilePath basePath partitionId) bucket) :
    LeaseAt holds (lockFilePath basePath partitionId) (runS3 calls bucket).2 ∧
      ∀ pair ∈ calls.zip (Lakehouse.runS3 calls bucket).1,
        pair.1.IsTold partitionId (told pair.1) pair.2 := by
  refine @runCalls_keeps _ _ (LeaseAt holds (lockFilePath basePath partitionId))
    (fun call => call.IsTold partitionId (told call)) calls ?_ bucket start
  intro call member world started
  obtain rfl := below call member
  exact started.perform (kept call member)

/-- A granted `acquire` leaves the record of its lease. -/
theorem leaseAt_of_granted {call : LockCall} {now : Option Int} {runId : Option String}
    {bucket : Bucket} (asked : call.operation = .acquire now runId)
    (granted : ((call.manager.s3.perform call.manager call.partitionId call.operation).runWith
      (serve call.clock) bucket).1 = .ok (some true)) :
    LeaseAt (HasLease call.manager.ownerId (now.getD call.clock)
        (now.getD call.clock + seconds call.manager.config.lockTimeoutSeconds))
      (call.manager.storagePath call.partitionId)
      ((call.manager.s3.perform call.manager call.partitionId call.operation).runWith
        (serve call.clock) bucket).2 := by
  have stored := @LockManager.stored_of_acquire call.manager call.partitionId call.clock bucket
    (now.getD call.clock) runId
  rw [← LockManager.runWith_acquire_getD] at stored
  rw [asked, LockBackend.perform, ← LockManager.acquire, Program.runWith_bind] at granted ⊢
  revert stored granted
  generalize (call.manager.acquire call.partitionId now runId).runWith (serve call.clock) bucket =
    acquired
  obtain ⟨exc | taken, later⟩ := acquired
  · intro raised
    cases raised
  · intro returned stored
    obtain rfl : taken = true := Option.some.inj (Except.ok.inj returned)
    have tells := @LockManager.tells_newLock call.manager call.partitionId (now.getD call.clock)
      runId
    exact ⟨_, recordsAt_some.mpr ⟨_, Bucket.lock_of_stored (stored rfl), tells⟩,
      _, rfl, rfl, le_rfl, le_rfl⟩

end Lakehouse
