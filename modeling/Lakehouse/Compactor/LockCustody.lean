import Lakehouse.Compactor.LockRemoval

/-!
# Operations on a failing store

One whole operation of a worker against a store whose calls can fail.  The store keeps the records
which are deleted or overwritten.  An `acquire` replaces a record only when it knows the record to
be stale or its own, and after a failure it has written nothing; `release` leaves nothing of its
own behind.
-/

namespace Lakehouse

open Foundation

/-- A failing storage call: what it raises, and whether it takes effect nevertheless. -/
structure StorageFault where
  error : StorageError
  applied : Bool

/-- The failing calls of one operation, by the number of earlier calls. -/
abbrev StorageFaults := Nat → StorageCall → Option StorageFault

/-- A record which was deleted or overwritten. -/
structure ReplacedRecord where
  key : String
  body : LockBody
  time : Int

/-- The stored locks, and what has become of earlier ones. -/
structure FailingStore where
  bucket : Bucket
  replaced : List ReplacedRecord := []
  /-- Number of storage calls so far. -/
  calls : Nat := 0

namespace FailingStore

/-- A call which changes nothing. -/
def pass (store : FailingStore) : FailingStore :=
  { store with calls := store.calls + 1 }

/-- Set or remove the record under a key. -/
def replace (store : FailingStore) (clock : Int) (key : String) (value : Option LockBody) :
    FailingStore where
  bucket := Function.update store.bucket key value
  replaced := store.replaced ++ (store.bucket key).toList.map fun body => ⟨key, body, clock⟩
  calls := store.calls + 1

theorem replace_bucket (store : FailingStore) (clock : Int) (key : String)
    (value : Option LockBody) :
    (store.replace clock key value).bucket = Function.update store.bucket key value := rfl

/-- A call which is to set or remove a record. -/
def tryReplace (store : FailingStore) (clock : Int) (key : String) (value : Option LockBody) :
    Option StorageFault → Except StorageError Unit × FailingStore
  | none => (.ok (), store.replace clock key value)
  | some fault =>
      (.error fault.error, if fault.applied then store.replace clock key value else store.pass)

variable {store : FailingStore} {clock : Int} {key written : String} {value : Option LockBody}

/-- A call takes effect or changes nothing. -/
theorem tryReplace_cases (fault : Option StorageFault) :
    (store.tryReplace clock key value fault).2 = store.replace clock key value ∨
      (store.tryReplace clock key value fault).2 = store.pass := by
  cases fault with
  | none => exact .inl rfl
  | some fault =>
      simp only [tryReplace]
      split
      · exact .inl rfl
      · exact .inr rfl

theorem lock_replace_of_ne (other : key ≠ written) :
    (store.replace clock written value).bucket.lock key = store.bucket.lock key := by
  simp [replace, Bucket.lock, Function.update_of_ne other]

theorem lock_replace_none : (store.replace clock key none).bucket.lock key = .ok none :=
  Bucket.lock_of_absent (Function.update_self _ _ _)

theorem lock_replace_some (lock : CompactionLock) :
    (store.replace clock key (some lock.toJson)).bucket.lock key = .ok (some lock) :=
  Bucket.lock_of_stored (Function.update_self _ _ _)

end FailingStore

/-- A storage in which calls fail, at a given time. -/
def serveFailing (clock : Int) (faults : StorageFaults) :
    (request : StorageCall) → FailingStore → StorageReply request × FailingStore
  | .getObject key, store =>
      match faults store.calls (.getObject key) with
      | some fault => (.error fault.error, store.pass)
      | none => (store.bucket.getReply key, store.pass)
  | .putObject key body, store =>
      store.tryReplace clock key (some body) (faults store.calls (.putObject key body))
  | .deleteObject key, store =>
      store.tryReplace clock key none (faults store.calls (.deleteObject key))
  | .now, store => (clock, store)

/-- No call fails. -/
def noFaults : StorageFaults := fun _ _ => none

/-! ## Operations of other workers -/

/-- A whole operation of a worker with another owner id; any of its calls can fail. -/
structure ForeignOperation (ownerId : String) where
  manager : LockManager
  foreign : manager.ownerId ≠ ownerId
  op : LockOp
  now : Option Int
  clock : Int
  faults : StorageFaults

theorem everyCall_lockOp (op : LockOp) (manager : LockManager) (now : Option Int) :
    (op.program manager now).EveryCall (manager.Issues op.partitionId) := by
  cases op with
  | acquire partitionId runId =>
      exact Program.everyCall_bind (LockManager.everyCall_acquire now runId) fun _ => trivial
  | cleanupStaleLock partitionId =>
      exact Program.everyCall_bind (LockManager.everyCall_cleanupStaleLock now) fun _ => trivial
  | release partitionId => exact LockManager.everyCall_release

namespace ForeignOperation

variable {ownerId : String}

/-- The stored locks after the operation. -/
def run (operation : ForeignOperation ownerId) (bucket : Bucket) : Bucket :=
  ((operation.op.program operation.manager operation.now).runWith
    (serveFailing operation.clock operation.faults) { bucket }).2.bucket

/-- Where a lock of the given owner is stored after a write of the operation, it was there
before. -/
theorem lock_before_replace {operation : ForeignOperation ownerId} {store : FailingStore}
    {key written : String} {value : Option LockBody} {lock : CompactionLock}
    (writes_own : ∀ body, value = some body → ∃ reference runId, body =
      (operation.manager.newLock operation.op.partitionId reference runId).toJson)
    (stored : (store.replace operation.clock written value).bucket.lock key = .ok (some lock))
    (owned : lock.ownerId = ownerId) : store.bucket.lock key = .ok (some lock) := by
  by_cases same : key = written
  · subst same
    cases value with
    | none => simp [FailingStore.lock_replace_none] at stored
    | some body =>
        obtain ⟨reference, runId, rfl⟩ := writes_own body rfl
        rw [FailingStore.lock_replace_some] at stored
        obtain rfl := Option.some.inj (Except.ok.inj stored)
        exact absurd owned operation.foreign
  · rwa [FailingStore.lock_replace_of_ne same] at stored

/-- A lock of the given owner which is stored after the operation was there before it. -/
theorem lock_before {operation : ForeignOperation ownerId} {bucket : Bucket} {key : String}
    {lock : CompactionLock} (stored : (operation.run bucket).lock key = .ok (some lock))
    (owned : lock.ownerId = ownerId) : bucket.lock key = .ok (some lock) := by
  have backwards : ∀ (request : StorageCall) (store : FailingStore),
      operation.manager.Issues operation.op.partitionId request →
      (store.bucket.lock key = .ok (some lock) → bucket.lock key = .ok (some lock)) →
      (serveFailing operation.clock operation.faults request store).2.bucket.lock key =
          .ok (some lock) → bucket.lock key = .ok (some lock) := by
    intro request store issued earlier found
    apply earlier
    cases request with
    | now => exact found
    | getObject read =>
        simp only [serveFailing] at found
        split at found <;> exact found
    | deleteObject deleted =>
        rcases FailingStore.tryReplace_cases (operation.faults store.calls _) with took | failed
        · rw [serveFailing, took] at found
          exact lock_before_replace (by simp) found owned
        · rwa [serveFailing, failed] at found
    | putObject written body =>
        rcases FailingStore.tryReplace_cases (operation.faults store.calls _) with took | failed
        · rw [serveFailing, took] at found
          refine lock_before_replace (fun other same => ?_) found owned
          obtain rfl := Option.some.inj same
          exact issued.2
        · rwa [serveFailing, failed] at found
  exact Program.runWith_preserves _ (everyCall_lockOp _ _ _) backwards id stored

end ForeignOperation

/-! ## Own operations -/

/-- What an operation knows of the record under its key, and whether it has written its own. -/
structure Custody where
  /-- The lock under the key, if it is known. -/
  known : Option (Option CompactionLock) := none
  wrote : Bool := false

namespace LockManager

variable (manager : LockManager)

/-- The lock is the manager's own, or stale at the given time. -/
def MayReplace (time : Int) (lock : CompactionLock) : Prop :=
  lock.ownerId = manager.ownerId ∨ manager.isStale lock time = .ok true

/-- What an operation knows after a call; a failed write is not expected. -/
def custodyAfter (held : Custody) : (request : StorageCall) → StorageReply request → Custody
  | .getObject _, reply => { held with known := (readReply reply).toOption }
  | .putObject _ _, .ok () => { known := none, wrote := true }
  | .putObject _ _, .error _ => { held with known := none }
  | .deleteObject _, _ => { held with known := none }
  | .now, _ => held

/-- Writes and deletes follow a read of a record which may be replaced. -/
def custody (partitionId : String) (reference : Int) :
    Program.Protocol StorageCall StorageReply Custody where
  permits held request :=
    manager.Issues partitionId request ∧
      match request with
      | .putObject _ _ | .deleteObject _ =>
          ∃ existing, held.known = some existing ∧
            ∀ lock, existing = some lock → manager.MayReplace reference lock
      | _ => True
  next := custodyAfter

variable {manager} {partitionId : String} {reference : Int} {α : Type}

theorem followsTo_readLock_bind {next : Option CompactionLock → LockProgram α}
    {final : Except PyException α → Custody → Prop} {held : Custody}
    (raises : ∀ exc, final (.error exc) { held with known := none })
    (last : ∀ existing, (next existing).FollowsTo (manager.custody partitionId reference) final
      { held with known := some existing }) :
    (manager.readLock partitionId >>= next).FollowsTo (manager.custody partitionId reference)
      final held := by
  rw [readLock_bind]
  refine ⟨⟨rfl, trivial⟩, fun reply => ?_⟩
  cases found : readReply reply with
  | error exc => simpa [custody, custodyAfter, found, Except.toOption] using raises exc
  | ok existing => simpa [custody, custodyAfter, found, Except.toOption] using last existing

theorem followsTo_cleanupStaleLock
    {final : Except PyException Bool → Custody → Prop} {held : Custody}
    (ends : ∀ outcome known, final outcome { held with known }) :
    (manager.cleanupStaleLock partitionId (some reference)).FollowsTo
      (manager.custody partitionId reference) final held := by
  rw [cleanupStaleLock_eq]
  apply followsTo_readLock_bind (fun exc => ends _ _)
  intro existing
  cases existing with
  | none => exact ends _ _
  | some lock =>
      rw [cleanupRead_some]
      apply Program.followsTo_ofExcept_bind (fun exc => ends _ _)
      intro stale is_stale
      cases stale with
      | false => exact ends _ _
      | true =>
          rw [if_pos rfl, removeStale_eq]
          apply Program.followsTo_ofExcept_bind (fun exc => ends _ _)
          intro acquired _
          rw [deleteLock_bind]
          refine ⟨⟨rfl, some lock, rfl, ?_⟩, fun reply => ?_⟩
          · rintro _ ⟨⟩
            exact .inr is_stale
          · exact Program.followsTo_ofExcept_bind (fun exc => ends _ _) fun _ _ => ends _ _

/-- A lock which does not block is the manager's own, or stale. -/
theorem mayReplace_of_isBlockedBy {lock : CompactionLock}
    (free : manager.isBlockedBy reference (some lock) = .ok false) :
    manager.MayReplace reference lock := by
  cases staleness : manager.isStale lock reference with
  | error exc => simp [isBlockedBy_some, staleness] at free
  | ok stale =>
      cases stale with
      | true => exact .inr staleness
      | false =>
          left
          simpa [isBlockedBy_some, staleness] using free

/-- `acquire` once the clock is read. -/
def acquireAfterClock (manager : LockManager) (partitionId : String) (runId : Option String)
    (reference : Int) : LockProgram Bool := do
  let _ ← manager.cleanupStaleLock partitionId (some reference)
  manager.acquireClean partitionId reference runId

/-- An `acquire` which has written its lock returns `True`. -/
theorem followsTo_acquireAfterClock (runId : Option String) :
    (manager.acquireAfterClock partitionId runId reference).FollowsTo
      (manager.custody partitionId reference)
      (fun outcome held => held.wrote = true → outcome = .ok true) {} := by
  apply Program.followsTo_bind
  apply followsTo_cleanupStaleLock
  intro outcome known
  cases outcome with
  | error exc => simp
  | ok removed =>
      apply followsTo_readLock_bind (by simp)
      intro existing
      apply Program.followsTo_ofExcept_bind (by simp)
      intro blocked is_blocked
      cases blocked with
      | true => simp
      | false =>
          rw [if_neg Bool.false_ne_true, ← takeLock, takeLock_eq, writeLock_bind]
          refine ⟨⟨⟨rfl, reference, runId, rfl⟩, existing, rfl, ?_⟩, fun reply => ?_⟩
          · rintro lock rfl
            exact mayReplace_of_isBlockedBy is_blocked
          · cases reply with
            | ok done => simp [custody, custodyAfter, writeReply]
            | error error => cases error <;> simp [custody, custodyAfter, writeReply]

/-! ## What an operation leaves behind -/

/-- The record was the lock of a partition among the given ones, and it was the manager's own or
stale when it was replaced. -/
def RightlyReplaced (manager : LockManager) (attempted : List String) (record : ReplacedRecord) :
    Prop :=
  ∃ partitionId ∈ attempted, record.key = manager.storagePath partitionId ∧
    ∃ lock, CompactionLock.fromJson record.body = .ok lock ∧ manager.MayReplace record.time lock

theorem RightlyReplaced.mono {manager : LockManager} {attempted more : List String}
    {record : ReplacedRecord} (rightly : manager.RightlyReplaced attempted record)
    (within : ∀ partitionId ∈ attempted, partitionId ∈ more) :
    manager.RightlyReplaced more record := by
  obtain ⟨partitionId, member, replaced⟩ := rightly
  exact ⟨partitionId, within partitionId member, replaced⟩

/-- A lock of the manager is stored under the key. -/
def Owns (manager : LockManager) (bucket : Bucket) (key : String) : Prop :=
  ∃ lock, bucket.lock key = .ok (some lock) ∧ lock.ownerId = manager.ownerId

/-- What an operation knows is true, only what it has written is its own, and what it has replaced
it has replaced rightly. -/
structure InCustody (manager : LockManager) (partitionId : String) (attempted : List String)
    (held : Custody) (store : FailingStore) : Prop where
  known : ∀ existing, held.known = some existing →
    store.bucket.lock (manager.storagePath partitionId) = .ok existing
  owned : ∀ key, manager.Owns store.bucket key →
    key = manager.storagePath partitionId ∧ held.wrote = true
  replaced : ∀ record ∈ store.replaced, manager.RightlyReplaced attempted record

variable {attempted : List String} {store : FailingStore} {held : Custody}

theorem Owns.of_replace {time : Int} {key written : String} {value : Option LockBody}
    (other : key ≠ written) (owns : manager.Owns (store.replace time written value).bucket key) :
    manager.Owns store.bucket key := by
  obtain ⟨lock, stored, own⟩ := owns
  exact ⟨lock, by rwa [FailingStore.lock_replace_of_ne other] at stored, own⟩

/-- After a delete, what is owned is elsewhere. -/
theorem Owns.of_delete {time : Int} {key deleted : String}
    (owns : manager.Owns (store.replace time deleted none).bucket key) :
    key ≠ deleted ∧ manager.Owns store.bucket key := by
  by_cases same : key = deleted
  · subst same
    obtain ⟨lock, stored, -⟩ := owns
    simp [FailingStore.lock_replace_none] at stored
  · exact ⟨same, owns.of_replace same⟩

/-- A record which is known and may be replaced is replaced rightly. -/
theorem rightlyReplaced_replace {existing : Option CompactionLock} {value : Option LockBody}
    (attempts : partitionId ∈ attempted)
    (stored : store.bucket.lock (manager.storagePath partitionId) = .ok existing)
    (replaceable : ∀ lock, existing = some lock → manager.MayReplace reference lock)
    (earlier : ∀ record ∈ store.replaced, manager.RightlyReplaced attempted record) :
    ∀ record ∈ (store.replace reference (manager.storagePath partitionId) value).replaced,
      manager.RightlyReplaced attempted record := by
  intro record member
  rcases List.mem_append.mp member with before | now
  · exact earlier record before
  · obtain ⟨body, body_mem, rfl⟩ := List.mem_map.mp now
    have found : store.bucket (manager.storagePath partitionId) = some body :=
      Option.mem_toList.mp body_mem
    simp only [Bucket.lock, found] at stored
    cases parsed : CompactionLock.fromJson body with
    | error exc => simp [parsed, Except.map] at stored
    | ok lock =>
        rw [parsed] at stored
        exact ⟨partitionId, attempts, rfl, lock, parsed,
          replaceable lock (Except.ok.inj stored).symm⟩

end LockManager

/-- Failures of an `acquire` before its write: a failing read raises, and the write does not
fail. -/
structure AcquireFaults where
  faults : StorageFaults
  reads_raise : ∀ calls key fault, faults calls (.getObject key) = some fault →
    LockManager.readReply (.error fault.error) ≠ .ok none
  writes_succeed : ∀ calls key body, faults calls (.putObject key body) = none

namespace LockManager

variable {manager : LockManager} {partitionId : String} {reference : Int}
  {attempted : List String}

theorem toOption_eq_some {α : Type} {result : Except PyException α} {value : α} :
    result.toOption = some value ↔ result = .ok value := by
  cases result <;> simp [Except.toOption]

/-- A read which raises makes nothing known. -/
theorem toOption_readReply_error {error : StorageError}
    (raises : readReply (.error error) ≠ .ok none) (existing : Option CompactionLock) :
    (readReply (.error error)).toOption ≠ some existing := by
  intro known
  rw [toOption_eq_some] at known
  cases existing with
  | none => exact raises known
  | some lock =>
      cases error with
      | other exc => simp [readReply, TimeRules.readReply] at known
      | clientError code exc =>
          simp only [readReply, TimeRules.readReply] at known
          split at known <;> simp at known

/-- Every call of an `acquire` keeps the custody. -/
theorem inCustody_serveFailing (failures : AcquireFaults) (attempts : partitionId ∈ attempted)
    (held : Custody) (request : StorageCall) (store : FailingStore)
    (permitted : (manager.custody partitionId reference).permits held request)
    (inside : manager.InCustody partitionId attempted held store) :
    manager.InCustody partitionId attempted
      ((manager.custody partitionId reference).next held request
        (serveFailing reference failures.faults request store).1)
      (serveFailing reference failures.faults request store).2 := by
  obtain ⟨issued, ready⟩ := permitted
  cases request with
  | now => exact inside
  | getObject key =>
      obtain rfl : key = manager.storagePath partitionId := issued
      have passed : (serveFailing reference failures.faults
          (.getObject (manager.storagePath partitionId)) store).2 = store.pass := by
        simp only [serveFailing]
        split <;> rfl
      rw [passed]
      refine ⟨fun existing known => ?_, inside.owned, inside.replaced⟩
      simp only [custody, custodyAfter, serveFailing] at known
      split at known
      · rename_i fault fails
        exact absurd known (toOption_readReply_error (failures.reads_raise _ _ _ fails) existing)
      · rw [readReply_getReply, toOption_eq_some] at known
        exact known
  | deleteObject key =>
      obtain rfl : key = manager.storagePath partitionId := issued
      obtain ⟨existing, known, replaceable⟩ := ready
      have stored := inside.known existing known
      rcases FailingStore.tryReplace_cases (failures.faults store.calls _) with took | failed
      · rw [serveFailing, took]
        refine ⟨by simp [custody, custodyAfter], fun key owns => ?_, ?_⟩
        · exact inside.owned key owns.of_delete.2
        · exact rightlyReplaced_replace attempts stored replaceable inside.replaced
      · rw [serveFailing, failed]
        exact ⟨by simp [custody, custodyAfter], inside.owned, inside.replaced⟩
  | putObject key body =>
      obtain ⟨rfl, -⟩ := issued
      obtain ⟨existing, known, replaceable⟩ := ready
      have stored := inside.known existing known
      simp only [serveFailing, failures.writes_succeed]
      refine ⟨by simp [custody, custodyAfter, FailingStore.tryReplace], fun key owns => ?_, ?_⟩
      · by_cases same : key = manager.storagePath partitionId
        · exact ⟨same, rfl⟩
        · exact absurd (inside.owned key (owns.of_replace same)).1 same
      · exact rightlyReplaced_replace attempts stored replaceable inside.replaced

/-- A whole `acquire` of a worker without locks: only a success leaves a lock of its own, and what
is replaced is replaced rightly. -/
theorem acquire_leaves (failures : AcquireFaults) (attempts : partitionId ∈ attempted)
    (runId : Option String) {bucket : Bucket} {replaced : List ReplacedRecord} (clock : Int)
    (none_owned : ∀ key, ¬manager.Owns bucket key)
    (earlier : ∀ record ∈ replaced, manager.RightlyReplaced attempted record)
    {outcome : Except PyException Bool} {later : FailingStore}
    (run : (manager.acquire partitionId none runId).runWith (serveFailing clock failures.faults)
      { bucket, replaced } = (outcome, later)) :
    (∀ key, manager.Owns later.bucket key →
      key = manager.storagePath partitionId ∧ outcome = .ok true) ∧
    ∀ record ∈ later.replaced, manager.RightlyReplaced attempted record := by
  have start : manager.InCustody partitionId attempted {} { bucket, replaced } :=
    ⟨by simp, fun key owns => absurd owns (none_owned key), earlier⟩
  obtain ⟨held, inside, final⟩ := Program.runWith_followsTo (serveFailing clock failures.faults)
    (@followsTo_acquireAfterClock manager partitionId clock runId)
    (inCustody_serveFailing failures attempts) start
  have after_clock : (manager.acquireAfterClock partitionId runId clock).runWith
      (serveFailing clock failures.faults) { bucket, replaced } = (outcome, later) := run
  rw [after_clock] at inside final
  refine ⟨fun key owns => ?_, inside.replaced⟩
  obtain ⟨here, wrote⟩ := inside.owned key owns
  exact ⟨here, final wrote⟩

theorem runWith_readLock_serveFailing (clock : Int) (store : FailingStore) :
    (manager.readLock partitionId).runWith (serveFailing clock noFaults) store =
      (store.bucket.lock (manager.storagePath partitionId), store.pass) := by
  simp [readLock_eq, serveFailing, noFaults]

/-- A whole `release` whose calls succeed removes a lock of its worker, and else changes
nothing. -/
theorem runWith_release_serveFailing (clock : Int) (store : FailingStore) :
    (((manager.release partitionId).runWith (serveFailing clock noFaults) store).2 = store.pass ∧
      ∀ lock, store.bucket.lock (manager.storagePath partitionId) = .ok (some lock) →
        lock.ownerId ≠ manager.ownerId) ∨
    ∃ lock, store.bucket.lock (manager.storagePath partitionId) = .ok (some lock) ∧
      lock.ownerId = manager.ownerId ∧
      ((manager.release partitionId).runWith (serveFailing clock noFaults) store).2 =
        store.pass.replace clock (manager.storagePath partitionId) none := by
  rw [release_eq, Program.runWith_bind, runWith_readLock_serveFailing]
  cases found : store.bucket.lock (manager.storagePath partitionId) with
  | error exc => exact .inl ⟨rfl, by simp⟩
  | ok existing =>
      cases existing with
      | none => exact .inl ⟨rfl, by simp⟩
      | some lock =>
          by_cases own : lock.ownerId = manager.ownerId
          · refine .inr ⟨lock, rfl, own, ?_⟩
            simp [releaseRead_some, own, deleteLock, deleteReply, serveFailing, noFaults,
              FailingStore.tryReplace]
          · refine .inl ⟨?_, ?_⟩
            · simp [releaseRead_some, own]
            · rintro _ ⟨⟩
              exact own

/-- A whole `release` whose calls succeed: no lock of the worker is left, and what is replaced is
replaced rightly. -/
theorem release_leaves (attempts : partitionId ∈ attempted) {bucket : Bucket}
    {replaced : List ReplacedRecord} (clock : Int)
    (only_owned : ∀ key, manager.Owns bucket key → key = manager.storagePath partitionId)
    (earlier : ∀ record ∈ replaced, manager.RightlyReplaced attempted record)
    {outcome : Except PyException Unit} {later : FailingStore}
    (run : (manager.release partitionId).runWith (serveFailing clock noFaults)
      { bucket, replaced } = (outcome, later)) :
    (∀ key, ¬manager.Owns later.bucket key) ∧
    ∀ record ∈ later.replaced, manager.RightlyReplaced attempted record := by
  have effect := @runWith_release_serveFailing manager partitionId clock { bucket, replaced }
  rw [run] at effect
  rcases effect with ⟨rfl, foreign⟩ | ⟨lock, found, own, rfl⟩
  · refine ⟨?_, earlier⟩
    rintro key ⟨lock, stored, own⟩
    obtain rfl := only_owned key ⟨lock, stored, own⟩
    exact foreign lock stored own
  · refine ⟨fun key owns => ?_, rightlyReplaced_replace attempts found ?_ earlier⟩
    · exact owns.of_delete.1 (only_owned key owns.of_delete.2)
    · rintro _ ⟨⟩
      exact .inl own

end LockManager

end Lakehouse
