import Lakehouse.Compactor.Config
import Lakehouse.Compactor.DatetimeArithmetic
import Lakehouse.Foundation.Program

/-!
# The lock manager

The operations of `LockManager` on the object store, as programs over its single storage calls.
`serve` is a bucket which answers every call; running an operation against it to the end makes the
operation atomic, and stepping through it interleaves the calls of several operations.
-/

namespace Lakehouse

open Foundation

/-- What `_parse_iso` makes of a stored text. -/
abbrev Timestamp := Except PyException Int

/-- A parsed lock. -/
structure CompactionLock where
  partitionId : String
  ownerId : String
  acquiredAt : Timestamp
  expiresAt : Timestamp
  runId : String
  deriving DecidableEq

/-- The members of a stored JSON object which `from_json` reads. -/
structure LockRecord where
  partitionId : Option String
  ownerId : Option String
  acquiredAt : Option Timestamp
  /-- An empty text and `null` count as missing. -/
  expiresAt : Option Timestamp
  runId : Option String
  deriving DecidableEq

/-- The body of a stored lock. -/
inductive LockBody
  /-- Not an object with texts as members; `from_json` raises this exception. -/
  | malformed (exc : PyException)
  | record (fields : LockRecord)
  deriving DecidableEq

/-- `data[name]`. -/
def requiredMember {α : Type} (name : String) (member : Option α) : Except PyException α :=
  match member with
  | some value => .ok value
  | none => .error { type := .other "KeyError", message := "'" ++ name ++ "'" }

namespace CompactionLock

def toJson (lock : CompactionLock) : LockBody :=
  .record
    { partitionId := some lock.partitionId
      ownerId := some lock.ownerId
      acquiredAt := some lock.acquiredAt
      expiresAt := some lock.expiresAt
      runId := some lock.runId }

end CompactionLock

/-- `expires_at`, or an hour after `acquired_at` where there is none. -/
def TimeRules.expiry (rules : TimeRules) (acquiredAt : Timestamp) :
    Option Timestamp → Except PyException Timestamp
  | some expiresAt => .ok expiresAt
  | none => do
      let acquired ← acquiredAt
      let expires ← rules.plus acquired (hours 1)
      return .ok expires

/-- Read a stored lock. -/
def TimeRules.fromJson (rules : TimeRules) : LockBody → Except PyException CompactionLock
  | .malformed exc => .error exc
  | .record fields => do
      let acquiredAt ← requiredMember "acquired_at" fields.acquiredAt
      let expiresAt ← rules.expiry acquiredAt fields.expiresAt
      let partitionId ← requiredMember "partition_id" fields.partitionId
      let ownerId ← requiredMember "owner_id" fields.ownerId
      return { partitionId, ownerId, acquiredAt, expiresAt, runId := fields.runId.getD "unknown" }

/-- A lock which has been written is read back. -/
@[simp]
theorem TimeRules.fromJson_toJson (rules : TimeRules) (lock : CompactionLock) :
    rules.fromJson lock.toJson = .ok lock := rfl

/-- Read a stored lock on the line of times. -/
def CompactionLock.fromJson (body : LockBody) : Except PyException CompactionLock :=
  TimeRules.exact.fromJson body

@[simp]
theorem CompactionLock.fromJson_toJson (lock : CompactionLock) : fromJson lock.toJson = .ok lock :=
  rfl

/-- Key of the lock of a partition. -/
def lockFilePath (basePath partitionId : String) : String :=
  rstripSlash basePath ++ "/" ++ partitionId ++ ".lock"

/-- Distinct partitions have distinct lock keys. -/
theorem lockFilePath_inj {basePath partitionId other : String} :
    lockFilePath basePath partitionId = lockFilePath basePath other ↔ partitionId = other := by
  constructor
  · intro same
    have chars := congrArg String.toList same
    simp only [lockFilePath, String.toList_append, List.append_cancel_right_eq,
      List.append_cancel_left_eq] at chars
    exact String.toList_inj.mp chars
  · rintro rfl
    rfl

/-! ## Storage calls -/

/-- The calls of the lock manager to its environment.  Managers which share a store have the same
`minio_bucket`. -/
inductive StorageCall
  | getObject (key : String)
  | putObject (key : String) (body : LockBody)
  | deleteObject (key : String)
  /-- `datetime.now(UTC)`. -/
  | now
  deriving DecidableEq

/-- What a storage call can raise. -/
inductive StorageError
  /-- A `ClientError` with its error code. -/
  | clientError (code : String) (exc : PyException)
  | other (exc : PyException)

abbrev StorageReply : StorageCall → Type
  | .getObject _ => Except StorageError LockBody
  | .putObject _ _ => Except StorageError Unit
  | .deleteObject _ => Except StorageError Unit
  | .now => Int

abbrev LockProgram := Program StorageCall StorageReply PyException

/-! ## Operations -/

/-- The lock manager of one worker. -/
structure LockManager where
  config : CompactionConfig
  ownerId : String
  runId : String := "unknown"
  deriving DecidableEq

namespace LockManager

variable (manager : LockManager)

def storagePath (partitionId : String) : String :=
  lockFilePath manager.config.lockBasePath partitionId

/-- A lock of this manager. -/
def lockUntil (partitionId : String) (reference expires : Int) (runId : Option String) :
    CompactionLock where
  partitionId := partitionId
  ownerId := manager.ownerId
  acquiredAt := .ok reference
  expiresAt := .ok expires
  runId := (runId.filter (· != "")).getD manager.runId

/-- The lock which `acquire` writes on the line of times. -/
def newLock (partitionId : String) (reference : Int) (runId : Option String) : CompactionLock :=
  manager.lockUntil partitionId reference
    (reference + seconds manager.config.lockTimeoutSeconds) runId

end LockManager

namespace TimeRules

variable (rules : TimeRules) (manager : LockManager)

/-- Expired, or older than the timeout of the manager. -/
def isStale (lock : CompactionLock) (reference : Int) : Except PyException Bool := do
  let expires ← lock.expiresAt
  if reference ≥ expires then
    return true
  let acquired ← lock.acquiredAt
  return rules.exceeds (reference - acquired) manager.config.lockTimeoutSeconds

/-- The lock which `acquire` builds. -/
def newLock (partitionId : String) (reference : Int) (runId : Option String) :
    Except PyException CompactionLock := do
  let expires ← rules.plus reference (seconds manager.config.lockTimeoutSeconds)
  return manager.lockUntil partitionId reference expires runId

/-- Whether the lock read keeps `acquire` from writing its own. -/
def isBlockedBy (reference : Int) : Option CompactionLock → Except PyException Bool
  | none => .ok false
  | some existing => do
      let stale ← rules.isStale manager existing reference
      return !stale && existing.ownerId != manager.ownerId

end TimeRules

/-- What the operations need of a storage, and their arithmetic on times. -/
structure LockBackend (Call : Type) (Reply : Call → Type) where
  rules : TimeRules
  /-- `_read_lock`. -/
  readLock : String → Program Call Reply PyException (Option CompactionLock)
  /-- `_write_lock`. -/
  writeLock : CompactionLock → Program Call Reply PyException Unit
  /-- `_delete_lock`. -/
  deleteLock : String → Program Call Reply PyException Unit
  /-- `datetime.now(UTC)`. -/
  clock : Program Call Reply PyException Int

namespace LockBackend

variable {Call : Type} {Reply : Call → Type} (backend : LockBackend Call Reply)
  (manager : LockManager) (partitionId : String)

/-- `now or datetime.now(UTC)`. -/
def orClock (now : Option Int) : Program Call Reply PyException Int :=
  match now with
  | some reference => return reference
  | none => backend.clock

/-- Remove a lock whose staleness is already known. -/
def removeStale (existing : CompactionLock) : Program Call Reply PyException Bool := do
  -- the log line reads `acquired_datetime` before the lock is deleted
  let _ ← Program.ofExcept existing.acquiredAt
  backend.deleteLock partitionId
  return true

/-- What `cleanup_stale_lock` does with the lock it has read. -/
def cleanupRead (now : Option Int) :
    Option CompactionLock → Program Call Reply PyException Bool
  | none => return false
  | some existing => do
      let reference ← backend.orClock now
      if ← Program.ofExcept (backend.rules.isStale manager existing reference) then
        backend.removeStale partitionId existing
      else
        return false

def cleanupStaleLock (now : Option Int) : Program Call Reply PyException Bool := do
  let existing ← backend.readLock partitionId
  backend.cleanupRead manager partitionId now existing

/-- The write of `acquire`. -/
def takeLock (reference : Int) (runId : Option String) : Program Call Reply PyException Bool := do
  let lock ← Program.ofExcept (backend.rules.newLock manager partitionId reference runId)
  backend.writeLock lock
  return true

/-- `acquire` after its cleanup: read again, and write unless another worker holds the lock. -/
def acquireClean (reference : Int) (runId : Option String) :
    Program Call Reply PyException Bool := do
  let existing ← backend.readLock partitionId
  if ← Program.ofExcept (backend.rules.isBlockedBy manager reference existing) then
    return false
  else
    backend.takeLock manager partitionId reference runId

def acquire (now : Option Int) (runId : Option String) : Program Call Reply PyException Bool := do
  let reference ← backend.orClock now
  -- the reply of the cleanup only decides about a log line
  let _ ← backend.cleanupStaleLock manager partitionId (some reference)
  backend.acquireClean manager partitionId reference runId

/-- What `release` does with the lock it has read. -/
def releaseRead : Option CompactionLock → Program Call Reply PyException Unit
  | none => return ()
  | some existing =>
      if existing.ownerId = manager.ownerId then
        backend.deleteLock partitionId
      else
        return ()

def release : Program Call Reply PyException Unit := do
  let existing ← backend.readLock partitionId
  backend.releaseRead manager partitionId existing

def isHeldBySelf : Program Call Reply PyException Bool := do
  let existing ← backend.readLock partitionId
  match existing with
  | none => return false
  | some existing => return existing.ownerId = manager.ownerId

end LockBackend

/-! ## The bucket as a back end -/

/-- What `_read_lock` makes of the reply to its request. -/
def TimeRules.readReply (rules : TimeRules) :
    Except StorageError LockBody → Except PyException (Option CompactionLock)
  | .ok body => (rules.fromJson body).map some
  | .error (.clientError code exc) =>
      if code = "404" ∨ code = "NoSuchKey" then .ok none else .error exc
  | .error (.other exc) => .error exc

namespace LockManager

variable (manager : LockManager)

/-- What `put_object` raises is passed on. -/
def writeReply : Except StorageError Unit → Except PyException Unit
  | .ok () => .ok ()
  | .error (.clientError _ exc) => .error exc
  | .error (.other exc) => .error exc

def writeLock (lock : CompactionLock) : LockProgram Unit := do
  let reply ← Program.perform (.putObject (manager.storagePath lock.partitionId) lock.toJson)
  Program.ofExcept (writeReply reply)

/-- A `ClientError` of `delete_object` is swallowed. -/
def deleteReply : Except StorageError Unit → Except PyException Unit
  | .ok () => .ok ()
  | .error (.clientError _ _) => .ok ()
  | .error (.other exc) => .error exc

def deleteLock (partitionId : String) : LockProgram Unit := do
  let reply ← Program.perform (.deleteObject (manager.storagePath partitionId))
  Program.ofExcept (deleteReply reply)

def s3By (rules : TimeRules) : LockBackend StorageCall StorageReply where
  rules := rules
  readLock partitionId := do
    let reply ← Program.perform (.getObject (manager.storagePath partitionId))
    Program.ofExcept (rules.readReply reply)
  writeLock := manager.writeLock
  deleteLock := manager.deleteLock
  clock := Program.perform StorageCall.now

/-! ### On the line of times -/

def s3 : LockBackend StorageCall StorageReply := manager.s3By .exact

def readReply (reply : Except StorageError LockBody) : Except PyException (Option CompactionLock) :=
  TimeRules.exact.readReply reply

def isStale (lock : CompactionLock) (reference : Int) : Except PyException Bool :=
  TimeRules.exact.isStale manager lock reference

def isBlockedBy (reference : Int) (existing : Option CompactionLock) : Except PyException Bool :=
  TimeRules.exact.isBlockedBy manager reference existing

def readLock (partitionId : String) : LockProgram (Option CompactionLock) :=
  manager.s3.readLock partitionId

def orClock (now : Option Int) : LockProgram Int :=
  match now with
  | some reference => return reference
  | none => Program.perform StorageCall.now

def removeStale (partitionId : String) (existing : CompactionLock) : LockProgram Bool :=
  manager.s3.removeStale partitionId existing

def cleanupRead (partitionId : String) (now : Option Int) (existing : Option CompactionLock) :
    LockProgram Bool :=
  manager.s3.cleanupRead manager partitionId now existing

def cleanupStaleLock (partitionId : String) (now : Option Int) : LockProgram Bool :=
  manager.s3.cleanupStaleLock manager partitionId now

def takeLock (partitionId : String) (reference : Int) (runId : Option String) :
    LockProgram Bool :=
  manager.s3.takeLock manager partitionId reference runId

def acquireClean (partitionId : String) (reference : Int) (runId : Option String) :
    LockProgram Bool :=
  manager.s3.acquireClean manager partitionId reference runId

def acquire (partitionId : String) (now : Option Int) (runId : Option String) :
    LockProgram Bool :=
  manager.s3.acquire manager partitionId now runId

def releaseRead (partitionId : String) (existing : Option CompactionLock) : LockProgram Unit :=
  manager.s3.releaseRead manager partitionId existing

def release (partitionId : String) : LockProgram Unit :=
  manager.s3.release manager partitionId

/-! ### Their parts -/

section Parts

variable (partitionId : String)

theorem readLock_eq :
    manager.readLock partitionId =
      .call (.getObject (manager.storagePath partitionId)) fun reply =>
        Program.ofExcept (readReply reply) := rfl

theorem orClock_eq (now : Option Int) : manager.s3.orClock now = orClock now := by
  cases now <;> rfl

theorem isStale_eq (lock : CompactionLock) (reference : Int) :
    manager.isStale lock reference =
      (do
        let expires ← lock.expiresAt
        if reference ≥ expires then
          return true
        let acquired ← lock.acquiredAt
        return reference - acquired > seconds manager.config.lockTimeoutSeconds) := rfl

theorem isBlockedBy_none (reference : Int) : manager.isBlockedBy reference none = .ok false := rfl

theorem isBlockedBy_some (reference : Int) (existing : CompactionLock) :
    manager.isBlockedBy reference (some existing) =
      manager.isStale existing reference >>= fun stale =>
        pure (!stale && existing.ownerId != manager.ownerId) := rfl

theorem removeStale_eq (existing : CompactionLock) :
    manager.removeStale partitionId existing =
      Program.ofExcept existing.acquiredAt >>= fun _ =>
        manager.deleteLock partitionId >>= fun _ => .done true := rfl

theorem cleanupRead_some (now : Option Int) (existing : CompactionLock) :
    manager.cleanupRead partitionId now (some existing) =
      orClock now >>= fun reference =>
        Program.ofExcept (manager.isStale existing reference) >>= fun stale =>
          if stale then manager.removeStale partitionId existing else .done false := by
  rw [cleanupRead, LockBackend.cleanupRead, orClock_eq]
  rfl

theorem cleanupStaleLock_eq (now : Option Int) :
    manager.cleanupStaleLock partitionId now =
      manager.readLock partitionId >>= manager.cleanupRead partitionId now := rfl

theorem takeLock_eq (reference : Int) (runId : Option String) :
    manager.takeLock partitionId reference runId =
      manager.writeLock (manager.newLock partitionId reference runId) >>= fun _ => .done true := rfl

theorem acquireClean_eq (reference : Int) (runId : Option String) :
    manager.acquireClean partitionId reference runId =
      manager.readLock partitionId >>= fun existing =>
        Program.ofExcept (manager.isBlockedBy reference existing) >>= fun blocked =>
          if blocked then .done false else manager.takeLock partitionId reference runId := rfl

theorem acquire_eq (now : Option Int) (runId : Option String) :
    manager.acquire partitionId now runId =
      orClock now >>= fun reference =>
        manager.cleanupStaleLock partitionId (some reference) >>= fun _ =>
          manager.acquireClean partitionId reference runId := by
  rw [acquire, LockBackend.acquire, orClock_eq]
  rfl

theorem releaseRead_some (existing : CompactionLock) :
    manager.releaseRead partitionId (some existing) =
      if existing.ownerId = manager.ownerId then manager.deleteLock partitionId
      else .done () := rfl

theorem release_eq :
    manager.release partitionId =
      manager.readLock partitionId >>= manager.releaseRead partitionId := rfl

end Parts

/-! ## The first call of a composite -/

section Bind

variable {α : Type} (partitionId : String)

theorem readLock_bind (next : Option CompactionLock → LockProgram α) :
    (manager.readLock partitionId >>= next) =
      .call (.getObject (manager.storagePath partitionId)) fun reply =>
        Program.ofExcept (readReply reply) >>= next := rfl

theorem deleteLock_bind (next : Unit → LockProgram α) :
    (manager.deleteLock partitionId >>= next) =
      .call (.deleteObject (manager.storagePath partitionId)) fun reply =>
        Program.ofExcept (deleteReply reply) >>= next := rfl

theorem writeLock_bind (lock : CompactionLock) (next : Unit → LockProgram α) :
    (manager.writeLock lock >>= next) =
      .call (.putObject (manager.storagePath lock.partitionId) lock.toJson) fun reply =>
        Program.ofExcept (writeReply reply) >>= next := rfl

theorem cleanupStaleLock_bind (now : Option Int) (next : Bool → LockProgram α) :
    (manager.cleanupStaleLock partitionId now >>= next) =
      manager.readLock partitionId >>= fun existing =>
        manager.cleanupRead partitionId now existing >>= next :=
  Program.bind_assoc _ _ _

end Bind

/-! ## The calls of the operations -/

/-- The calls which operations of this manager on the partition can make. -/
def Issues (partitionId : String) : StorageCall → Prop
  | .getObject key => key = manager.storagePath partitionId
  | .putObject key body =>
      key = manager.storagePath partitionId ∧
        ∃ reference runId, body = (manager.newLock partitionId reference runId).toJson
  | .deleteObject key => key = manager.storagePath partitionId
  | .now => True

variable {manager} {partitionId : String}

theorem everyCall_readLock :
    (manager.readLock partitionId).EveryCall (manager.Issues partitionId) :=
  Program.everyCall_bind (by simp [Issues]) fun _ => by simp

theorem everyCall_deleteLock :
    (manager.deleteLock partitionId).EveryCall (manager.Issues partitionId) :=
  Program.everyCall_bind (by simp [Issues]) fun _ => by simp

theorem everyCall_orClock (now : Option Int) :
    (orClock now).EveryCall (manager.Issues partitionId) := by
  cases now <;> simp [orClock, Issues]

theorem everyCall_removeStale (existing : CompactionLock) :
    (manager.removeStale partitionId existing).EveryCall (manager.Issues partitionId) :=
  Program.everyCall_bind (by simp) fun _ =>
    Program.everyCall_bind everyCall_deleteLock fun _ => by simp

theorem everyCall_cleanupStaleLock (now : Option Int) :
    (manager.cleanupStaleLock partitionId now).EveryCall (manager.Issues partitionId) := by
  refine Program.everyCall_bind everyCall_readLock fun existing => ?_
  cases existing with
  | none => exact Program.everyCall_done false
  | some existing =>
      rw [← cleanupRead, cleanupRead_some]
      refine Program.everyCall_bind (everyCall_orClock now) fun reference => ?_
      refine Program.everyCall_bind (by simp) fun stale => ?_
      cases stale with
      | true => exact everyCall_removeStale existing
      | false => simp

theorem everyCall_takeLock (reference : Int) (runId : Option String) :
    (manager.takeLock partitionId reference runId).EveryCall (manager.Issues partitionId) := by
  have writes : (manager.writeLock (manager.newLock partitionId reference runId)).EveryCall
      (manager.Issues partitionId) :=
    Program.everyCall_bind ((Program.everyCall_perform _).mpr ⟨rfl, reference, runId, rfl⟩)
      fun _ => by simp
  rw [takeLock_eq]
  exact Program.everyCall_bind writes fun _ => by simp

theorem everyCall_acquireClean (reference : Int) (runId : Option String) :
    (manager.acquireClean partitionId reference runId).EveryCall (manager.Issues partitionId) := by
  refine Program.everyCall_bind everyCall_readLock fun existing => ?_
  refine Program.everyCall_bind (by simp) fun blocked => ?_
  cases blocked with
  | true => simp
  | false => exact everyCall_takeLock reference runId

theorem everyCall_acquire (now : Option Int) (runId : Option String) :
    (manager.acquire partitionId now runId).EveryCall (manager.Issues partitionId) := by
  rw [acquire_eq]
  exact Program.everyCall_bind (everyCall_orClock now) fun _ =>
    Program.everyCall_bind (everyCall_cleanupStaleLock _) fun _ => everyCall_acquireClean _ _

theorem everyCall_release :
    (manager.release partitionId).EveryCall (manager.Issues partitionId) := by
  refine Program.everyCall_bind everyCall_readLock fun existing => ?_
  cases existing with
  | none => exact Program.everyCall_done ()
  | some existing =>
      rw [← releaseRead, releaseRead_some]
      split
      · exact everyCall_deleteLock
      · simp

end LockManager

/-! ## The bucket -/

/-- The stored locks by key. -/
abbrev Bucket := String → Option LockBody

/-- The reply of the bucket to `get_object`. -/
def Bucket.getReply (bucket : Bucket) (key : String) : Except StorageError LockBody :=
  match bucket key with
  | some body => .ok body
  | none =>
      .error (.clientError "NoSuchKey"
        { type := .other "NoSuchKey", message := "The specified key does not exist." })

/-- What is read is stored. -/
theorem Bucket.stored_of_getReply {bucket : Bucket} {key : String} {body : LockBody}
    (returned : bucket.getReply key = .ok body) : bucket key = some body := by
  unfold Bucket.getReply at returned
  cases found : bucket key with
  | none => simp [found] at returned
  | some other =>
      rw [found] at returned
      rw [Except.ok.inj returned]

/-- A storage which answers every call, at a given time. -/
def serve (clock : Int) : (request : StorageCall) → Bucket → StorageReply request × Bucket
  | .getObject key, bucket => (bucket.getReply key, bucket)
  | .putObject key body, bucket => (.ok (), Function.update bucket key (some body))
  | .deleteObject key, bucket => (.ok (), Function.update bucket key none)
  | .now, bucket => (clock, bucket)

/-- The lock under a key, as the operations read it. -/
def Bucket.lock (bucket : Bucket) (key : String) : Except PyException (Option CompactionLock) :=
  match bucket key with
  | none => .ok none
  | some body => (CompactionLock.fromJson body).map some

/-- The lock under a key, as operations with other rules read it. -/
def Bucket.lockBy (rules : TimeRules) (bucket : Bucket) (key : String) :
    Except PyException (Option CompactionLock) :=
  match bucket key with
  | none => .ok none
  | some body => (rules.fromJson body).map some

/-- A lock which has been written is read back. -/
theorem Bucket.lock_of_stored {bucket : Bucket} {key : String} {lock : CompactionLock}
    (stored : bucket key = some lock.toJson) : bucket.lock key = .ok (some lock) := by
  simp only [Bucket.lock, stored, CompactionLock.fromJson_toJson]
  rfl

theorem Bucket.lock_of_absent {bucket : Bucket} {key : String} (absent : bucket key = none) :
    bucket.lock key = .ok none := by
  simp only [Bucket.lock, absent]

namespace LockManager

variable {manager : LockManager} {partitionId : String} {clock : Int} {bucket : Bucket}

theorem readReply_getReply_by (rules : TimeRules) (bucket : Bucket) (key : String) :
    rules.readReply (bucket.getReply key) = bucket.lockBy rules key := by
  unfold Bucket.getReply Bucket.lockBy
  cases bucket key <;> simp [TimeRules.readReply]

@[simp]
theorem readReply_getReply (bucket : Bucket) (key : String) :
    readReply (bucket.getReply key) = bucket.lock key :=
  readReply_getReply_by .exact bucket key

/-- An operation on a partition leaves the locks of the others alone. -/
theorem runWith_other_key {α : Type} {program : LockProgram α}
    (every : program.EveryCall (manager.Issues partitionId)) {key : String}
    (other : key ≠ manager.storagePath partitionId) :
    (program.runWith (serve clock) bucket).2 key = bucket key := by
  have preserved : ∀ (request : StorageCall) (later : Bucket),
      manager.Issues partitionId request → later key = bucket key →
        (serve clock request later).2 key = bucket key := by
    intro request later issued same
    cases request with
    | getObject _ => exact same
    | putObject written body =>
        obtain rfl : written = manager.storagePath partitionId := issued.1
        simpa [serve, Function.update_of_ne other] using same
    | deleteObject deleted =>
        obtain rfl : deleted = manager.storagePath partitionId := issued
        simpa [serve, Function.update_of_ne other] using same
    | now => exact same
  exact Program.runWith_preserves (serve clock) every preserved rfl

theorem runWith_readLock_by (rules : TimeRules) (clock : Int) (bucket : Bucket) :
    ((manager.s3By rules).readLock partitionId).runWith (serve clock) bucket =
      (bucket.lockBy rules (manager.storagePath partitionId), bucket) := by
  simp only [s3By, Program.perform_bind, Program.runWith_call, serve, readReply_getReply_by,
    Program.runWith_ofExcept]

theorem runWith_readLock (clock : Int) (bucket : Bucket) :
    (manager.readLock partitionId).runWith (serve clock) bucket =
      (bucket.lock (manager.storagePath partitionId), bucket) :=
  runWith_readLock_by .exact clock bucket

/-! ## Atomic operations -/

/-- A lock which is not stale survives a cleanup. -/
theorem runWith_cleanupStaleLock_of_fresh {lock : CompactionLock} {reference : Int}
    (stored : bucket.lock (manager.storagePath partitionId) = .ok (some lock))
    (fresh : manager.isStale lock reference = .ok false) :
    (manager.cleanupStaleLock partitionId (some reference)).runWith (serve clock) bucket =
      (.ok false, bucket) := by
  have read : (manager.readLock partitionId).runWith (serve clock) bucket =
      (.ok (some lock), bucket) := by
    rw [runWith_readLock, stored]
  rw [cleanupStaleLock_eq, Program.runWith_bind_of_ok _ read]
  simp [cleanupRead_some, orClock, fresh]

/-- The second half of `acquire` writes unless the lock it reads blocks it. -/
theorem runWith_acquireClean (reference : Int) (runId : Option String) :
    (manager.acquireClean partitionId reference runId).runWith (serve clock) bucket =
      match (bucket.lock (manager.storagePath partitionId)).bind
        (manager.isBlockedBy reference) with
      | .error exc => (.error exc, bucket)
      | .ok true => (.ok false, bucket)
      | .ok false =>
          (.ok true, Function.update bucket (manager.storagePath partitionId)
            (some (manager.newLock partitionId reference runId).toJson)) := by
  rw [acquireClean_eq, Program.runWith_bind, runWith_readLock]
  cases bucket.lock (manager.storagePath partitionId) with
  | error exc => rfl
  | ok existing =>
      simp only [Except.bind]
      cases manager.isBlockedBy reference existing with
      | error exc => rfl
      | ok blocked => cases blocked <;> rfl

theorem runWith_acquire (reference : Int) (runId : Option String) :
    (manager.acquire partitionId (some reference) runId).runWith (serve clock) bucket =
      match (manager.cleanupStaleLock partitionId (some reference)).runWith
        (serve clock) bucket with
      | (.ok _, later) =>
          (manager.acquireClean partitionId reference runId).runWith (serve clock) later
      | (.error exc, later) => (.error exc, later) := by
  simp only [acquire_eq, orClock, Program.pure_eq, Program.done_bind]
  rw [Program.runWith_bind]
  generalize (manager.cleanupStaleLock partitionId (some reference)).runWith (serve clock) bucket =
    cleaned
  obtain ⟨removed | removed, later⟩ := cleaned <;> rfl

/-- Without a given time, `acquire` reads the clock once. -/
theorem runWith_acquire_none (runId : Option String) :
    (manager.acquire partitionId none runId).runWith (serve clock) bucket =
      (manager.acquire partitionId (some clock) runId).runWith (serve clock) bucket := rfl

/-- Against a lock which is not stale, `acquire` succeeds exactly for the owner. -/
theorem runWith_acquire_of_fresh {lock : CompactionLock} {reference : Int}
    (stored : bucket.lock (manager.storagePath partitionId) = .ok (some lock))
    (fresh : manager.isStale lock reference = .ok false) (runId : Option String) :
    (manager.acquire partitionId (some reference) runId).runWith (serve clock) bucket =
      if lock.ownerId = manager.ownerId then
        (.ok true, Function.update bucket (manager.storagePath partitionId)
          (some (manager.newLock partitionId reference runId).toJson))
      else
        (.ok false, bucket) := by
  rw [runWith_acquire, runWith_cleanupStaleLock_of_fresh stored fresh]
  simp only [runWith_acquireClean, stored, Except.bind, isBlockedBy_some, fresh, ok_bind,
    pure_eq_ok]
  by_cases own : lock.ownerId = manager.ownerId
  · simp [own]
  · have differs : (lock.ownerId != manager.ownerId) = true := by simpa using own
    simp [own, differs]

/-- A successful `acquire` leaves its own lock under the key. -/
theorem stored_of_acquire {reference : Int} {runId : Option String}
    (granted : ((manager.acquire partitionId (some reference) runId).runWith
      (serve clock) bucket).1 = .ok true) :
    ((manager.acquire partitionId (some reference) runId).runWith (serve clock) bucket).2
        (manager.storagePath partitionId) =
      some (manager.newLock partitionId reference runId).toJson := by
  rw [runWith_acquire] at granted ⊢
  revert granted
  generalize (manager.cleanupStaleLock partitionId (some reference)).runWith (serve clock) bucket =
    cleaned
  obtain ⟨removed | removed, later⟩ := cleaned
  · simp
  · simp only [runWith_acquireClean]
    cases (later.lock (manager.storagePath partitionId)).bind (manager.isBlockedBy reference) with
    | error exc => simp
    | ok isBlocked => cases isBlocked <;> simp

/-- A lock of another owner survives a release. -/
theorem runWith_release_of_foreign {lock : CompactionLock}
    (stored : bucket.lock (manager.storagePath partitionId) = .ok (some lock))
    (foreign : lock.ownerId ≠ manager.ownerId) :
    (manager.release partitionId).runWith (serve clock) bucket = (.ok (), bucket) := by
  have read : (manager.readLock partitionId).runWith (serve clock) bucket =
      (.ok (some lock), bucket) := by
    rw [runWith_readLock, stored]
  rw [release_eq, Program.runWith_bind_of_ok _ read]
  simp [releaseRead_some, foreign]

end LockManager

end Lakehouse
