import Lakehouse.Compactor.LockCustody

/-!
# What `acquire` does

A whole `acquire` against any readable store, in which a delete can be refused, on the line of
times.  It returns `False` exactly when the record of the partition belongs to another owner, has
not reached its expiry and is not older than the timeout; else the record of the partition is the
one it writes.
-/

namespace Lakehouse

open Foundation

/-- The stored record says who holds the partition, since when and until when.  Without
`expires_at` the lock ends an hour after its start. -/
def LockBody.HeldBy (body : LockBody) (owner : String) (acquired expires : Int) : Prop :=
  ∃ fields partitionId, body = .record fields ∧ fields.partitionId = some partitionId ∧
    fields.ownerId = some owner ∧ fields.acquiredAt = some (.ok acquired) ∧
    (fields.expiresAt = some (.ok expires) ∨
      fields.expiresAt = none ∧ expires = acquired + hours 1)

/-- Failures of deletes only, each with a `ClientError`. -/
structure DeleteFaults where
  faults : StorageFaults
  reads_succeed : ∀ calls key, faults calls (.getObject key) = none
  writes_succeed : ∀ calls key body, faults calls (.putObject key body) = none
  deletes_refused : ∀ calls key fault, faults calls (.deleteObject key) = some fault →
    ∃ code exc, fault.error = .clientError code exc

/-- The record of `acquire`; an empty run id counts as none. -/
def LockManager.newRecord (manager : LockManager) (partitionId : String) (reference : Int)
    (runId : Option String) : LockBody :=
  .record
    { partitionId := some partitionId
      ownerId := some manager.ownerId
      acquiredAt := some (.ok reference)
      expiresAt := some (.ok (reference + seconds manager.config.lockTimeoutSeconds))
      runId := some ((runId.filter (· != "")).getD manager.runId) }

/-- Another owner holds the partition, and its lease has not ended in either sense. -/
def LockManager.BlockedAt (manager : LockManager) (partitionId : String) (reference : Int)
    (bucket : Bucket) : Prop :=
  ∃ body owner acquired expires, bucket (manager.storagePath partitionId) = some body ∧
    body.HeldBy owner acquired expires ∧ owner ≠ manager.ownerId ∧ reference < expires ∧
    reference - acquired ≤ seconds manager.config.lockTimeoutSeconds

/-! ## Records and locks -/

theorem LockBody.HeldBy.fromJson {body : LockBody} {owner : String} {acquired expires : Int}
    (held : body.HeldBy owner acquired expires) :
    ∃ lock, CompactionLock.fromJson body = .ok lock ∧ lock.ownerId = owner ∧
      lock.acquiredAt = .ok acquired ∧ lock.expiresAt = .ok expires := by
  obtain ⟨⟨_, _, _, expiresAt, runId⟩, partitionId, rfl, rfl, rfl, rfl, ends⟩ := held
  rcases ends with given | ⟨missing, rfl⟩
  · obtain rfl : expiresAt = _ := given
    exact ⟨_, rfl, rfl, rfl, rfl⟩
  · obtain rfl : expiresAt = _ := missing
    exact ⟨_, rfl, rfl, rfl, rfl⟩

namespace LockManager

variable {manager : LockManager} {partitionId : String} {reference clock : Int}

theorem toJson_newLock (runId : Option String) :
    (manager.newLock partitionId reference runId).toJson =
      manager.newRecord partitionId reference runId := rfl

theorem isStale_of_times {lock : CompactionLock} {acquired expires : Int}
    (start : lock.acquiredAt = .ok acquired) (ends : lock.expiresAt = .ok expires) :
    manager.isStale lock reference = .ok (decide (reference ≥ expires ∨
      reference - acquired > seconds manager.config.lockTimeoutSeconds)) := by
  by_cases expired : reference ≥ expires
  · simp [isStale_eq, ends, expired]
  · simp [isStale_eq, start, ends, expired]

/-! ## The parts of `acquire` -/

section Parts

variable (failures : DeleteFaults) (store : FailingStore)

theorem runWith_readLock_of_deleteFaults :
    (manager.readLock partitionId).runWith (serveFailing clock failures.faults) store =
      (store.bucket.lock (manager.storagePath partitionId), store.pass) := by
  simp [readLock_eq, serveFailing, failures.reads_succeed]

/-- A delete raises nothing, and either takes effect or does not. -/
theorem runWith_deleteLock_of_deleteFaults :
    ∃ later, (manager.deleteLock partitionId).runWith (serveFailing clock failures.faults) store =
        (.ok (), later) ∧
      (later = store.replace clock (manager.storagePath partitionId) none ∨
        later = store.pass) := by
  refine ⟨(store.tryReplace clock (manager.storagePath partitionId) none
    (failures.faults store.calls (.deleteObject (manager.storagePath partitionId)))).2, ?_,
    FailingStore.tryReplace_cases _⟩
  simp only [deleteLock, Program.perform_bind, Program.runWith_call, serveFailing,
    Program.runWith_ofExcept]
  cases refused : failures.faults store.calls
      (.deleteObject (manager.storagePath partitionId)) with
  | none => rfl
  | some fault =>
      obtain ⟨code, exc, error⟩ := failures.deletes_refused _ _ _ refused
      simp [FailingStore.tryReplace, deleteReply, error]

theorem runWith_takeLock_of_deleteFaults (runId : Option String) :
    (manager.takeLock partitionId reference runId).runWith
        (serveFailing clock failures.faults) store =
      (.ok true, store.replace clock (manager.storagePath partitionId)
        (some (manager.newRecord partitionId reference runId))) := by
  rw [← toJson_newLock]
  simp [takeLock_eq, writeLock, serveFailing, failures.writes_succeed, FailingStore.tryReplace,
    writeReply, newLock, lockUntil]

/-- After its cleanup, `acquire` decides about the record which it finds. -/
theorem runWith_acquireClean_of_deleteFaults {blocked : Bool} (runId : Option String)
    (judged : (store.bucket.lock (manager.storagePath partitionId)).bind
      (manager.isBlockedBy reference) = .ok blocked) :
    (manager.acquireClean partitionId reference runId).runWith
        (serveFailing clock failures.faults) store =
      if blocked then (.ok false, store.pass)
      else (.ok true, store.pass.replace clock (manager.storagePath partitionId)
        (some (manager.newRecord partitionId reference runId))) := by
  rw [acquireClean_eq, Program.runWith_bind, runWith_readLock_of_deleteFaults]
  cases found : store.bucket.lock (manager.storagePath partitionId) with
  | error exc => simp [found, Except.bind] at judged
  | ok existing =>
      have known : manager.isBlockedBy reference existing = .ok blocked := by
        simpa [found, Except.bind] using judged
      simp only [known, Program.ofExcept_ok, Program.done_bind]
      cases blocked with
      | true => rfl
      | false => exact runWith_takeLock_of_deleteFaults failures store.pass runId

/-- A cleanup without a stale record changes nothing. -/
theorem runWith_cleanup_of_kept {existing : Option CompactionLock}
    (found : store.bucket.lock (manager.storagePath partitionId) = .ok existing)
    (kept : ∀ lock, existing = some lock → manager.isStale lock reference = .ok false) :
    (manager.cleanupStaleLock partitionId (some reference)).runWith
        (serveFailing clock failures.faults) store = (.ok false, store.pass) := by
  rw [cleanupStaleLock_eq, Program.runWith_bind, runWith_readLock_of_deleteFaults, found]
  cases existing with
  | none => rfl
  | some lock => simp [cleanupRead_some, orClock, kept lock rfl]

/-- A cleanup of a stale record removes it or leaves it. -/
theorem runWith_cleanup_of_stale {lock : CompactionLock} {acquired : Int}
    (found : store.bucket.lock (manager.storagePath partitionId) = .ok (some lock))
    (start : lock.acquiredAt = .ok acquired) (stale : manager.isStale lock reference = .ok true) :
    ∃ later, (manager.cleanupStaleLock partitionId (some reference)).runWith
        (serveFailing clock failures.faults) store = (.ok true, later) ∧
      (later = store.pass.replace clock (manager.storagePath partitionId) none ∨
        later = store.pass.pass) := by
  obtain ⟨later, deleted, outcome⟩ :=
    @runWith_deleteLock_of_deleteFaults manager partitionId clock failures store.pass
  refine ⟨later, ?_, outcome⟩
  rw [cleanupStaleLock_eq, Program.runWith_bind, runWith_readLock_of_deleteFaults, found]
  simp only [cleanupRead_some, orClock, removeStale_eq, stale, start, Program.pure_eq,
    Program.done_bind, Program.ofExcept_ok, if_true]
  rw [Program.runWith_bind_of_ok _ deleted]
  rfl

end Parts

/-! ## The whole operation -/

theorem isBlockedBy_of_isStale {lock : CompactionLock} {stale : Bool}
    (judged : manager.isStale lock reference = .ok stale) :
    manager.isBlockedBy reference (some lock) =
      .ok (!stale && lock.ownerId != manager.ownerId) := by
  simp [isBlockedBy_some, judged]

/-- The bucket after an `acquire` which is granted or refused. -/
def bucketAfter (manager : LockManager) (partitionId : String) (reference : Int)
    (runId : Option String) (granted : Bool) (bucket : Bucket) : Bucket :=
  if granted then
    Function.update bucket (manager.storagePath partitionId)
      (some (manager.newRecord partitionId reference runId))
  else bucket

variable {runId : Option String}

/-- Where nothing is stale, `acquire` decides about the record which its first read finds. -/
theorem runWith_acquireAfterClock_of_kept (failures : DeleteFaults) {store : FailingStore}
    {existing : Option CompactionLock} {blocked : Bool}
    (found : store.bucket.lock (manager.storagePath partitionId) = .ok existing)
    (kept : ∀ lock, existing = some lock → manager.isStale lock reference = .ok false)
    (judged : manager.isBlockedBy reference existing = .ok blocked) :
    ∃ later, (manager.acquireAfterClock partitionId runId reference).runWith
        (serveFailing clock failures.faults) store = (.ok !blocked, later) ∧
      later.bucket = manager.bucketAfter partitionId reference runId (!blocked) store.bucket := by
  have clean : (store.pass.bucket.lock (manager.storagePath partitionId)).bind
      (manager.isBlockedBy reference) = .ok blocked := by
    simpa [FailingStore.pass, found, Except.bind] using judged
  rw [acquireAfterClock,
    Program.runWith_bind_of_ok _ (runWith_cleanup_of_kept failures store found kept),
    runWith_acquireClean_of_deleteFaults failures _ runId clean]
  cases blocked with
  | true => exact ⟨store.pass.pass, rfl, rfl⟩
  | false => exact ⟨_, rfl, rfl⟩

/-- A stale record is replaced, whether or not it can be removed first. -/
theorem runWith_acquireAfterClock_of_stale (failures : DeleteFaults) {store : FailingStore}
    {lock : CompactionLock} {acquired : Int}
    (found : store.bucket.lock (manager.storagePath partitionId) = .ok (some lock))
    (start : lock.acquiredAt = .ok acquired) (stale : manager.isStale lock reference = .ok true) :
    ∃ later, (manager.acquireAfterClock partitionId runId reference).runWith
        (serveFailing clock failures.faults) store = (.ok true, later) ∧
      later.bucket = manager.bucketAfter partitionId reference runId true store.bucket := by
  obtain ⟨cleaned, removal, outcome⟩ :=
    @runWith_cleanup_of_stale manager partitionId reference clock failures store lock acquired found
      start stale
  have clean : (cleaned.bucket.lock (manager.storagePath partitionId)).bind
      (manager.isBlockedBy reference) = .ok false := by
    rcases outcome with rfl | rfl
    · rw [FailingStore.lock_replace_none]
      rfl
    · have still : store.pass.pass.bucket.lock (manager.storagePath partitionId) =
          .ok (some lock) := found
      rw [still]
      exact isBlockedBy_of_isStale stale
  rw [acquireAfterClock, Program.runWith_bind_of_ok _ removal,
    runWith_acquireClean_of_deleteFaults failures _ runId clean]
  refine ⟨_, rfl, ?_⟩
  rcases outcome with rfl | rfl
  · exact Function.update_idem _ _ _
  · rfl

/-- The stored record decides whether another owner blocks the partition. -/
theorem blockedAt_iff {bucket : Bucket} {body : LockBody} {owner : String}
    {acquired expires : Int} (stored : bucket (manager.storagePath partitionId) = some body)
    (held : body.HeldBy owner acquired expires) :
    manager.BlockedAt partitionId reference bucket ↔
      owner ≠ manager.ownerId ∧ ¬(reference ≥ expires ∨
        reference - acquired > seconds manager.config.lockTimeoutSeconds) := by
  obtain ⟨lock, parsed, rfl, start, ends⟩ := held.fromJson
  constructor
  · rintro ⟨other, owner, acquired', expires', found, other_held, foreign, live, young⟩
    obtain rfl : body = other := Option.some.inj (stored.symm.trans found)
    obtain ⟨lock', parsed', rfl, start', ends'⟩ := other_held.fromJson
    obtain rfl : lock = lock' := Except.ok.inj (parsed.symm.trans parsed')
    obtain rfl : acquired = acquired' := Except.ok.inj (start.symm.trans start')
    obtain rfl : expires = expires' := Except.ok.inj (ends.symm.trans ends')
    exact ⟨foreign, by omega⟩
  · rintro ⟨foreign, fresh⟩
    exact ⟨body, lock.ownerId, acquired, expires, stored, held, foreign, by omega, by omega⟩

/-- Without a record nobody is blocked. -/
theorem not_blockedAt_of_absent {bucket : Bucket}
    (absent : bucket (manager.storagePath partitionId) = none) :
    ¬manager.BlockedAt partitionId reference bucket := by
  rintro ⟨body, _, _, _, stored, -⟩
  simp [absent] at stored

/-- Of a readable record, `acquire` returns whether it blocks, and leaves the bucket accordingly. -/
theorem runWith_acquire_of_readable (failures : DeleteFaults) (now : Option Int) (bucket : Bucket)
    (readable : ∀ body, bucket (manager.storagePath partitionId) = some body →
      ∃ owner acquired expires, body.HeldBy owner acquired expires) :
    ∃ granted later, (manager.acquire partitionId now runId).runWith
        (serveFailing clock failures.faults) { bucket } = (.ok granted, later) ∧
      (granted = false ↔ manager.BlockedAt partitionId (now.getD clock) bucket) ∧
      later.bucket = manager.bucketAfter partitionId (now.getD clock) runId granted bucket := by
  have after_clock : (manager.acquire partitionId now runId).runWith
      (serveFailing clock failures.faults) { bucket } =
        (manager.acquireAfterClock partitionId runId (now.getD clock)).runWith
          (serveFailing clock failures.faults) { bucket } := by
    cases now <;> rfl
  rw [after_clock]
  generalize now.getD clock = reference
  cases stored : bucket (manager.storagePath partitionId) with
  | none =>
      have found := Bucket.lock_of_absent stored
      obtain ⟨later, run, outcome⟩ := @runWith_acquireAfterClock_of_kept manager partitionId
        reference clock runId failures { bucket } none false found (by simp) rfl
      exact ⟨true, later, run, by simpa using not_blockedAt_of_absent stored, outcome⟩
  | some body =>
      obtain ⟨owner, acquired, expires, held⟩ := readable body stored
      obtain ⟨lock, parsed, owned, start, ends⟩ := held.fromJson
      have found : bucket.lock (manager.storagePath partitionId) = .ok (some lock) := by
        simp only [Bucket.lock, stored, parsed]
        rfl
      have judged := @isStale_of_times manager reference lock acquired expires start ends
      rw [blockedAt_iff stored held]
      by_cases stale : reference ≥ expires ∨
          reference - acquired > seconds manager.config.lockTimeoutSeconds
      · rw [decide_eq_true stale] at judged
        obtain ⟨later, run, outcome⟩ := @runWith_acquireAfterClock_of_stale manager partitionId
          reference clock runId failures { bucket } lock acquired found start judged
        exact ⟨true, later, run, by simp [stale], outcome⟩
      · rw [decide_eq_false stale] at judged
        obtain ⟨later, run, outcome⟩ := @runWith_acquireAfterClock_of_kept manager partitionId
          reference clock runId failures { bucket } (some lock) _ found (by simpa using judged)
          (isBlockedBy_of_isStale judged)
        refine ⟨_, later, run, ?_, outcome⟩
        rw [owned]
        simp [stale]

/-- What an `acquire` returns and leaves: it is refused exactly by a record of another owner which
has not ended. -/
structure AcquireOutcome (manager : LockManager) (partitionId : String) (reference : Int)
    (runId : Option String) (before : Bucket) (granted : Bool) (after : Bucket) : Prop where
  refused_iff : granted = false ↔ manager.BlockedAt partitionId reference before
  unchanged : granted = false → after = before
  written : granted = true →
    after (manager.storagePath partitionId) = some (manager.newRecord partitionId reference runId)
  elsewhere : ∀ key, key ≠ manager.storagePath partitionId → after key = before key
  partitions : ∀ other, other ≠ partitionId →
    after (manager.storagePath other) = before (manager.storagePath other)
  /-- A record which has reached its expiry refuses nobody. -/
  ended : ∀ body owner acquired expires, before (manager.storagePath partitionId) = some body →
    body.HeldBy owner acquired expires → expires ≤ reference → granted = true

theorem acquireOutcome_of_readable (failures : DeleteFaults) (now : Option Int) (bucket : Bucket)
    (readable : ∀ body, bucket (manager.storagePath partitionId) = some body →
      ∃ owner acquired expires, body.HeldBy owner acquired expires) :
    ∃ granted later, (manager.acquire partitionId now runId).runWith
        (serveFailing clock failures.faults) { bucket } = (.ok granted, later) ∧
      manager.AcquireOutcome partitionId (now.getD clock) runId bucket granted later.bucket := by
  obtain ⟨granted, later, run, refused, outcome⟩ :=
    @runWith_acquire_of_readable manager partitionId clock runId failures now bucket readable
  have elsewhere : ∀ key, key ≠ manager.storagePath partitionId →
      later.bucket key = bucket key := by
    intro key other
    rw [outcome, bucketAfter]
    split
    · exact Function.update_of_ne other _ _
    · rfl
  refine ⟨granted, later, run, refused, ?_, ?_, elsewhere, ?_, ?_⟩
  · rintro rfl
    rw [outcome]
    rfl
  · rintro rfl
    rw [outcome]
    exact Function.update_self _ _ _
  · intro other ne
    exact elsewhere _ fun same => ne (lockFilePath_inj.mp same)
  · intro body owner acquired expires stored held ended
    rw [← Bool.not_eq_false, refused, blockedAt_iff stored held]
    exact fun blocked => blocked.2 (.inl ended)

end LockManager

end Lakehouse
