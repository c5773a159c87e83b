import Lakehouse.Compactor.AcquireSpec
import Lakehouse.Compactor.LockBackend

/-!
# Locks on datetimes

The operations with the arithmetic of Python.  An operation whose sums are in range, about a record
of at most 285 years before or after its time, makes the same calls with the same outcome as on the
line of times.
-/

namespace Lakehouse

open Foundation
open Foundation.Calendar (InRange)

/-- An hour can be added to the time in every offset from UTC. -/
structure IsInner (time : Int) : Prop where
  before : InRange (time - hours 25)
  after : InRange (time + hours 25)

/-- The record has been acquired at most 2^53 microseconds from a time; without an expiry, an hour
can be added to its start. -/
def LockBody.IsNear (reference : Int) (body : LockBody) : Prop :=
  ∀ fields acquired, body = .record fields → fields.acquiredAt = some (.ok acquired) →
    |reference - acquired| ≤ 2 ^ 53 ∧ (fields.expiresAt = none → IsInner acquired)

def CompactionLock.IsNear (reference : Int) (lock : CompactionLock) : Prop :=
  ∀ acquired, lock.acquiredAt = .ok acquired → |reference - acquired| ≤ 2 ^ 53

/-! ## The arithmetic of one operation -/

section Arithmetic

variable {manager : LockManager} {partitionId : String} {reference : Int} {runId : Option String}
  {body : LockBody} {lock : CompactionLock}

theorem inRange_of_isInner {time : Int} (inner : IsInner time) :
    InRange time ∧ InRange (time + hours 1) := by
  obtain ⟨⟨before_first, before_last⟩, after_first, after_last⟩ := inner
  unfold hours at *
  exact ⟨⟨by omega, by omega⟩, by omega, by omega⟩

theorem fromJson_of_isNear (near : body.IsNear reference) :
    TimeRules.datetime.fromJson body = TimeRules.exact.fromJson body := by
  cases body with
  | malformed exc => rfl
  | record fields =>
      have expiry : ∀ acquiredAt, fields.acquiredAt = some acquiredAt →
          TimeRules.datetime.expiry acquiredAt fields.expiresAt =
            TimeRules.exact.expiry acquiredAt fields.expiresAt := by
        intro acquiredAt given
        cases missing : fields.expiresAt with
        | some expiresAt => rfl
        | none =>
            cases acquiredAt with
            | error exc => rfl
            | ok acquired =>
                obtain ⟨-, inner⟩ := near fields acquired rfl given
                obtain ⟨range, later⟩ := inRange_of_isInner (inner missing)
                have summed : TimeRules.datetime.plus acquired (hours 1) =
                    .ok (acquired + hours 1) := plusDelta_eq range later
                simp only [TimeRules.expiry, ok_bind, summed]
                rfl
      cases given : fields.acquiredAt with
      | none => simp only [TimeRules.fromJson, given, requiredMember, error_bind]
      | some acquiredAt =>
          simp only [TimeRules.fromJson, given, requiredMember, ok_bind, expiry acquiredAt given]

theorem isNear_of_fromJson (near : body.IsNear reference)
    (parsed : TimeRules.exact.fromJson body = .ok lock) : lock.IsNear reference := by
  cases body with
  | malformed exc => simp [TimeRules.fromJson] at parsed
  | record fields =>
      obtain ⟨acquiredAt, acquired_eq, rest⟩ := exists_of_bind_eq_ok parsed
      obtain ⟨expiresAt, -, rest⟩ := exists_of_bind_eq_ok rest
      obtain ⟨partition, -, rest⟩ := exists_of_bind_eq_ok rest
      obtain ⟨owner, -, returned⟩ := exists_of_bind_eq_ok rest
      obtain rfl := Except.ok.inj returned
      rintro acquired rfl
      cases given : fields.acquiredAt with
      | none => simp [given, requiredMember] at acquired_eq
      | some time =>
          rw [given] at acquired_eq
          obtain rfl : time = .ok acquired := Except.ok.inj acquired_eq
          exact (near fields acquired rfl given).1

theorem isStale_of_isNear (near : lock.IsNear reference) :
    TimeRules.datetime.isStale manager lock reference =
      TimeRules.exact.isStale manager lock reference := by
  obtain ⟨partition, owner, exc | acquired, exc' | expires, run⟩ := lock
  · rfl
  · rfl
  · rfl
  · have same : TimeRules.datetime.exceeds (reference - acquired)
        manager.config.lockTimeoutSeconds =
          TimeRules.exact.exceeds (reference - acquired) manager.config.lockTimeoutSeconds :=
      decide_eq_decide.mpr (lt_totalSeconds_iff (near acquired rfl))
    rw [TimeRules.isStale, TimeRules.isStale, ok_bind, ok_bind, ok_bind, same]
    rfl

theorem newLock_of_inRange (range : InRange reference)
    (ends : InRange (reference + seconds manager.config.lockTimeoutSeconds)) :
    TimeRules.datetime.newLock manager partitionId reference runId =
      .ok (manager.newLock partitionId reference runId) := by
  have summed : TimeRules.datetime.plus reference (seconds manager.config.lockTimeoutSeconds) =
      .ok (reference + seconds manager.config.lockTimeoutSeconds) := plusDelta_eq range ends
  rw [TimeRules.newLock, summed]
  rfl

end Arithmetic

/-! ## The operations -/

namespace LockManager

variable {manager : LockManager} {partitionId : String} {clock : Int} {stored : LockBody → Prop}

/-- Only such records are written, and none but that of the partition is read. -/
def Stores (manager : LockManager) (partitionId : String) (stored : LockBody → Prop) :
    StorageCall → Prop
  | .getObject key => key = manager.storagePath partitionId
  | .putObject _ body => stored body
  | .deleteObject _ => True
  | .now => True

/-- Such records are read, at that time of the clock. -/
def Replies (clock : Int) (stored : LockBody → Prop) :
    (request : StorageCall) → StorageReply request → Prop
  | .getObject _, reply => ∀ body, reply = .ok body → stored body
  | .putObject _ _, _ => True
  | .deleteObject _, _ => True
  | .now, time => time = clock

/-- With such records and that clock, the second program goes on as the first one does. -/
abbrev GoesOn (manager : LockManager) (partitionId : String) (clock : Int)
    (stored : LockBody → Prop) {α : Type} (post : α → Prop) (program program' : LockProgram α) :
    Prop :=
  Program.Agrees (manager.Stores partitionId stored) (Replies clock stored) post program program'

theorem readReply_of_near {reference : Int} {reply : Except StorageError LockBody}
    (near : ∀ body, reply = .ok body → body.IsNear reference) :
    TimeRules.datetime.readReply reply = TimeRules.exact.readReply reply ∧
      ∀ existing, TimeRules.exact.readReply reply = .ok existing →
        ∀ lock ∈ existing, lock.IsNear reference := by
  cases reply with
  | ok body =>
      have body_near := near body rfl
      refine ⟨by rw [TimeRules.readReply, TimeRules.readReply, fromJson_of_isNear body_near], ?_⟩
      rintro existing read lock member
      cases parsed : TimeRules.exact.fromJson body with
      | error exc => simp [TimeRules.readReply, parsed, Except.map] at read
      | ok found =>
          rw [TimeRules.readReply, parsed] at read
          obtain rfl := Except.ok.inj read
          obtain rfl := Option.some.inj member
          exact isNear_of_fromJson body_near parsed
  | error error =>
      refine ⟨by cases error <;> rfl, ?_⟩
      rintro existing read lock member
      cases error with
      | other exc => simp [TimeRules.readReply] at read
      | clientError code exc =>
          simp only [TimeRules.readReply] at read
          split at read
          · obtain rfl := Except.ok.inj read
            simp at member
          · simp at read

theorem goesOn_perform (request : StorageCall)
    (permitted : manager.Stores partitionId stored request) :
    manager.GoesOn partitionId clock stored (Replies clock stored request)
      (Program.perform request) (Program.perform request) :=
  Program.Agrees.perform permitted

theorem goesOn_deleteLock :
    manager.GoesOn partitionId clock stored (fun _ => True)
      (manager.deleteLock partitionId) (manager.deleteLock partitionId) :=
  (goesOn_perform (.deleteObject _) trivial).bind fun _ _ => .ofExcept fun _ _ => trivial

theorem goesOn_writeLock {lock : CompactionLock} (fits : stored lock.toJson) :
    manager.GoesOn partitionId clock stored (fun _ => True)
      (manager.writeLock lock) (manager.writeLock lock) :=
  (goesOn_perform (.putObject _ _) fits).bind fun _ _ => .ofExcept fun _ _ => trivial

/-- Every time which an operation takes is the given one, or that of the clock. -/
theorem goesOn_orClock (now : Option Int) :
    manager.GoesOn partitionId clock stored (fun time => time = now.getD clock)
      (manager.s3.orClock now) ((manager.s3By .datetime).orClock now) := by
  cases now with
  | none => exact goesOn_perform .now trivial
  | some time => exact .done rfl

section Reading

variable {now : Option Int} (near : ∀ body, stored body → body.IsNear (now.getD clock))
include near

theorem goesOn_readLock :
    manager.GoesOn partitionId clock stored
      (fun existing => ∀ lock ∈ existing, lock.IsNear (now.getD clock))
      (manager.s3.readLock partitionId) ((manager.s3By .datetime).readLock partitionId) := by
  refine (goesOn_perform (.getObject (manager.storagePath partitionId)) rfl).bind ?_
  intro reply answered
  obtain ⟨same, read_near⟩ := readReply_of_near fun body returned =>
    near body (answered body returned)
  rw [same]
  exact .ofExcept read_near

theorem goesOn_cleanupStaleLock :
    manager.GoesOn partitionId clock stored (fun _ => True)
      (manager.s3.cleanupStaleLock manager partitionId now)
      ((manager.s3By .datetime).cleanupStaleLock manager partitionId now) := by
  refine (goesOn_readLock near).bind fun existing read_near => ?_
  cases existing with
  | none => exact .done trivial
  | some lock =>
      refine (goesOn_orClock now).bind fun time same_time => ?_
      rw [← same_time] at read_near
      have judged := @isStale_of_isNear manager time lock (read_near lock rfl)
      have rules : (manager.s3By .datetime).rules.isStale manager lock time =
          manager.s3.rules.isStale manager lock time := judged
      rw [rules]
      refine Program.Agrees.bind (.ofExcept fun _ _ => trivial) fun stale _ => ?_
      cases stale with
      | false => exact .done trivial
      | true =>
          refine Program.Agrees.bind (.ofExcept fun _ _ => trivial) fun _ _ => ?_
          exact goesOn_deleteLock.bind fun _ _ => .done trivial

theorem goesOn_acquire {runId : Option String} (range : InRange (now.getD clock))
    (ends : InRange (now.getD clock + seconds manager.config.lockTimeoutSeconds))
    (own : stored (manager.newLock partitionId (now.getD clock) runId).toJson) :
    manager.GoesOn partitionId clock stored (fun _ => True)
      (manager.s3.acquire manager partitionId now runId)
      ((manager.s3By .datetime).acquire manager partitionId now runId) := by
  refine (goesOn_orClock now).bind fun time same_time => ?_
  rw [← same_time] at near range ends own
  have near_time : ∀ body, stored body → body.IsNear ((some time).getD clock) := near
  refine (goesOn_cleanupStaleLock near_time).bind fun _ _ => ?_
  refine (goesOn_readLock near_time).bind fun existing read_near => ?_
  have blocked : (manager.s3By .datetime).rules.isBlockedBy manager time existing =
      manager.s3.rules.isBlockedBy manager time existing := by
    cases existing with
    | none => rfl
    | some lock =>
        have judged := @isStale_of_isNear manager time lock (read_near lock rfl)
        exact congrArg (· >>= fun stale => pure (!stale && lock.ownerId != manager.ownerId)) judged
  rw [blocked]
  refine Program.Agrees.bind (.ofExcept fun _ _ => trivial) fun refused _ => ?_
  cases refused with
  | true => exact .done trivial
  | false =>
      have built : (manager.s3By .datetime).rules.newLock manager partitionId time runId =
          manager.s3.rules.newLock manager partitionId time runId :=
        newLock_of_inRange range ends
      rw [if_neg Bool.false_ne_true, if_neg Bool.false_ne_true, LockBackend.takeLock,
        LockBackend.takeLock, built]
      exact (goesOn_writeLock own).bind fun _ _ => .done trivial

theorem goesOn_release :
    manager.GoesOn partitionId clock stored (fun _ => True)
      (manager.s3.release manager partitionId)
      ((manager.s3By .datetime).release manager partitionId) := by
  refine (goesOn_readLock near).bind fun existing _ => ?_
  cases existing with
  | none => exact .done trivial
  | some lock =>
      simp only [LockBackend.releaseRead]
      split
      · exact goesOn_deleteLock
      · exact .done trivial

theorem goesOn_isHeldBySelf :
    manager.GoesOn partitionId clock stored (fun _ => True)
      (manager.s3.isHeldBySelf manager partitionId)
      ((manager.s3By .datetime).isHeldBySelf manager partitionId) := by
  refine (goesOn_readLock near).bind fun existing _ => ?_
  cases existing <;> exact .done trivial

end Reading

/-! ## The whole `acquire` -/

/-- A bucket in which a record has been set or removed keeps such a record under the key. -/
theorem stored_of_update {bucket : Bucket} {key written : String} {value : Option LockBody}
    (fits : ∀ body, value = some body → stored body)
    (kept : ∀ body, bucket key = some body → stored body) {body : LockBody}
    (found : Function.update bucket written value key = some body) : stored body := by
  by_cases same : key = written
  · subst same
    exact fits body (by rwa [Function.update_self] at found)
  · exact kept body (by rwa [Function.update_of_ne same] at found)

/-- So does a store whose deletes can fail. -/
theorem serveFailing_replies (failures : DeleteFaults) (request : StorageCall)
    (store : FailingStore) (asked : manager.Stores partitionId stored request)
    (kept : ∀ body, store.bucket (manager.storagePath partitionId) = some body → stored body) :
    Replies clock stored request (serveFailing clock failures.faults request store).1 ∧
      ∀ body, (serveFailing clock failures.faults request store).2.bucket
        (manager.storagePath partitionId) = some body → stored body := by
  have replaced : ∀ key value fault, (∀ body, value = some body → stored body) →
      ∀ body, (store.tryReplace clock key value fault).2.bucket
        (manager.storagePath partitionId) = some body → stored body := by
    intro key value fault fits body found
    rcases FailingStore.tryReplace_cases fault with took | failed
    · rw [took, FailingStore.replace_bucket] at found
      exact stored_of_update fits kept found
    · rw [failed] at found
      exact kept body found
  cases request with
  | getObject key =>
      obtain rfl : key = manager.storagePath partitionId := asked
      simp only [serveFailing, failures.reads_succeed]
      exact ⟨fun body returned => kept body (Bucket.stored_of_getReply returned), kept⟩
  | putObject key body =>
      refine ⟨trivial, replaced key (some body) _ ?_⟩
      rintro other ⟨⟩
      exact asked
  | deleteObject key => exact ⟨trivial, replaced key none _ (by simp)⟩
  | now => exact ⟨rfl, kept⟩

/-- `acquire` on datetimes: if its time and the end of its lease are in range, and the record of the
partition is near, it is refused exactly by a record of another owner which has not ended, and
then changes nothing; else it leaves its own record. -/
theorem acquire_exact (manager : LockManager) (partitionId : String) (runId : Option String)
    (now : Option Int) (clock : Int) (failures : DeleteFaults) (bucket : Bucket)
    (range : InRange (now.getD clock))
    (ends : InRange (now.getD clock + seconds manager.config.lockTimeoutSeconds))
    (readable : ∀ body, bucket (manager.storagePath partitionId) = some body →
      ∃ owner acquired expires, body.HeldBy owner acquired expires)
    (near : ∀ body, bucket (manager.storagePath partitionId) = some body →
      body.IsNear (now.getD clock)) :
    ∃ granted later, ((manager.s3By .datetime).acquire manager partitionId now runId).runWith
        (serveFailing clock failures.faults) { bucket } = (.ok granted, later) ∧
      manager.AcquireOutcome partitionId (now.getD clock) runId bucket granted later.bucket := by
  obtain ⟨granted, later, run, outcome⟩ :=
    @acquireOutcome_of_readable manager partitionId clock runId failures now bucket readable
  have own : LockBody.IsNear (now.getD clock)
      (manager.newLock partitionId (now.getD clock) runId).toJson := by
    rintro fields acquired record started
    obtain rfl := LockBody.record.inj record
    obtain rfl := Except.ok.inj (Option.some.inj started)
    refine ⟨?_, by simp⟩
    rw [sub_self, abs_zero]
    positivity
  have goes_on := @goesOn_acquire manager partitionId clock _ now (fun _ near => near) runId range
    ends own
  have start : (fun store : FailingStore => ∀ body,
      store.bucket (manager.storagePath partitionId) = some body →
        body.IsNear (now.getD clock)) { bucket } := near
  have same := (goes_on.runWith_eq _ (serveFailing_replies failures) start).1
  exact ⟨granted, later, same.trans run, outcome⟩

/-- Nothing is stored, and a lease of 30000 years is asked for. -/
theorem acquire_longTimeout :
    (((s3By ⟨{ lockTimeoutSeconds := 1000000000000 }, "worker-2", "unknown"⟩ .datetime).acquire
        ⟨{ lockTimeoutSeconds := 1000000000000 }, "worker-2", "unknown"⟩
        "event_date=2024-06-11/event_hour=9" (some 0) none).runWith (serveFailing 0 noFaults)
          { bucket := fun _ => none }).1 = .error dateOverflow := by
  decide +kernel

/-- The record of a crashed worker, without `expires_at`. -/
private def crashedRecord : LockBody :=
  .record ⟨some "event_date=2024-06-11/event_hour=9", some "worker-1", some (.ok 0), none, none⟩

private theorem heldBy_crashedRecord : crashedRecord.HeldBy "worker-1" 0 (hours 1) :=
  ⟨_, _, rfl, rfl, rfl, rfl, .inr ⟨rfl, rfl⟩⟩

private theorem isNear_crashedRecord : crashedRecord.IsNear (hours 1) := by
  rintro fields acquired record started
  obtain rfl := LockBody.record.inj record
  obtain rfl := Except.ok.inj (Option.some.inj started)
  exact ⟨by decide, fun _ => ⟨by decide, by decide⟩⟩

/-- No delete succeeds. -/
private def refusedDeletes : DeleteFaults where
  faults _ request :=
    match request with
    | .deleteObject _ => some ⟨.clientError "503" ⟨.other "ClientError", "SlowDown"⟩, false⟩
    | _ => none
  reads_succeed _ _ := rfl
  writes_succeed _ _ _ := rfl
  deletes_refused _ _ fault refused := by
    obtain rfl := Option.some.inj refused
    exact ⟨_, _, rfl⟩

theorem acquire_exact_sample :
    ∃ later, ((s3By ⟨{}, "worker-2", "unknown"⟩ .datetime).acquire ⟨{}, "worker-2", "unknown"⟩
        "event_date=2024-06-11/event_hour=9" (some (hours 1)) none).runWith
          (serveFailing 0 refusedDeletes.faults) { bucket := fun _ => some crashedRecord } =
            (.ok true, later) ∧
      later.bucket "locks/compaction/event_date=2024-06-11/event_hour=9.lock" =
        some (newRecord ⟨{}, "worker-2", "unknown"⟩ "event_date=2024-06-11/event_hour=9" (hours 1)
          none) := by
  have stored : ∀ body, (fun _ => some crashedRecord : Bucket)
      (storagePath ⟨{}, "worker-2", "unknown"⟩ "event_date=2024-06-11/event_hour=9") = some body →
        body = crashedRecord := by
    rintro body ⟨⟩
    rfl
  obtain ⟨granted, later, run, outcome⟩ :=
    acquire_exact ⟨{}, "worker-2", "unknown"⟩ "event_date=2024-06-11/event_hour=9" none
      (some (hours 1)) 0 refusedDeletes (fun _ => some crashedRecord) (by decide) (by decide)
      (fun body found => ⟨_, _, _, stored body found ▸ heldBy_crashedRecord⟩)
      (fun body found => stored body found ▸ isNear_crashedRecord)
  obtain rfl := outcome.ended _ _ _ _ rfl heldBy_crashedRecord (by decide)
  have key : storagePath ⟨{}, "worker-2", "unknown"⟩ "event_date=2024-06-11/event_hour=9" =
      "locks/compaction/event_date=2024-06-11/event_hour=9.lock" := by
    decide +kernel
  have written := outcome.written rfl
  rw [key] at written
  exact ⟨later, run, written⟩

end LockManager

end Lakehouse
