import Lakehouse.Compactor.DatetimeLocks
import Lakehouse.Compactor.LeaseRecords

/-!
# Leases on datetimes

From 1970 to 2255, and while the leases which are asked for end in range, whole operations on
datetimes run as on the line of times.  So both back ends are lease tables: no lease ends before its
time under the operations of others, and none outlasts it.
-/

namespace Lakehouse

open Foundation
open Foundation.Calendar (InRange)
open Foundation.Posix (Place FileSystem)

/-! ## Current times -/

/-- Any two of these times are at most 2^53 microseconds apart. -/
def IsCurrent (time : Int) : Prop := 0 ≤ time ∧ time ≤ 2 ^ 53

instance (time : Int) : Decidable (IsCurrent time) :=
  inferInstanceAs (Decidable (_ ∧ _))

/-- A stored lock has been acquired at such a time. -/
def LockBody.IsCurrent (body : LockBody) : Prop :=
  ∀ fields acquired, body = .record fields → fields.acquiredAt = some (.ok acquired) →
    Lakehouse.IsCurrent acquired

/-- So have the locks of all partitions. -/
def CurrentRecords (basePath : String) (bucket : Bucket) : Prop :=
  ∀ partitionId body, bucket (lockFilePath basePath partitionId) = some body → body.IsCurrent

/-- The operation takes place at such a time, and the lease it asks for ends in range. -/
structure LockCall.IsCurrent (call : LockCall) : Prop where
  acquires : ∀ now runId, call.operation = .acquire now runId →
    Lakehouse.IsCurrent (now.getD call.clock) ∧
      InRange (now.getD call.clock + seconds call.manager.config.lockTimeoutSeconds)
  cleans : ∀ now, call.operation = .cleanupStaleLock now →
    Lakehouse.IsCurrent (now.getD call.clock)

theorem inRange_of_isCurrent {time : Int} (current : IsCurrent time) :
    InRange time ∧ IsInner time := by
  obtain ⟨first, last⟩ := current
  have ends : (Foundation.Calendar.Date.maxOrdinal : Int) * Foundation.Calendar.dayLength =
      315537897600000000 := rfl
  have begins : Foundation.Calendar.firstInstant = -62135596800000000 := rfl
  have inside : ∀ shift : Int, |shift| ≤ hours 25 → InRange (time + shift) := by
    intro shift small
    obtain ⟨low, high⟩ := abs_le.mp small
    unfold hours at low high
    unfold InRange
    rw [ends, begins]
    exact ⟨by omega, by omega⟩
  have unshifted := inside 0 (by decide)
  rw [Int.add_zero] at unshifted
  exact ⟨unshifted, inside (-hours 25) (by decide), inside (hours 25) (by decide)⟩

theorem isNear_of_isCurrent {body : LockBody} (stored : body.IsCurrent) {reference : Int}
    (current : IsCurrent reference) : body.IsNear reference := by
  intro fields acquired record started
  obtain ⟨first, last⟩ := stored fields acquired record started
  obtain ⟨reference_first, reference_last⟩ := current
  refine ⟨abs_le.mpr ⟨by omega, by omega⟩, fun _ => (inRange_of_isCurrent ⟨first, last⟩).2⟩

theorem isCurrent_newLock {manager : LockManager} {partitionId : String} {reference : Int}
    {runId : Option String} (current : IsCurrent reference) :
    (manager.newLock partitionId reference runId).toJson.IsCurrent := by
  rintro fields acquired record started
  obtain rfl := LockBody.record.inj record
  obtain rfl := Except.ok.inj (Option.some.inj started)
  exact current

/-! ## Runs -/

section Runs

variable {call : LockCall} {basePath : String} {bucket : Bucket}

theorem goesOn_call (current : call.IsCurrent) :
    call.manager.GoesOn call.partitionId call.clock LockBody.IsCurrent (fun _ => True)
      (call.manager.s3.perform call.manager call.partitionId call.operation)
      ((call.manager.s3By .datetime).perform call.manager call.partitionId call.operation) := by
  obtain ⟨acquires, cleans⟩ := current
  have epoch : IsCurrent ((some 0).getD call.clock) := ⟨le_rfl, by positivity⟩
  have idle := fun body stored => @isNear_of_isCurrent body stored _ epoch
  cases operation : call.operation with
  | acquire now runId =>
      obtain ⟨time, ends⟩ := acquires now runId operation
      have near := fun body stored => @isNear_of_isCurrent body stored _ time
      exact (LockManager.goesOn_acquire near (inRange_of_isCurrent time).1 ends
        (isCurrent_newLock time)).bind fun _ _ => .done trivial
  | release => exact (LockManager.goesOn_release idle).bind fun _ _ => .done trivial
  | cleanupStaleLock now =>
      have near := fun body stored => @isNear_of_isCurrent body stored _ (cleans now operation)
      exact (LockManager.goesOn_cleanupStaleLock near).bind fun _ _ => .done trivial
  | isHeldBySelf => exact (LockManager.goesOn_isHeldBySelf idle).bind fun _ _ => .done trivial

/-- The bucket keeps such a record under the key. -/
theorem serve_replies {manager : LockManager} {partitionId : String} {clock : Int}
    {stored : LockBody → Prop} (request : StorageCall) (bucket : Bucket)
    (asked : manager.Stores partitionId stored request)
    (kept : ∀ body, bucket (manager.storagePath partitionId) = some body → stored body) :
    LockManager.Replies clock stored request (serve clock request bucket).1 ∧
      ∀ body, (serve clock request bucket).2 (manager.storagePath partitionId) = some body →
        stored body := by
  cases request with
  | getObject key =>
      obtain rfl : key = manager.storagePath partitionId := asked
      exact ⟨fun body returned => kept body (Bucket.stored_of_getReply returned), kept⟩
  | putObject key body =>
      refine ⟨trivial, ?_⟩
      simp only [serve]
      refine fun other found => LockManager.stored_of_update ?_ kept found
      rintro written ⟨⟩
      exact asked
  | deleteObject key =>
      refine ⟨trivial, ?_⟩
      simp only [serve]
      exact fun other found => LockManager.stored_of_update (by simp) kept found
  | now => exact ⟨rfl, kept⟩

/-- A current call runs as on the line of times, and leaves current records. -/
theorem runWith_perform_datetime (current : call.IsCurrent)
    (stored : CurrentRecords call.manager.config.lockBasePath bucket) :
    ((call.manager.s3By .datetime).perform call.manager call.partitionId call.operation).runWith
        (serve call.clock) bucket =
      ((call.manager.s3By .exact).perform call.manager call.partitionId call.operation).runWith
        (serve call.clock) bucket ∧
      CurrentRecords call.manager.config.lockBasePath
        (((call.manager.s3By .exact).perform call.manager call.partitionId
          call.operation).runWith (serve call.clock) bucket).2 := by
  have start : (fun bucket : Bucket => ∀ body,
      bucket (call.manager.storagePath call.partitionId) = some body → body.IsCurrent) bucket :=
    stored call.partitionId
  obtain ⟨same, kept⟩ := (goesOn_call current).runWith_eq _ serve_replies start
  refine ⟨same, fun partitionId body found => ?_⟩
  by_cases about : partitionId = call.partitionId
  · subst about
    exact kept body found
  · have elsewhere : call.manager.storagePath partitionId ≠
        call.manager.storagePath call.partitionId :=
      fun key => about (lockFilePath_inj.mp key)
    have unchanged := @LockManager.runWith_other_key _ _ call.clock bucket _ _
      (LockManager.everyCall_perform call.operation) _ elsewhere
    exact stored partitionId body (unchanged ▸ found)

/-- Current calls in turn run as on the line of times. -/
theorem runS3_datetime {calls : List LockCall} (current : ∀ call ∈ calls, call.IsCurrent)
    (below : ∀ call ∈ calls, call.manager.config.lockBasePath = basePath)
    (stored : CurrentRecords basePath bucket) :
    runS3By .datetime calls bucket = runS3 calls bucket ∧
      CurrentRecords basePath (runS3 calls bucket).2 := by
  induction calls generalizing bucket with
  | nil => exact ⟨rfl, stored⟩
  | cons call calls ih =>
      obtain rfl := below call List.mem_cons_self
      obtain ⟨same, kept⟩ := runWith_perform_datetime (current call List.mem_cons_self) stored
      obtain ⟨rest, last⟩ :=
        ih (fun other member => current other (List.mem_cons_of_mem call member))
          (fun other member => below other (List.mem_cons_of_mem call member)) kept
      rw [runS3By_cons, runS3, runS3By_cons, same]
      rw [runS3] at rest last
      rw [rest]
      exact ⟨rfl, last⟩

/-- **Both back ends are lease tables.** -/
theorem locks_refine_leases {calls : List LockCall} {table : LeaseTable String String}
    (records : StoresTable basePath bucket table)
    (below : ∀ call ∈ calls, call.manager.config.lockBasePath = basePath)
    (current : ∀ call ∈ calls, call.IsCurrent) (stored : CurrentRecords basePath bucket) :
    (runS3By .datetime calls bucket).1 =
      (LeaseTable.run (calls.map LockCall.leaseCall) table).1.map .ok ∧
    StoresTable basePath (runS3By .datetime calls bucket).2
      (LeaseTable.run (calls.map LockCall.leaseCall) table).2 ∧
    ∀ (workingDirectory : Place) (files : FileSystem LockBody),
      AvoidsLocks basePath workingDirectory → '\x00' ∉ basePath.toList →
      (∀ call ∈ calls, IsDirectoryDate call.eventDate) →
      Corresponds basePath workingDirectory bucket files →
        (runLocalBy .datetime workingDirectory calls files).1 =
          (LeaseTable.run (calls.map LockCall.leaseCall) table).1.map .ok := by
  obtain ⟨answers, kept⟩ := records.runS3 below
  rw [← (runS3_datetime current below stored).1] at answers kept
  refine ⟨answers, kept, fun workingDirectory files avoids nul_free plain corresponds => ?_⟩
  rw [← answers]
  exact (runLocal_of_corresponds .datetime avoids nul_free
    (fun call member => ⟨below call member, plain call member⟩) corresponds).1

theorem isCurrent_sampleCalls : ∀ call ∈ sampleCalls, call.IsCurrent := by
  intro call member
  simp only [sampleCalls, List.mem_cons, List.not_mem_nil, or_false] at member
  constructor
  · intro now runId asked
    rcases member with rfl | rfl | rfl | rfl <;> cases asked <;> decide
  · intro now asked
    rcases member with rfl | rfl | rfl | rfl <;> cases asked

theorem currentRecords_empty (basePath : String) : CurrentRecords basePath fun _ => none :=
  fun _ _ found => by simp at found

/-- The calls of `sampleCalls` on both back ends: the worker which comes second is refused. -/
theorem locks_refine_leases_sample :
    (runS3By .datetime sampleCalls fun _ => none).1 =
        [.ok (some true), .ok (some false), .ok (some true), .ok none] ∧
      (runLocalBy .datetime [] sampleCalls emptyTree).1 =
        (runS3By .datetime sampleCalls fun _ => none).1 := by
  have descending : Posix.IsDescending (Posix.Path.parse "locks/compaction".toList).parts := by
    unfold Posix.IsDescending
    decide
  have plain : IsDirectoryDate "2024-06-11" := ⟨by decide, by decide, by decide⟩
  have records : StoresTable "locks/compaction" (fun _ => none) fun _ => none :=
    fun _ => recordsAt_none.mpr (Bucket.lock_of_absent rfl)
  obtain ⟨answers, -, others⟩ :=
    @locks_refine_leases "locks/compaction" _ sampleCalls _ records (by simp [sampleCalls])
      isCurrent_sampleCalls (currentRecords_empty _)
  have local_answers := others [] emptyTree (avoidsLocks_of_isDescending descending) (by decide)
    (by simp [sampleCalls, plain]) (corresponds_empty _)
  have table : (LeaseTable.run (sampleCalls.map LockCall.leaseCall) fun _ => none).1 =
      [some true, some false, some true, none] := by
    decide +kernel
  rw [local_answers, answers, table]
  exact ⟨rfl, rfl⟩

end Runs

/-! ## A lease outlasts the calls of others -/

/-- The calls after a granted `acquire`, about any partitions, by managers with any timeouts: as
long as they come before the end of the lease by either account, each `acquire` of another owner
about the partition is refused, and the owner is told that it holds the lock. -/
theorem lease_outlasts {first : LockCall} {now : Option Int} {runId : Option String}
    {rest : List LockCall} {bucket : Bucket} (asked : first.operation = .acquire now runId)
    (granted : (runS3By .datetime (first :: rest) bucket).1.head? = some (.ok (some true)))
    (below : ∀ call ∈ rest,
      call.manager.config.lockBasePath = first.manager.config.lockBasePath)
    (spares : ∀ call ∈ rest, call.partitionId = first.partitionId →
      call.leaseCall.Spares first.manager.ownerId (now.getD first.clock)
        (now.getD first.clock + seconds first.manager.config.lockTimeoutSeconds))
    (current : ∀ call ∈ first :: rest, call.IsCurrent)
    (stored : CurrentRecords first.manager.config.lockBasePath bucket) :
    ∀ pair ∈ rest.zip (runS3By .datetime (first :: rest) bucket).1.tail,
      pair.1.IsTold first.partitionId (pair.1.leaseCall.Respects first.manager.ownerId)
        pair.2 := by
  rw [(runS3_datetime current (List.forall_mem_cons.mpr ⟨rfl, below⟩) stored).1] at granted ⊢
  have written := leaseAt_of_granted asked (Option.some.inj granted)
  have kept : ∀ call ∈ rest, call.partitionId = first.partitionId → ∀ lease,
      HasLease first.manager.ownerId (now.getD first.clock)
          (now.getD first.clock + seconds first.manager.config.lockTimeoutSeconds) lease →
        HasLease first.manager.ownerId (now.getD first.clock)
            (now.getD first.clock + seconds first.manager.config.lockTimeoutSeconds)
            (call.leaseCall.answer lease).2 ∧
          call.leaseCall.Respects first.manager.ownerId (call.leaseCall.answer lease).1 :=
    fun call member about lease has => has.answer (spares call member about)
  exact (written.runS3 kept below).2

/-- In `sampleCalls`, the second worker comes within the lease of the first. -/
theorem lease_outlasts_sample :
    ((sampleCalls.tail.take 2).zip
        (runS3By .datetime (sampleCalls.take 3) fun _ => none).1.tail).Forall
      fun pair => pair.1.IsTold (partitionIdText "2024-06-11" 9)
        (pair.1.leaseCall.Respects "worker-a") pair.2 := by
  have current : ∀ call ∈ sampleCalls.take 3, call.IsCurrent :=
    fun call member => isCurrent_sampleCalls call (List.mem_of_mem_take member)
  have granted : (runS3By .datetime (sampleCalls.take 3) fun _ => none).1.head? =
      some (.ok (some true)) := by
    rw [(@runS3_datetime "locks/compaction" _ _ current (by simp [sampleCalls])
      (currentRecords_empty _)).1]
    decide +kernel
  have elsewhere : partitionIdText "2024-06-11" 10 ≠ partitionIdText "2024-06-11" 9 := by decide
  refine List.forall_iff_forall_mem.mpr
    (lease_outlasts rfl granted (by simp [sampleCalls]) ?_ current (currentRecords_empty _))
  simp [sampleCalls, LockCall.partitionId, elsewhere, LeaseCall.Spares, LockCall.leaseCall,
    LockOperation.leaseRequest, seconds]

/-! ## No lease outlasts its time -/

/-- No lock outlasts the leases which were asked for: after any calls whose own leases have ended,
by managers which may be gone without a release, the next `acquire` is granted. -/
theorem lease_runs_out {deadline : Int} {calls : List LockCall} {last : LockCall}
    {now : Option Int} {runId : Option String} {bucket : Bucket}
    (start : LeaseAt (ExpiresBy deadline) (last.manager.storagePath last.partitionId) bucket)
    (below : ∀ call ∈ calls,
      call.manager.config.lockBasePath = last.manager.config.lockBasePath)
    (ends : ∀ call ∈ calls, call.partitionId = last.partitionId → ∀ now runId,
      call.operation = .acquire now runId →
        now.getD call.clock + seconds call.manager.config.lockTimeoutSeconds ≤ deadline)
    (asked : last.operation = .acquire now runId) (late : deadline ≤ now.getD last.clock)
    (current : ∀ call ∈ last :: calls, call.IsCurrent)
    (stored : CurrentRecords last.manager.config.lockBasePath bucket) :
    (runS3By .datetime [last] (runS3By .datetime calls bucket).2).1 = [.ok (some true)] := by
  obtain ⟨last_current, calls_current⟩ := List.forall_mem_cons.mp current
  obtain ⟨same, stored_later⟩ := runS3_datetime calls_current below stored
  have same_last := (@runS3_datetime last.manager.config.lockBasePath _ [last]
    (by simpa using last_current) (by simp) stored_later).1
  rw [same, same_last]
  have spent : ∀ call ∈ calls, call.partitionId = last.partitionId → ∀ lease,
      ExpiresBy deadline lease → ExpiresBy deadline (call.leaseCall.answer lease).2 ∧ True := by
    refine fun call member about lease expires => ⟨expires.answer fun time acquires => ?_, trivial⟩
    cases operation : call.operation with
    | acquire now runId =>
        obtain rfl : now.getD call.clock = time := by
          simpa [LockCall.leaseCall, operation, LockOperation.leaseRequest] using acquires
        exact ends call member about now runId operation
    | release => simp [LockCall.leaseCall, operation, LockOperation.leaseRequest] at acquires
    | cleanupStaleLock now =>
        simp [LockCall.leaseCall, operation, LockOperation.leaseRequest] at acquires
    | isHeldBySelf => simp [LockCall.leaseCall, operation, LockOperation.leaseRequest] at acquires
  have request : last.leaseCall.request = .acquire (now.getD last.clock) := by
    rw [LockCall.leaseCall, asked]
    rfl
  have kept := (@LeaseAt.runS3 _ (fun _ _ => True) _ _ calls bucket spent below start).1
  obtain ⟨lease, records, expires⟩ := kept
  have asks : last.manager.Asks (last.operation.leaseRequest last.clock) last.leaseCall :=
    ⟨rfl, rfl, rfl⟩
  obtain ⟨later, run, -⟩ := LockManager.leadsTo_perform last.operation asks records
  rw [expires.granted request late] at run
  change [((last.manager.s3.perform last.manager last.partitionId last.operation).runWith
    (serve last.clock) (runS3 calls bucket).2).1] = _
  rw [run]

/-- The lock of the first worker in `sampleCalls`, which crashes, is free when its hour is over. -/
theorem lease_runs_out_sample :
    (runS3By .datetime [{ manager := { config := {}, ownerId := "worker-b" }
                          eventDate := "2024-06-11", eventHour := 9
                          operation := .acquire none none, clock := seconds 3600 }]
      (runS3By .datetime (sampleCalls.take 1) fun _ => none).2).1 = [.ok (some true)] := by
  have start : LeaseAt (ExpiresBy (seconds 3600))
      (lockFilePath "locks/compaction" (partitionIdText "2024-06-11" 9)) fun _ => none :=
    ⟨none, recordsAt_none.mpr (Bucket.lock_of_absent rfl), by simp [ExpiresBy]⟩
  refine lease_runs_out start (by simp [sampleCalls]) ?_ rfl (by decide)
    (List.forall_mem_cons.mpr ⟨⟨?_, by simp⟩, fun call member =>
      isCurrent_sampleCalls call (List.mem_of_mem_take member)⟩) (currentRecords_empty _)
  · simp [sampleCalls, seconds]
  · rintro now runId ⟨⟩
    decide

end Lakehouse
