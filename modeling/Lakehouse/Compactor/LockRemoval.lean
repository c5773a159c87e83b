import Lakehouse.Compactor.LeaseSafety

/-!
# Who removes a lock

Any number of workers perform operations whose single storage calls interleave.  `release` and
`cleanup_stale_lock` decide about a lock which they have read, and then delete whatever is stored
under the key.  The state remembers what each operation goes by: the lock which it has read last and
the time at which it judges it.  A delete takes a live lock of another worker exactly when the lock
has been replaced since that read, or was judged early.
-/

namespace Lakehouse

open Foundation

/-- The lock has not reached its `expires_at`. -/
def CompactionLock.IsLive (lock : CompactionLock) (clock : Int) : Prop :=
  ∃ expires, lock.expiresAt = .ok expires ∧ clock < expires

/-- What an operation goes by. -/
structure Grounds where
  /-- The lock which it has read last, if it has made no delete or write since. -/
  lock : Option CompactionLock
  /-- The time which it takes for now. -/
  reference : Option Int

/-- What it goes by after a call. -/
def Grounds.after (seen : Grounds) : (request : StorageCall) → StorageReply request → Grounds
  | .getObject _, reply =>
      match LockManager.readReply reply with
      | .ok found => { seen with lock := found }
      | .error _ => { seen with lock := none }
  | .putObject _ _, _ => { seen with lock := none }
  | .deleteObject _, _ => { seen with lock := none }
  | .now, time => { seen with reference := some time }

namespace LockManager

variable (manager : LockManager)

/-- A delete follows a read which found a lock: in `release` one of this worker, and in a cleanup
one which it judges stale. -/
def discipline (partitionId : String) (releasing : Bool) :
    Program.Protocol StorageCall StorageReply Grounds where
  permits seen request :=
    manager.Issues partitionId request ∧
      ∀ key, request = .deleteObject key →
        ∃ lock, seen.lock = some lock ∧
          if releasing then lock.ownerId = manager.ownerId
          else ∃ reference, seen.reference = some reference ∧
            manager.isStale lock reference = .ok true
  next := Grounds.after

variable {manager} {partitionId : String} {releasing : Bool} {α : Type}

/-- A stale lock has reached its `expires_at`, or is older than the timeout. -/
theorem expired_or_old_of_isStale {lock : CompactionLock} {reference : Int}
    (stale : manager.isStale lock reference = .ok true) :
    (∃ expires, lock.expiresAt = .ok expires ∧ expires ≤ reference) ∨
      ∃ acquired, lock.acquiredAt = .ok acquired ∧
        seconds manager.config.lockTimeoutSeconds < reference - acquired := by
  rw [isStale_eq] at stale
  obtain ⟨expires, expires_eq, rest⟩ := exists_of_bind_eq_ok stale
  by_cases ended : reference ≥ expires
  · exact .inl ⟨expires, expires_eq, ended⟩
  · rw [if_neg ended] at rest
    obtain ⟨acquired, acquired_eq, old⟩ := exists_of_bind_eq_ok rest
    exact .inr ⟨acquired, acquired_eq, of_decide_eq_true (Except.ok.inj old)⟩

theorem follows_ofExcept_bind {β : Type} {result : Except PyException β} {next : β → LockProgram α}
    {seen : Grounds}
    (last : ∀ value, result = .ok value →
      (next value).Follows (manager.discipline partitionId releasing) seen) :
    (Program.ofExcept result >>= next).Follows (manager.discipline partitionId releasing) seen := by
  cases result with
  | error exc => trivial
  | ok value => exact last value rfl

/-- What follows a read knows that its lock is the one read. -/
theorem follows_readLock_bind {next : Option CompactionLock → LockProgram α} {seen : Grounds}
    (last : ∀ existing, (next existing).Follows (manager.discipline partitionId releasing)
      { seen with lock := existing }) :
    (manager.readLock partitionId >>= next).Follows
      (manager.discipline partitionId releasing) seen := by
  rw [readLock_bind]
  refine ⟨⟨rfl, by simp⟩, fun reply => follows_ofExcept_bind fun existing found => ?_⟩
  simpa [discipline, Grounds.after, found] using last existing

theorem follows_deleteLock_bind {next : Unit → LockProgram α} {seen : Grounds}
    {lock : CompactionLock} (read : seen.lock = some lock)
    (grounds : if releasing then lock.ownerId = manager.ownerId
      else ∃ reference, seen.reference = some reference ∧
        manager.isStale lock reference = .ok true)
    (last : ∀ seen, (next ()).Follows (manager.discipline partitionId releasing) seen) :
    (manager.deleteLock partitionId >>= next).Follows
      (manager.discipline partitionId releasing) seen := by
  rw [deleteLock_bind]
  exact ⟨⟨rfl, fun _ _ => ⟨lock, read, grounds⟩⟩, fun _ => follows_ofExcept_bind fun _ _ => last _⟩

/-- What follows a look at the clock, if there is one, knows the time. -/
theorem follows_orClock_bind {now : Option Int} {next : Int → LockProgram α} {seen : Grounds}
    (given : ∀ reference ∈ now, seen.reference = some reference)
    (last : ∀ reference, (next reference).Follows (manager.discipline partitionId releasing)
      { seen with reference := some reference }) :
    (orClock now >>= next).Follows (manager.discipline partitionId releasing) seen := by
  cases now with
  | some reference =>
      obtain ⟨lock, judged⟩ := seen
      obtain rfl : judged = some reference := given reference rfl
      exact last reference
  | none => exact ⟨⟨trivial, by simp⟩, fun reply => last reply⟩

theorem follows_cleanupStaleLock {now : Option Int} {seen : Grounds}
    (given : ∀ reference ∈ now, seen.reference = some reference) :
    (manager.cleanupStaleLock partitionId now).Follows
      (manager.discipline partitionId false) seen := by
  refine follows_readLock_bind fun existing => ?_
  cases existing with
  | none => trivial
  | some lock =>
      refine follows_orClock_bind given fun reference => ?_
      refine follows_ofExcept_bind fun stale judged => ?_
      cases stale with
      | false => trivial
      | true =>
          refine follows_ofExcept_bind fun _ _ => ?_
          exact follows_deleteLock_bind rfl ⟨reference, rfl, judged⟩ fun _ => trivial

theorem follows_acquire {now : Option Int} (runId : Option String) {seen : Grounds}
    (given : ∀ reference ∈ now, seen.reference = some reference) :
    (manager.acquire partitionId now runId).Follows
      (manager.discipline partitionId false) seen := by
  refine follows_orClock_bind given fun reference => ?_
  refine Program.follows_bind (follows_cleanupStaleLock ?_) fun _ later => ?_
  · rintro judged ⟨⟩
    rfl
  refine follows_readLock_bind fun existing => follows_ofExcept_bind fun blocked _ => ?_
  cases blocked with
  | true => trivial
  | false =>
      rw [if_neg Bool.false_ne_true, ← takeLock, takeLock_eq, writeLock_bind]
      exact ⟨⟨⟨rfl, reference, runId, rfl⟩, by simp⟩, fun _ =>
        follows_ofExcept_bind fun _ _ => trivial⟩

theorem follows_release (seen : Grounds) :
    (manager.release partitionId).Follows (manager.discipline partitionId true) seen := by
  refine follows_readLock_bind fun existing => ?_
  cases existing with
  | none => trivial
  | some lock =>
      rw [← releaseRead, releaseRead_some]
      split
      · rename_i own
        rw [← Program.bind_done (manager.deleteLock partitionId)]
        exact follows_deleteLock_bind rfl own fun _ => trivial
      · trivial

end LockManager

/-! ## Interleaved operations -/

/-- The storage calls of an operation; its result does not matter here. -/
def LockOp.program (op : LockOp) (manager : LockManager) (now : Option Int) : LockProgram Unit :=
  match op with
  | .acquire partitionId runId => do
      let _ ← manager.acquire partitionId now runId
      return ()
  | .cleanupStaleLock partitionId => do
      let _ ← manager.cleanupStaleLock partitionId now
      return ()
  | .release partitionId => manager.release partitionId

def LockOp.isRelease : LockOp → Bool
  | .release _ => true
  | _ => false

/-- The operation a worker is in. -/
structure OpenOp where
  op : LockOp
  /-- What is left to execute. -/
  program : LockProgram Unit
  /-- What the operation goes by. -/
  seen : Grounds

/-- The stored locks and the operations of the workers. -/
structure LockingState (ω : Type) where
  clock : Int
  bucket : Bucket
  /-- `none` for a worker which has not started an operation. -/
  open? : ω → Option OpenOp

/-- What can happen next. -/
inductive LockingStep (ω : Type)
  /-- A worker enters an operation, after whatever became of its previous one. -/
  | start (worker : ω) (time : Int) (op : LockOp) (now : Option Int)
  /-- A worker makes the next storage call of its operation. -/
  | call (worker : ω) (time : Int)

namespace Fleet

variable {ω : Type} (fleet : Fleet ω)

/-- The worker makes a delete next, in the given operation and of the given key. -/
def Deletes (state : LockingState ω) (worker : ω) (opened : OpenOp) (key : String) : Prop :=
  state.open? worker = some opened ∧ ∃ resume, opened.program = .call (.deleteObject key) resume

/-- No delete removes a live lock of another owner. -/
def SparesLiveLocks (state : LockingState ω) : LockingStep ω → Prop
  | .start _ _ _ _ => True
  | .call worker time =>
      ∀ opened key, Deletes state worker opened key →
        ∀ lock, state.bucket.lock key = .ok (some lock) → lock.IsLive time →
          lock.ownerId = (fleet.manager worker).ownerId

/-- The worker finds the lock older than its own timeout, or takes for now a time which the clock
has not reached. -/
def JudgesEarly (worker : ω) (time : Int) (seen : Grounds) (lock : CompactionLock) : Prop :=
  ∃ reference, seen.reference = some reference ∧
    (time < reference ∨ ∃ acquired, lock.acquiredAt = .ok acquired ∧
      seconds (fleet.manager worker).config.lockTimeoutSeconds < reference - acquired)

/-- A delete which finds a live lock finds the one its operation has read; and in a cleanup, that
lock is the worker's own or has not been judged early. -/
def FindsLockRead (state : LockingState ω) : LockingStep ω → Prop
  | .start _ _ _ _ => True
  | .call worker time =>
      ∀ opened key, Deletes state worker opened key →
        ∀ lock, state.bucket.lock key = .ok (some lock) → lock.IsLive time →
          opened.seen.lock = some lock ∧
            (opened.op.isRelease = false → lock.ownerId ≠ (fleet.manager worker).ownerId →
              ¬fleet.JudgesEarly worker time opened.seen lock)

/-- Each operation follows its discipline, and a stored lock of a worker which has read a lock is
the lock read. -/
def Reading (state : LockingState ω) : Prop :=
  ∀ worker opened, state.open? worker = some opened →
    opened.program.Follows
      ((fleet.manager worker).discipline opened.op.partitionId opened.op.isRelease) opened.seen ∧
    ∀ lock found, opened.seen.lock = some lock →
      state.bucket.lock (fleet.lockKey opened.op.partitionId) = .ok (some found) →
      found.ownerId = (fleet.manager worker).ownerId → found = lock

variable {fleet}

/-- Where nothing has been started, nothing is being read. -/
theorem reading_start (clock : Int) (bucket : Bucket) :
    fleet.Reading { clock, bucket, open? := fun _ => none } := by
  simp [Reading]

theorem follows_program (op : LockOp) (manager : LockManager) (now : Option Int) :
    (op.program manager now).Follows (manager.discipline op.partitionId op.isRelease)
      ⟨none, now⟩ := by
  have given : ∀ reference ∈ now, (⟨none, now⟩ : Grounds).reference = some reference :=
    fun _ member => member
  cases op with
  | acquire partitionId runId =>
      exact Program.follows_bind (LockManager.follows_acquire runId given) fun _ _ => trivial
  | cleanupStaleLock partitionId =>
      exact Program.follows_bind (LockManager.follows_cleanupStaleLock given) fun _ _ => trivial
  | release partitionId => exact LockManager.follows_release _

/-- After a call of one worker, a stored lock of another worker has been stored before. -/
theorem lock_before_call {worker other : ω} (ne : other ≠ worker) {partitionId : String}
    {request : StorageCall} (issued : (fleet.manager worker).Issues partitionId request)
    {time : Int} {bucket : Bucket} {key : String} {found : CompactionLock}
    (stored : ((serve time request bucket).2).lock key = .ok (some found))
    (owned : found.ownerId = (fleet.manager other).ownerId) :
    bucket.lock key = .ok (some found) := by
  cases request with
  | getObject _ => exact stored
  | now => exact stored
  | deleteObject deleted =>
      by_cases same : key = deleted
      · simp [serve, Bucket.lock, same] at stored
      · simpa [serve, Bucket.lock, Function.update_of_ne same] using stored
  | putObject written body =>
      by_cases same : key = written
      · obtain ⟨-, reference, runId, rfl⟩ := issued
        have written_lock : Bucket.lock (Function.update bucket key
            (some ((fleet.manager worker).newLock partitionId reference runId).toJson)) key =
              .ok (some ((fleet.manager worker).newLock partitionId reference runId)) :=
          Bucket.lock_of_stored (Function.update_self _ _ _)
        rw [serve, ← same, written_lock] at stored
        have found_eq := (Option.some.inj (Except.ok.inj stored)).symm
        rw [found_eq] at owned
        exact absurd owned (fleet.workerLock_ownerId_ne ne partitionId reference runId)
      · simpa [serve, Bucket.lock, Function.update_of_ne same] using stored

/-- A lock which is live has not been found stale by its `expires_at`. -/
theorem judgesEarly_of_isLive {worker : ω} {time reference : Int} {seen : Grounds}
    {lock : CompactionLock} (judged : seen.reference = some reference)
    (stale : (fleet.manager worker).isStale lock reference = .ok true) (live : lock.IsLive time) :
    fleet.JudgesEarly worker time seen lock := by
  refine ⟨reference, judged, ?_⟩
  rcases LockManager.expired_or_old_of_isStale stale with ⟨expires, expires_eq, ended⟩ | old
  · obtain ⟨expires', expires_eq', later⟩ := live
    obtain rfl := Except.ok.inj (expires_eq.symm.trans expires_eq')
    exact .inl (later.trans_le ended)
  · exact .inr old

/-- Under the invariant, a delete spares the live locks of others exactly when it finds the lock
read, and has not judged it early. -/
theorem sparesLiveLocks_iff_findsLockRead {state : LockingState ω} (reading : fleet.Reading state)
    (label : LockingStep ω) :
    fleet.SparesLiveLocks state label ↔ fleet.FindsLockRead state label := by
  cases label with
  | start worker time op now => exact Iff.rfl
  | call worker time =>
      refine forall₃_congr fun opened key deletes => ?_
      obtain ⟨opened_eq, resume, program_eq⟩ := deletes
      obtain ⟨follows, reads⟩ := reading worker opened opened_eq
      rw [program_eq, Program.follows_call] at follows
      obtain ⟨⟨issued, read⟩, -⟩ := follows
      obtain ⟨lock, seen_eq, grounds⟩ := read key rfl
      obtain rfl : key = _ := issued
      rw [fleet.storagePath_manager]
      refine forall₃_congr fun found stored live => ?_
      constructor
      · intro owned
        obtain rfl := reads lock found seen_eq stored owned
        exact ⟨seen_eq, fun _ foreign => absurd owned foreign⟩
      · rintro ⟨same, cleaning⟩
        obtain rfl := Option.some.inj (seen_eq.symm.trans same)
        by_contra foreign
        cases release : opened.op.isRelease with
        | true =>
            rw [release, if_pos rfl] at grounds
            exact foreign grounds
        | false =>
            rw [release, if_neg Bool.false_ne_true] at grounds
            obtain ⟨reference, judged, stale⟩ := grounds
            exact cleaning release foreign (judgesEarly_of_isLive judged stale live)

/-! ## Steps -/

variable [DecidableEq ω]

/-- The state after the next storage call of an operation. -/
def callNext (worker : ω) (time : Int) (state : LockingState ω) : Option (LockingState ω) :=
  match state.open? worker with
  | none => none
  | some ⟨op, program, seen⟩ =>
      match program with
      | .done _ => none
      | .raise _ => none
      | .call request resume =>
          let reply := (serve time request state.bucket).1
          some
            { clock := time
              bucket := (serve time request state.bucket).2
              open? := Function.update state.open? worker
                (some ⟨op, resume reply, seen.after request reply⟩) }

/-- Time never goes back; a worker which stops makes no further steps. -/
def lockingMachine (fleet : Fleet ω) : Machine (LockingState ω) (LockingStep ω) where
  step state
    | .start worker time op now =>
        if time < state.clock then none
        else some
          { state with
            clock := time
            open? := Function.update state.open? worker
              (some ⟨op, op.program (fleet.manager worker) now, ⟨none, now⟩⟩) }
    | .call worker time => if time < state.clock then none else callNext worker time state

/-- What `callNext` does, for a worker which is in an operation. -/
theorem callNext_eq_some {state next : LockingState ω} {worker : ω} {time : Int}
    (taken : callNext worker time state = some next) :
    ∃ op request resume seen,
      state.open? worker = some ⟨op, .call request resume, seen⟩ ∧
        next =
          { clock := time
            bucket := (serve time request state.bucket).2
            open? := Function.update state.open? worker
              (some ⟨op, resume (serve time request state.bucket).1,
                seen.after request (serve time request state.bucket).1⟩) } := by
  unfold callNext at taken
  split at taken
  · simp at taken
  · rename_i op program seen opened
    cases program with
    | done value => simp at taken
    | raise exc => simp at taken
    | call request resume => exact ⟨op, request, resume, seen, opened, (Option.some.inj taken).symm⟩

theorem reading_call {state next : LockingState ω} {worker : ω} {time : Int}
    (reading : fleet.Reading state) (taken : callNext worker time state = some next) :
    fleet.Reading next := by
  obtain ⟨op, request, resume, seen, opened_eq, rfl⟩ := callNext_eq_some taken
  obtain ⟨follows, reads⟩ := reading worker _ opened_eq
  obtain ⟨⟨issued, -⟩, later⟩ := Program.follows_call.mp follows
  intro other opened now_open
  by_cases self : other = worker
  · subst other
    simp only [Function.update_self, Option.some.injEq] at now_open
    subst opened
    refine ⟨later _, fun lock found seen_eq stored owned => ?_⟩
    cases request with
    | getObject key =>
        obtain rfl : key = fleet.lockKey op.partitionId :=
          issued.trans (fleet.storagePath_manager worker op.partitionId)
        simp only [Grounds.after, serve, LockManager.readReply_getReply] at seen_eq stored
        rw [stored] at seen_eq
        exact Option.some.inj seen_eq
    | putObject key body => simp [Grounds.after] at seen_eq
    | deleteObject key => simp [Grounds.after] at seen_eq
    | now => exact reads lock found seen_eq stored owned
  · simp only [Function.update_of_ne self] at now_open
    obtain ⟨other_follows, other_reads⟩ := reading other opened now_open
    refine ⟨other_follows, fun lock found seen_eq stored owned => ?_⟩
    exact other_reads lock found seen_eq (lock_before_call self issued stored owned) owned

theorem reading_step {state next : LockingState ω} {label : LockingStep ω}
    (reading : fleet.Reading state) (taken : fleet.lockingMachine.step state label = some next) :
    fleet.Reading next := by
  cases label with
  | start worker time op now =>
      simp only [lockingMachine] at taken
      split at taken
      · simp at taken
      · obtain rfl := Option.some.inj taken
        intro other opened now_open
        by_cases self : other = worker
        · subst other
          simp only [Function.update_self, Option.some.injEq] at now_open
          subst opened
          exact ⟨follows_program op _ now, by simp⟩
        · simp only [Function.update_of_ne self] at now_open
          exact reading other opened now_open
  | call worker time =>
      simp only [lockingMachine] at taken
      split at taken
      · simp at taken
      · exact reading_call reading taken

/-- In every interleaving, all deletes spare the live locks of other workers exactly when every
delete which finds a live lock finds the lock its operation has read, and no cleanup has judged
such a lock of another worker early. -/
theorem every_delete_spares_iff (fleet : Fleet ω) (clock : Int) (bucket : Bucket)
    (steps : List (LockingStep ω)) :
    fleet.lockingMachine.EveryStep fleet.SparesLiveLocks
        { clock, bucket, open? := fun _ => none } steps ↔
      fleet.lockingMachine.EveryStep fleet.FindsLockRead
        { clock, bucket, open? := fun _ => none } steps :=
  fleet.lockingMachine.everyStep_congr reading_step
    (fun reading _ => sparesLiveLocks_iff_findsLockRead reading _) steps
    (reading_start clock bucket)

/-! ### A release which comes too late -/

/-- The first worker reads its lock just before it expires, the second one takes the partition
over, and the first one deletes. -/
def lateRelease : List (LockingStep Bool) :=
  let partitionId := "event_date=2024-06-11/event_hour=10"
  [.start true 0 (.acquire partitionId none) (some 0),
    .call true 0, .call true 0, .call true 0,
    .start true (seconds 3599) (.release partitionId) none, .call true (seconds 3599),
    .start false (seconds 3600) (.acquire partitionId none) (some (seconds 3600)),
    .call false (seconds 3600), .call false (seconds 3600), .call false (seconds 3600),
    .call false (seconds 3600), .call true (seconds 3600)]

theorem lateRelease_removes_live_lock :
    ¬UniformFleet.pair.lockingMachine.EveryStep UniformFleet.pair.SparesLiveLocks
      { clock := 0, bucket := fun _ => none, open? := fun _ => none } lateRelease := by
  rintro ⟨-, -, -, -, -, -, -, -, -, -, -, last, -⟩
  have owner := last _ _ ⟨rfl, _, rfl⟩ _ rfl ⟨_, rfl, by decide⟩
  exact absurd owner (by decide)

end Fleet

end Lakehouse
