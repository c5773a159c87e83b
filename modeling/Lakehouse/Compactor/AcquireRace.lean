import Lakehouse.Compactor.LeaseSafety

/-!
# Two acquisitions, storage call by storage call

Two workers acquire one partition while their single storage calls interleave.  A thread stands in
one of six phases, and `step_state` computes the next phase from the lock stored at that moment.
The decisions of `acquire` rest on earlier reads: exclusion holds exactly as long as what was read
still holds when the delete or the write takes effect.
-/

namespace Lakehouse

open Foundation

/-- Where an `acquire` stands between its storage calls. -/
inductive AcquirePhase
  | reading
  | deleting
  | rereading
  | writing
  | returned (granted : Bool)
  | failed (exc : PyException)
  deriving DecidableEq

/-- Two acquisitions of one partition, less than the timeout apart. -/
structure AcquireRace where
  fleet : UniformFleet Bool
  partitionId : String
  /-- The `now` of each worker. -/
  time : Bool → Int
  runId : Bool → Option String
  time_lt : ∀ worker, time worker < time (!worker) + fleet.leaseTime

namespace AcquireRace

variable (race : AcquireRace)

def manager (worker : Bool) : LockManager := race.fleet.manager worker

/-- The key both workers use. -/
def key : String := race.fleet.lockKey race.partitionId

/-- The lock which a worker writes. -/
def ownLock (worker : Bool) : CompactionLock :=
  race.fleet.workerLock worker race.partitionId (race.time worker) (race.runId worker)

abbrev State := Program.Shared Bool Bucket StorageCall StorageReply PyException Bool

/-- Both workers are about to acquire the partition. -/
def start (bucket : Bucket) : State where
  world := bucket
  threads worker :=
    (race.manager worker).acquire race.partitionId (some (race.time worker)) (race.runId worker)

/-- One storage call of one worker; a worker which has returned or raised makes no more calls. -/
def machine : Machine State Bool where
  step state worker :=
    match state.threads worker with
    | .call _ _ => some (Program.advance (serve (race.time worker)) worker state)
    | _ => none

/-- `acquire` has returned `True` to the worker. -/
def Granted (state : State) (worker : Bool) : Prop := state.threads worker = .done true

/-- The worker has returned or raised. -/
def Finished (state : State) (worker : Bool) : Prop :=
  match state.threads worker with
  | .call _ _ => False
  | _ => True

/-- What the worker has to find for its delete: no lock, or one which is stale for it. -/
def MayDelete (worker : Bool) (stored : Except PyException (Option CompactionLock)) : Prop :=
  match stored with
  | .error _ => False
  | .ok none => True
  | .ok (some lock) => (race.manager worker).isStale lock (race.time worker) = .ok true

/-- What the worker has to find for its write: a lock which does not block it. -/
def MayWrite (worker : Bool) (stored : Except PyException (Option CompactionLock)) : Prop :=
  stored.bind ((race.manager worker).isBlockedBy (race.time worker)) = .ok false

/-- The delete or write which the worker makes next is still right about the stored lock. -/
def StillRight (state : State) (worker : Bool) : Prop :=
  match state.threads worker with
  | .call (.deleteObject key) _ => race.MayDelete worker (state.world.lock key)
  | .call (.putObject key _) _ => race.MayWrite worker (state.world.lock key)
  | _ => True

/-! ## Phases -/

/-- What is left to execute of an `acquire`. -/
def program (worker : Bool) : AcquirePhase → LockProgram Bool
  | .reading =>
      (race.manager worker).acquire race.partitionId (some (race.time worker)) (race.runId worker)
  | .deleting => do
      (race.manager worker).deleteLock race.partitionId
      (race.manager worker).acquireClean race.partitionId (race.time worker) (race.runId worker)
  | .rereading =>
      (race.manager worker).acquireClean race.partitionId (race.time worker) (race.runId worker)
  | .writing =>
      (race.manager worker).takeLock race.partitionId (race.time worker) (race.runId worker)
  | .returned granted => .done granted
  | .failed exc => .raise exc

/-- The phase after the first read. -/
def afterRead (worker : Bool) : Except PyException (Option CompactionLock) → AcquirePhase
  | .error exc => .failed exc
  | .ok none => .rereading
  | .ok (some lock) =>
      match (race.manager worker).isStale lock (race.time worker), lock.acquiredAt with
      | .error exc, _ => .failed exc
      | .ok false, _ => .rereading
      | .ok true, .error exc => .failed exc
      | .ok true, .ok _ => .deleting

/-- The phase after the second read. -/
def afterReread (worker : Bool) (stored : Except PyException (Option CompactionLock)) :
    AcquirePhase :=
  match stored.bind ((race.manager worker).isBlockedBy (race.time worker)) with
  | .error exc => .failed exc
  | .ok true => .returned false
  | .ok false => .writing

/-- The next phase, from the stored lock; none for a worker which has finished. -/
def nextPhase (worker : Bool) (stored : Except PyException (Option CompactionLock)) :
    AcquirePhase → Option AcquirePhase
  | .reading => some (race.afterRead worker stored)
  | .deleting => some .rereading
  | .rereading => some (race.afterReread worker stored)
  | .writing => some (.returned true)
  | .returned _ => none
  | .failed _ => none

/-- What a call does to the bucket. -/
def nextBucket (worker : Bool) (bucket : Bucket) : AcquirePhase → Bucket
  | .deleting => Function.update bucket race.key none
  | .writing => Function.update bucket race.key (some (race.ownLock worker).toJson)
  | _ => bucket

/-- The state in which the threads stand in the given phases. -/
def state (phases : Bool → AcquirePhase) (bucket : Bucket) : State where
  world := bucket
  threads worker := race.program worker (phases worker)

variable {race}

@[simp]
theorem storagePath_manager (race : AcquireRace) (worker : Bool) :
    (race.manager worker).storagePath race.partitionId = race.key :=
  race.fleet.storagePath_manager worker race.partitionId

theorem start_eq (race : AcquireRace) (bucket : Bucket) :
    race.start bucket = race.state (fun _ => .reading) bucket := rfl

/-- The thread of a worker performs a call and moves on to the program of the next phase. -/
private theorem step_of_call {phases : Bool → AcquirePhase} {worker : Bool} (bucket : Bucket)
    {request : StorageCall} {resume : StorageReply request → LockProgram Bool}
    (next : AcquirePhase) (now : race.program worker (phases worker) = .call request resume)
    (moved : resume (serve (race.time worker) request bucket).1 = race.program worker next) :
    race.machine.step (race.state phases bucket) worker =
      some (race.state (Function.update phases worker next)
        (serve (race.time worker) request bucket).2) := by
  have threads_eq : Function.update (race.state phases bucket).threads worker
      (race.program worker next) =
        (race.state (Function.update phases worker next) bucket).threads := by
    funext other
    by_cases same : other = worker
    · subst other
      simp [state]
    · simp [state, Function.update_of_ne same]
  have thread : (race.state phases bucket).threads worker = .call request resume := now
  simp only [machine, thread, Program.advance_of_call _ thread]
  have world_eq : (race.state phases bucket).world = bucket := rfl
  rw [world_eq, moved, threads_eq]
  rfl

/-- The program after the first read goes on as its phase does. -/
theorem program_afterRead (worker : Bool) (stored : Except PyException (Option CompactionLock)) :
    (Program.ofExcept stored >>= fun existing =>
      (race.manager worker).cleanupRead race.partitionId (some (race.time worker)) existing >>=
        fun _ => race.program worker .rereading) =
      race.program worker (race.afterRead worker stored) := by
  cases stored with
  | error exc => rfl
  | ok existing =>
      cases existing with
      | none => rfl
      | some lock =>
          simp only [Program.ofExcept_ok, Program.done_bind, LockManager.cleanupRead_some,
            LockManager.orClock, Program.pure_eq, afterRead]
          cases (race.manager worker).isStale lock (race.time worker) with
          | error exc => rfl
          | ok stale =>
              cases stale with
              | false => rfl
              | true =>
                  cases acquired : lock.acquiredAt with
                  | error exc => simp [LockManager.removeStale_eq, acquired, program]
                  | ok time =>
                      simp [LockManager.removeStale_eq, acquired, program, Program.bind_assoc]

/-- The program after the second read goes on as its phase does. -/
theorem program_afterReread (worker : Bool)
    (stored : Except PyException (Option CompactionLock)) :
    (Program.ofExcept stored >>= fun existing =>
      Program.ofExcept ((race.manager worker).isBlockedBy (race.time worker) existing) >>=
        fun blocked => if blocked then return false else race.program worker .writing) =
      race.program worker (race.afterReread worker stored) := by
  cases stored with
  | error exc => rfl
  | ok existing =>
      simp only [Program.ofExcept_ok, Program.done_bind, afterReread, Except.bind]
      cases (race.manager worker).isBlockedBy (race.time worker) existing with
      | error exc => rfl
      | ok blocked => cases blocked <;> rfl

theorem program_reading (race : AcquireRace) (worker : Bool) :
    race.program worker .reading =
      .call (.getObject ((race.manager worker).storagePath race.partitionId)) fun reply =>
        Program.ofExcept (LockManager.readReply reply) >>= fun existing =>
          (race.manager worker).cleanupRead race.partitionId (some (race.time worker)) existing >>=
            fun _ => race.program worker .rereading := by
  rw [program, LockManager.acquire_eq, LockManager.orClock, Program.pure_eq, Program.done_bind,
    LockManager.cleanupStaleLock_bind, LockManager.readLock_bind]
  rfl

theorem program_deleting (race : AcquireRace) (worker : Bool) :
    race.program worker .deleting =
      .call (.deleteObject ((race.manager worker).storagePath race.partitionId)) fun reply =>
        Program.ofExcept (LockManager.deleteReply reply) >>= fun _ =>
          race.program worker .rereading := rfl

theorem program_rereading (race : AcquireRace) (worker : Bool) :
    race.program worker .rereading =
      .call (.getObject ((race.manager worker).storagePath race.partitionId)) fun reply =>
        Program.ofExcept (LockManager.readReply reply) >>= fun existing =>
          Program.ofExcept ((race.manager worker).isBlockedBy (race.time worker) existing) >>=
            fun blocked => if blocked then return false else race.program worker .writing := rfl

theorem program_writing (race : AcquireRace) (worker : Bool) :
    race.program worker .writing =
      .call (.putObject ((race.manager worker).storagePath race.partitionId)
        (race.ownLock worker).toJson) fun reply =>
          Program.ofExcept (LockManager.writeReply reply) >>= fun _ => .done true := rfl

/-- A machine step is a step of the phases. -/
theorem step_state (phases : Bool → AcquirePhase) (bucket : Bucket) (worker : Bool) :
    race.machine.step (race.state phases bucket) worker =
      (race.nextPhase worker (bucket.lock race.key) (phases worker)).map fun next =>
        race.state (Function.update phases worker next)
          (race.nextBucket worker bucket (phases worker)) := by
  have read := LockManager.readReply_getReply bucket race.key
  cases phase : phases worker with
  | reading =>
      have now := race.program_reading worker
      rw [← phase] at now
      rw [step_of_call bucket (race.afterRead worker (bucket.lock race.key)) now]
      · simp [serve, nextPhase, nextBucket]
      · simp only [serve, storagePath_manager, read]
        exact program_afterRead worker _
  | deleting =>
      have now := race.program_deleting worker
      rw [← phase] at now
      rw [step_of_call bucket .rereading now rfl]
      simp [serve, nextPhase, nextBucket]
  | rereading =>
      have now := race.program_rereading worker
      rw [← phase] at now
      rw [step_of_call bucket (race.afterReread worker (bucket.lock race.key)) now]
      · simp [serve, nextPhase, nextBucket]
      · simp only [serve, storagePath_manager, read]
        exact program_afterReread worker _
  | writing =>
      have now := race.program_writing worker
      rw [← phase] at now
      rw [step_of_call bucket (.returned true) now rfl]
      simp [serve, nextPhase, nextBucket]
  | returned granted => simp [machine, state, program, phase, nextPhase]
  | failed exc => simp [machine, state, program, phase, nextPhase]

/-- The states whose threads stand in phases with the given property. -/
def InPhases (race : AcquireRace) (holds : (Bool → AcquirePhase) → Bucket → Prop)
    (state : State) : Prop :=
  ∃ phases bucket, state = race.state phases bucket ∧ holds phases bucket

/-- To follow a property along the steps, follow it along the phases. -/
theorem inPhases_step {holds holds' : (Bool → AcquirePhase) → Bucket → Prop} {state next : State}
    {worker : Bool}
    (moves : ∀ phases bucket phase, state = race.state phases bucket →
      race.nextPhase worker (bucket.lock race.key) (phases worker) = some phase →
      holds phases bucket →
      holds' (Function.update phases worker phase)
        (race.nextBucket worker bucket (phases worker)))
    (inside : race.InPhases holds state) (taken : race.machine.step state worker = some next) :
    race.InPhases holds' next := by
  obtain ⟨phases, bucket, state_eq, held⟩ := inside
  rw [state_eq, step_state, Option.map_eq_some_iff] at taken
  obtain ⟨phase, moved, rfl⟩ := taken
  exact ⟨_, _, rfl, moves phases bucket phase state_eq moved held⟩

theorem granted_state {phases : Bool → AcquirePhase} {bucket : Bucket} {worker : Bool} :
    Granted (race.state phases bucket) worker ↔ phases worker = .returned true := by
  simp only [Granted, state]
  cases phases worker with
  | reading => simp [program_reading]
  | deleting => simp [program_deleting]
  | rereading => simp [program_rereading]
  | writing => simp [program_writing]
  | returned granted => simp [program]
  | failed exc => simp [program]

theorem finished_state {phases : Bool → AcquirePhase} {bucket : Bucket} {worker : Bool} :
    Finished (race.state phases bucket) worker ↔
      (∃ granted, phases worker = .returned granted) ∨ ∃ exc, phases worker = .failed exc := by
  simp only [Finished, state]
  cases phases worker with
  | reading => simp [program_reading]
  | deleting => simp [program_deleting]
  | rereading => simp [program_rereading]
  | writing => simp [program_writing]
  | returned granted => simp [program]
  | failed exc => simp [program]

theorem stillRight_state {phases : Bool → AcquirePhase} {bucket : Bucket} {worker : Bool} :
    race.StillRight (race.state phases bucket) worker ↔
      (phases worker = .deleting → race.MayDelete worker (bucket.lock race.key)) ∧
        (phases worker = .writing → race.MayWrite worker (bucket.lock race.key)) := by
  have key_eq := race.storagePath_manager worker
  simp only [StillRight, state]
  cases phases worker with
  | reading => simp [program_reading]
  | deleting => simp [program_deleting, key_eq]
  | rereading => simp [program_rereading]
  | writing => simp [program_writing, key_eq]
  | returned granted => simp [program]
  | failed exc => simp [program]

/-! ## Steps which are still right -/

/-- The lock of the other worker is not stale. -/
theorem isStale_ownLock {worker other : Bool} (ne : other ≠ worker) :
    (race.manager worker).isStale (race.ownLock other) (race.time worker) = .ok false := by
  obtain rfl : other = !worker := Bool.eq_not.mpr ne
  exact UniformFleet.isStale_workerLock (race.time_lt worker)

theorem not_mayDelete_ownLock {worker other : Bool} (ne : other ≠ worker) :
    ¬race.MayDelete worker (.ok (some (race.ownLock other))) := by
  simp [MayDelete, isStale_ownLock ne]

theorem not_mayWrite_ownLock {worker other : Bool} (ne : other ≠ worker) :
    ¬race.MayWrite worker (.ok (some (race.ownLock other))) := by
  have foreign : (race.ownLock other).ownerId ≠ (race.manager worker).ownerId :=
    race.fleet.workerLock_ownerId_ne ne.symm _ _ _
  have differs : ((race.ownLock other).ownerId != (race.manager worker).ownerId) = true := by
    simpa using foreign
  simp [MayWrite, LockManager.isBlockedBy_some, Except.bind, isStale_ownLock ne, differs]

theorem afterRead_cases (worker : Bool) (stored : Except PyException (Option CompactionLock)) :
    (∃ exc, race.afterRead worker stored = .failed exc) ∨
      race.afterRead worker stored = .rereading ∨
        race.afterRead worker stored = .deleting ∧ race.MayDelete worker stored := by
  unfold afterRead
  split
  · simp
  · simp
  · split <;> simp_all [MayDelete]

theorem afterReread_cases (worker : Bool) (stored : Except PyException (Option CompactionLock)) :
    (∃ exc, race.afterReread worker stored = .failed exc) ∨
      race.afterReread worker stored = .returned false ∨
        race.afterReread worker stored = .writing ∧ race.MayWrite worker stored := by
  unfold afterReread MayWrite
  split <;> simp_all

/-- A granted lock is the stored one. -/
def KeepsLocks (race : AcquireRace) (phases : Bool → AcquirePhase) (bucket : Bucket) : Prop :=
  ∀ worker, phases worker = .returned true →
    bucket race.key = some (race.ownLock worker).toJson

/-- As long as the calls are right, nobody removes or replaces a granted lock. -/
theorem keepsLocks_step {state next : State} {worker : Bool}
    (kept : race.InPhases race.KeepsLocks state) (right : race.StillRight state worker)
    (taken : race.machine.step state worker = some next) : race.InPhases race.KeepsLocks next := by
  refine inPhases_step ?_ kept taken
  rintro phases bucket phase rfl moved locks holder granted
  obtain ⟨may_delete, may_write⟩ := stillRight_state.mp right
  by_cases self : holder = worker
  · subst holder
    rw [Function.update_self] at granted
    subst phase
    cases phase : phases worker with
    | reading =>
        simp only [phase, nextPhase, Option.some.injEq] at moved
        obtain ⟨exc, failed⟩ | rereads | ⟨deletes, -⟩ := race.afterRead_cases worker
          (bucket.lock race.key) <;> simp_all
    | deleting => simp [phase, nextPhase] at moved
    | rereading =>
        simp only [phase, nextPhase, Option.some.injEq] at moved
        obtain ⟨exc, failed⟩ | refused | ⟨writes, -⟩ := race.afterReread_cases worker
          (bucket.lock race.key) <;> simp_all
    | writing => simp [nextBucket]
    | returned granted => simp [phase, nextPhase] at moved
    | failed exc => simp [phase, nextPhase] at moved
  · rw [Function.update_of_ne self] at granted
    have stored := locks holder granted
    have lock := Bucket.lock_of_stored stored
    cases phase : phases worker with
    | deleting =>
        have allowed := may_delete phase
        rw [lock] at allowed
        exact absurd allowed (not_mayDelete_ownLock self)
    | writing =>
        have allowed := may_write phase
        rw [lock] at allowed
        exact absurd allowed (not_mayWrite_ownLock self)
    | reading => exact stored
    | rereading => exact stored
    | returned granted => exact stored
    | failed exc => exact stored

/-- Two granted locks would be one. -/
theorem not_both_of_keepsLocks {state : State} (kept : race.InPhases race.KeepsLocks state) :
    ¬∀ worker, Granted state worker := by
  obtain ⟨phases, bucket, rfl, locks⟩ := kept
  intro both
  have first := Bucket.lock_of_stored (locks true (granted_state.mp (both true)))
  have second := Bucket.lock_of_stored (locks false (granted_state.mp (both false)))
  have same := Option.some.inj (Except.ok.inj (first.symm.trans second))
  have different : true ≠ false := by decide
  exact race.fleet.workerLock_ownerId_ne different.symm _ _ _ (congrArg CompactionLock.ownerId same)

/-! ## Steps which are not -/

/-- Before the first wrong call, a worker which is about to delete or to write is right, unless the
other one has been granted the lock. -/
def Guarded (race : AcquireRace) (phases : Bool → AcquirePhase) (bucket : Bucket) : Prop :=
  ∀ worker, phases (!worker) = .returned true ∨
    (phases worker = .deleting → race.MayDelete worker (bucket.lock race.key)) ∧
      (phases worker = .writing → race.MayWrite worker (bucket.lock race.key))

/-- One worker has been granted the lock, and the other one will be. -/
def BothWin (race : AcquireRace) (phases : Bool → AcquirePhase) (bucket : Bucket) : Prop :=
  ∃ worker, phases (!worker) = .returned true ∧
    (phases worker = .returned true ∨
      bucket race.key = none ∧ (phases worker = .rereading ∨ phases worker = .writing))

theorem guarded_step {state next : State} {worker : Bool}
    (guarded : race.InPhases race.Guarded state)
    (taken : race.machine.step state worker = some next) : race.InPhases race.Guarded next := by
  refine inPhases_step ?_ guarded taken
  rintro phases bucket phase - moved guards watched
  by_cases self : watched = worker
  · subst watched
    rw [Function.update_self, Function.update_of_ne (by simp)]
    refine (guards worker).imp id fun _ => ?_
    cases at_phase : phases worker with
    | reading =>
        simp only [at_phase, nextPhase, Option.some.injEq] at moved
        subst phase
        obtain ⟨exc, failed⟩ | rereads | ⟨deletes, may_delete⟩ := race.afterRead_cases worker
          (bucket.lock race.key) <;> simp_all [nextBucket]
    | rereading =>
        simp only [at_phase, nextPhase, Option.some.injEq] at moved
        subst phase
        obtain ⟨exc, failed⟩ | refused | ⟨writes, may_write⟩ := race.afterReread_cases worker
          (bucket.lock race.key) <;> simp_all [nextBucket]
    | deleting =>
        obtain rfl : phase = .rereading := by simpa [at_phase, nextPhase, eq_comm] using moved
        simp
    | writing =>
        obtain rfl : phase = .returned true := by simpa [at_phase, nextPhase, eq_comm] using moved
        simp
    | returned granted => simp [at_phase, nextPhase] at moved
    | failed exc => simp [at_phase, nextPhase] at moved
  · obtain rfl : watched = !worker := Bool.eq_not.mpr self
    rw [Bool.not_not, Function.update_self, Function.update_of_ne self]
    have guard := guards (!worker)
    rw [Bool.not_not] at guard
    cases at_phase : phases worker with
    | reading => simp_all [nextBucket, nextPhase]
    | rereading => simp_all [nextBucket, nextPhase]
    | deleting =>
        have absent : (race.nextBucket worker bucket .deleting).lock race.key = .ok none :=
          Bucket.lock_of_absent (by simp [nextBucket])
        simp [absent, MayDelete, MayWrite, Except.bind, LockManager.isBlockedBy_none]
    | writing =>
        simp only [at_phase, nextPhase, Option.some.injEq] at moved
        exact .inl moved.symm
    | returned granted => simp [at_phase, nextPhase] at moved
    | failed exc => simp [at_phase, nextPhase] at moved

/-- The first wrong call belongs to a worker which will be granted the lock too. -/
theorem bothWin_of_wrong {state next : State} {worker : Bool}
    (guarded : race.InPhases race.Guarded state)
    (taken : race.machine.step state worker = some next) (wrong : ¬race.StillRight state worker) :
    race.InPhases race.BothWin next := by
  refine inPhases_step ?_ guarded taken
  rintro phases bucket phase rfl moved guards
  rw [stillRight_state] at wrong
  have won : phases (!worker) = .returned true := (guards worker).resolve_right wrong
  refine ⟨worker, ?_, ?_⟩
  · rw [Function.update_of_ne (by simp), won]
  · rw [Function.update_self]
    cases at_phase : phases worker with
    | deleting => simp_all [nextPhase, nextBucket]
    | writing => simp_all [nextPhase]
    | reading => simp [at_phase] at wrong
    | rereading => simp [at_phase] at wrong
    | returned granted => simp [at_phase] at wrong
    | failed exc => simp [at_phase] at wrong

theorem bothWin_step {state next : State} {worker : Bool}
    (winning : race.InPhases race.BothWin state)
    (taken : race.machine.step state worker = some next) : race.InPhases race.BothWin next := by
  refine inPhases_step ?_ winning taken
  rintro phases bucket phase - moved ⟨winner, won, wins⟩
  by_cases self : winner = worker
  · subst winner
    refine ⟨worker, ?_, ?_⟩
    · rw [Function.update_of_ne (by simp), won]
    · rw [Function.update_self]
      obtain granted | ⟨absent, rereads | writes⟩ := wins
      · simp [granted, nextPhase] at moved
      · have blocked : race.afterReread worker (bucket.lock race.key) = .writing := by
          rw [Bucket.lock_of_absent absent]
          rfl
        simp_all [nextPhase, nextBucket]
      · simp_all [nextPhase]
  · -- the other worker has finished
    obtain rfl : worker = !winner := Bool.eq_not.mpr (Ne.symm self)
    simp [won, nextPhase] at moved

/-- Not both acquisitions return `True` exactly when every delete finds no lock or a stale one, and
every write a lock which does not block it. -/
theorem exclusive_iff (race : AcquireRace) {bucket : Bucket} {schedule : List Bool} {final : State}
    (run : race.machine.exec (race.start bucket) schedule = some final)
    (finished : ∀ worker, Finished final worker) :
    (¬∀ worker, Granted final worker) ↔
      race.machine.EveryStep race.StillRight (race.start bucket) schedule := by
  constructor
  · intro exclusive
    have guarded : race.InPhases race.Guarded (race.start bucket) :=
      ⟨_, bucket, start_eq race bucket, fun worker => .inr (by simp)⟩
    refine (race.machine.everyStep_or_of_trap guarded_step bothWin_of_wrong bothWin_step guarded
      run).resolve_right ?_
    rintro ⟨phases, last, rfl, winner, won, wins⟩
    have ends := finished_state.mp (finished winner)
    have granted : phases winner = .returned true := by
      obtain granted | ⟨-, rereads | writes⟩ := wins
      · exact granted
      · simp [rereads] at ends
      · simp [writes] at ends
    refine exclusive fun worker => granted_state.mpr ?_
    by_cases self : worker = winner
    · rw [self, granted]
    · rw [Bool.eq_not.mpr self, won]
  · intro right
    have kept : race.InPhases race.KeepsLocks (race.start bucket) :=
      ⟨_, bucket, start_eq race bucket, by simp [KeepsLocks]⟩
    exact not_both_of_keepsLocks
      (race.machine.exec_invariant_of_everyStep keepsLocks_step kept run right)

/-! ### Two schedules -/

/-- Two workers acquire one partition at the same time. -/
def simultaneous : AcquireRace where
  fleet := UniformFleet.pair
  partitionId := "event_date=2024-06-11/event_hour=10"
  time _ := 0
  runId _ := none
  time_lt _ := by decide

theorem exclusive_iff_oneAfterTheOther :
    simultaneous.machine.EveryStep simultaneous.StillRight (simultaneous.start fun _ => none)
      [true, true, true, false, false] := by
  obtain ⟨final, run, finished, refused⟩ :
      ∃ final, simultaneous.machine.exec (simultaneous.start fun _ => none)
          [true, true, true, false, false] = some final ∧
        (∀ worker, Finished final worker) ∧ final.threads false = .done false :=
    ⟨_, rfl, fun worker => by cases worker <;> trivial, rfl⟩
  refine (exclusive_iff simultaneous run finished).mp fun both => ?_
  have granted : final.threads false = .done true := both false
  simp [refused] at granted

/-- Both workers read twice before either of them writes. -/
theorem both_read_before_writing :
    ∃ final, simultaneous.machine.exec (simultaneous.start fun _ => none)
        [true, false, true, false, true, false] = some final ∧
      ∀ worker, Granted final worker :=
  ⟨_, rfl, fun worker => by cases worker <;> rfl⟩

end AcquireRace

end Lakehouse
