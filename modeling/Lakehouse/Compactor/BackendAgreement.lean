import Lakehouse.Compactor.LocalLocks

/-!
# Agreement of the back ends

From corresponding stores, the same calls return the same on local files and on the bucket, and the
stores still correspond.
-/

namespace Lakehouse

open Foundation
open Foundation.Posix (Path Name Place FileSystem)

/-! ## Runs -/

/-- One call of a manager on a partition, and the time at which it is made. -/
structure LockCall where
  manager : LockManager
  eventDate : String
  eventHour : Nat
  operation : LockOperation
  clock : Int

def LockCall.partitionId (call : LockCall) : String :=
  partitionIdText call.eventDate call.eventHour

/-- Make calls in turn; an exception ends only its own call. -/
def runCalls {σ : Type} (run : LockCall → σ → Except PyException (Option Bool) × σ) :
    List LockCall → σ → List (Except PyException (Option Bool)) × σ
  | [], world => ([], world)
  | call :: calls, world =>
      let (outcome, later) := run call world
      let (outcomes, last) := runCalls run calls later
      (outcome :: outcomes, last)

def runS3By (rules : TimeRules) :
    List LockCall → Bucket → List (Except PyException (Option Bool)) × Bucket :=
  runCalls fun call =>
    ((call.manager.s3By rules).perform call.manager call.partitionId call.operation).runWith
      (serve call.clock)

def runLocalBy (rules : TimeRules) (workingDirectory : Place) :
    List LockCall → FileSystem LockBody →
      List (Except PyException (Option Bool)) × FileSystem LockBody :=
  runCalls fun call =>
    ((call.manager.localFilesBy rules).perform call.manager call.partitionId call.operation).runWith
      (serveLocal workingDirectory call.clock)

theorem runS3By_cons (rules : TimeRules) (call : LockCall) (calls : List LockCall)
    (bucket : Bucket) :
    runS3By rules (call :: calls) bucket =
      ((((call.manager.s3By rules).perform call.manager call.partitionId call.operation).runWith
          (serve call.clock) bucket).1 ::
        (runS3By rules calls (((call.manager.s3By rules).perform call.manager call.partitionId
          call.operation).runWith (serve call.clock) bucket).2).1,
        (runS3By rules calls (((call.manager.s3By rules).perform call.manager call.partitionId
          call.operation).runWith (serve call.clock) bucket).2).2) := rfl

/-- The calls on the line of times. -/
def runS3 : List LockCall → Bucket → List (Except PyException (Option Bool)) × Bucket :=
  runS3By .exact

def runLocal (workingDirectory : Place) :
    List LockCall → FileSystem LockBody →
      List (Except PyException (Option Bool)) × FileSystem LockBody :=
  runLocalBy .exact workingDirectory

/-! ## Corresponding stores -/

/-- A file holds what the object holds, and no other file is where a directory is needed. -/
structure Corresponds (basePath : String) (workingDirectory : Place) (bucket : Bucket)
    (files : FileSystem LockBody) : Prop where
  start : files (startOf workingDirectory (Path.parse basePath.toList)) = some .directory
  needed : ∀ (eventDate : String) (eventHour : Nat), IsDirectoryDate eventDate →
    ∀ place ∈ neededDirectories basePath workingDirectory (partitionIdText eventDate eventHour),
      ∀ content, files place ≠ some (.file content)
  lock : ∀ (eventDate : String) (eventHour : Nat), IsDirectoryDate eventDate →
    files (lockPlace basePath workingDirectory (partitionIdText eventDate eventHour)) =
      (bucket (lockFilePath basePath (partitionIdText eventDate eventHour))).map .file

/-! ## Simulation -/

section Simulation

variable {basePath : String} {workingDirectory : Place} {eventDate : String} {eventHour : Nat}
  {bucket : Bucket} {files : FileSystem LockBody}

theorem start_mem_neededDirectories (plain : IsDirectoryDate eventDate) :
    startOf workingDirectory (Path.parse basePath.toList) ∈
      neededDirectories basePath workingDirectory (partitionIdText eventDate eventHour) := by
  rw [neededDirectories_eq plain]
  exact List.mem_append_left _ Posix.start_mem_walk

theorem startOf_localLockPath (plain : IsDirectoryDate eventDate) :
    startOf workingDirectory (localLockPath basePath (partitionIdText eventDate eventHour)) =
      startOf workingDirectory (Path.parse basePath.toList) := by
  rw [localLockPath_eq basePath eventHour plain]
  rfl

/-- Making the directories of a lock file keeps the correspondence. -/
theorem Corresponds.withDirectories (avoids : AvoidsLocks basePath workingDirectory)
    (plain : IsDirectoryDate eventDate)
    (corresponds : Corresponds basePath workingDirectory bucket files) :
    Corresponds basePath workingDirectory bucket
      (files.withDirectories
        (neededDirectories basePath workingDirectory (partitionIdText eventDate eventHour))) where
  start := if_pos (start_mem_neededDirectories plain)
  needed other hour other_plain place needed content := by
    unfold FileSystem.withDirectories
    split
    · simp
    · exact corresponds.needed other hour other_plain place needed content
  lock other hour other_plain := by
    rw [FileSystem.withDirectories,
      if_neg (lockPlace_not_mem_neededDirectories avoids other_plain plain)]
    exact corresponds.lock other hour other_plain

/-- Writing or removing the file and the object of a lock keeps the correspondence. -/
theorem Corresponds.update (avoids : AvoidsLocks basePath workingDirectory)
    (plain : IsDirectoryDate eventDate)
    (corresponds : Corresponds basePath workingDirectory bucket files) (body : Option LockBody) :
    Corresponds basePath workingDirectory
      (Function.update bucket (lockFilePath basePath (partitionIdText eventDate eventHour)) body)
      (Function.update files
        (lockPlace basePath workingDirectory (partitionIdText eventDate eventHour))
        (body.map .file)) where
  start := by
    have other : startOf workingDirectory (Path.parse basePath.toList) ≠
        lockPlace basePath workingDirectory (partitionIdText eventDate eventHour) := by
      intro same
      apply lockPlace_not_mem_neededDirectories avoids plain plain
      rw [← same]
      exact @start_mem_neededDirectories _ _ _ eventHour plain
    rw [Function.update_of_ne other]
    exact corresponds.start
  needed other hour other_plain place needed content := by
    have apart : place ≠
        lockPlace basePath workingDirectory (partitionIdText eventDate eventHour) := by
      intro same
      rw [same] at needed
      exact lockPlace_not_mem_neededDirectories avoids plain other_plain needed
    rw [Function.update_of_ne apart]
    exact corresponds.needed other hour other_plain place needed content
  lock other hour other_plain := by
    by_cases same : other = eventDate ∧ hour = eventHour
    · obtain ⟨rfl, rfl⟩ := same
      rw [Function.update_self, Function.update_self]
    · have places : lockPlace basePath workingDirectory (partitionIdText other hour) ≠
          lockPlace basePath workingDirectory (partitionIdText eventDate eventHour) :=
        fun equal => same (lockPlace_inj other_plain plain equal)
      have keys : lockFilePath basePath (partitionIdText other hour) ≠
          lockFilePath basePath (partitionIdText eventDate eventHour) := by
        intro equal
        obtain ⟨dates, hours⟩ := partitionIdText_inj.mp (lockFilePath_inj.mp equal)
        exact same ⟨dates, Int.ofNat_inj.mp hours⟩
      rw [Function.update_of_ne places, Function.update_of_ne keys]
      exact corresponds.lock other hour other_plain

theorem nul_not_mem_dateName (plain : IsDirectoryDate eventDate) :
    '\x00' ∉ dateName eventDate := by
  intro member
  rcases List.mem_append.mp member with name | date
  · exact absurd name (by decide)
  · exact plain.nul_free date

theorem nul_not_mem_lockName (eventHour : Nat) : '\x00' ∉ lockName eventHour := by
  intro member
  rcases List.mem_append.mp member with hour | extension
  · rcases List.mem_append.mp hour with name | digits
    · exact absurd name (by decide)
    · exact not_mem_toString_int (by decide) (by decide) eventHour digits
  · exact absurd extension (by decide)

/-- No part of the path of a lock file holds a NUL. -/
theorem nul_not_mem_localLockPath (nul_free : '\x00' ∉ basePath.toList)
    (plain : IsDirectoryDate eventDate) {part : Name}
    (member : part ∈ (localLockPath basePath (partitionIdText eventDate eventHour)).parts) :
    '\x00' ∉ part := by
  rw [localLockPath_eq basePath eventHour plain] at member
  rcases List.mem_append.mp member with above | last
  · rcases List.mem_append.mp above with base | date
    · exact fun inside => nul_free (Posix.mem_of_mem_components base inside)
    · rw [List.mem_singleton.mp date]
      exact nul_not_mem_dateName plain
  · rw [List.mem_singleton.mp last]
    exact nul_not_mem_lockName eventHour

/-- Neither the path of a lock file nor that of its directory is refused. -/
theorem checkNul_localLockPath (nul_free : '\x00' ∉ basePath.toList)
    (plain : IsDirectoryDate eventDate) :
    checkNul (localLockPath basePath (partitionIdText eventDate eventHour)) = .ok () ∧
      checkNul (localLockPath basePath (partitionIdText eventDate eventHour)).parent = .ok () := by
  constructor
  · apply if_neg
    rintro ⟨part, member, inside⟩
    exact nul_not_mem_localLockPath nul_free plain member inside
  · apply if_neg
    rintro ⟨part, member, inside⟩
    exact nul_not_mem_localLockPath nul_free plain (Path.mem_parts_of_mem_parent member) inside

variable {manager : LockManager} {clock : Int}

/-- `_local_path` makes the directories of the lock file. -/
theorem runWith_localPath (nul_free : '\x00' ∉ manager.config.lockBasePath.toList)
    (plain : IsDirectoryDate eventDate)
    (corresponds : Corresponds manager.config.lockBasePath workingDirectory bucket files) :
    (manager.localPath (partitionIdText eventDate eventHour)).runWith
        (serveLocal workingDirectory clock) files =
      (.ok (localLockPath manager.config.lockBasePath (partitionIdText eventDate eventHour)),
        files.withDirectories (neededDirectories manager.config.lockBasePath workingDirectory
          (partitionIdText eventDate eventHour))) := by
  have checked := (@checkNul_localLockPath _ _ eventHour nul_free plain).2
  have start := corresponds.start
  have needed := corresponds.needed eventDate eventHour plain
  rw [← @startOf_localLockPath _ _ _ eventHour plain] at start
  rw [neededDirectories] at needed ⊢
  rw [LockManager.localPath]
  generalize localLockPath manager.config.lockBasePath (partitionIdText eventDate eventHour) = path
    at checked start needed ⊢
  have made : FileSystem.mkdirs (startOf workingDirectory path.parent)
      path.parent.parts.reverse files = _ := FileSystem.mkdirs_eq start needed
  simp only [Program.perform_bind, Program.runWith_call, serveLocal, localReply, checked, made]
  rfl

/-- Below its directories the lock file is found at its place. -/
theorem resolve_localLockPath (plain : IsDirectoryDate eventDate)
    (below : ∀ place ∈ neededDirectories basePath workingDirectory
      (partitionIdText eventDate eventHour), files place = some .directory) :
    files.resolve
        (startOf workingDirectory (localLockPath basePath (partitionIdText eventDate eventHour)))
        (localLockPath basePath (partitionIdText eventDate eventHour)).parts =
      .ok (lockPlace basePath workingDirectory (partitionIdText eventDate eventHour)) := by
  rw [neededDirectories, localLockPath_eq basePath eventHour plain, Path.parent,
    List.dropLast_concat] at below
  rw [lockPlace, localLockPath_eq basePath eventHour plain, Posix.destination_snoc]
  exact FileSystem.resolve_snoc_of_directories below _

section Accesses

variable (avoids : AvoidsLocks manager.config.lockBasePath workingDirectory)
  (nul_free : '\x00' ∉ manager.config.lockBasePath.toList) (plain : IsDirectoryDate eventDate)

include avoids nul_free plain

/-- After `_local_path` the stores still correspond, and the lock file is found at its place. -/
theorem exists_located
    (corresponds : Corresponds manager.config.lockBasePath workingDirectory bucket files) :
    ∃ path later,
      (manager.localPath (partitionIdText eventDate eventHour)).runWith
        (serveLocal workingDirectory clock) files = (.ok path, later) ∧
      Corresponds manager.config.lockBasePath workingDirectory bucket later ∧
      checkNul path = .ok () ∧
      later.resolve (startOf workingDirectory path) path.parts =
        .ok (lockPlace manager.config.lockBasePath workingDirectory
          (partitionIdText eventDate eventHour)) :=
  ⟨_, _, runWith_localPath nul_free plain corresponds,
    corresponds.withDirectories avoids plain, (checkNul_localLockPath nul_free plain).1,
    resolve_localLockPath plain fun _ passed => if_pos passed⟩

theorem sameRun_readLock (rules : TimeRules) :
    Program.SameRun (serve clock) (serveLocal workingDirectory clock)
      (Corresponds manager.config.lockBasePath workingDirectory)
      ((manager.s3By rules).readLock (partitionIdText eventDate eventHour))
      (manager.readLockLocal rules (partitionIdText eventDate eventHour)) := by
  intro bucket files corresponds
  obtain ⟨path, later, located, kept, checked, found⟩ :=
    @exists_located _ _ eventHour _ _ _ clock avoids nul_free plain corresponds
  have lock := kept.lock eventDate eventHour plain
  rw [LockManager.runWith_readLock_by, LockManager.readLockLocal,
    Program.runWith_bind_of_ok _ located, LockManager.storagePath]
  generalize lockPlace manager.config.lockBasePath workingDirectory
    (partitionIdText eventDate eventHour) = place at found lock
  generalize lockFilePath manager.config.lockBasePath (partitionIdText eventDate eventHour) = key
    at lock ⊢
  have exists_eq := FileSystem.pathExists_eq found
  simp only [Program.perform_bind, Program.runWith_call, serveLocal, checked, exists_eq, lock]
  cases stored : bucket key with
  | none =>
      simp only [Bucket.lockBy, stored]
      exact ⟨rfl, kept⟩
  | some body =>
      rw [stored] at lock
      have read := FileSystem.read_of_file found lock
      simp only [Option.map_some, Option.isSome_some, if_true, Program.runWith_call, serveLocal,
        localReply, checked, read, Except.mapError, Program.ofExcept_ok, Program.done_bind,
        Program.runWith_ofExcept, Bucket.lockBy, stored]
      exact ⟨trivial, kept⟩

theorem sameRun_writeLock {lock : CompactionLock}
    (of_partition : lock.partitionId = partitionIdText eventDate eventHour) :
    Program.SameRun (serve clock) (serveLocal workingDirectory clock)
      (Corresponds manager.config.lockBasePath workingDirectory)
      (manager.writeLock lock) (manager.writeLockLocal lock) := by
  intro bucket files corresponds
  obtain ⟨path, later, located, kept, checked, found⟩ :=
    @exists_located _ _ eventHour _ _ _ clock avoids nul_free plain corresponds
  have no_directory : later (lockPlace manager.config.lockBasePath workingDirectory
      (partitionIdText eventDate eventHour)) ≠ some .directory := by
    rw [kept.lock eventDate eventHour plain]
    cases bucket (lockFilePath manager.config.lockBasePath (partitionIdText eventDate eventHour))
      <;> simp
  have written := FileSystem.write_of_not_directory found no_directory lock.toJson
  have updated := @Corresponds.update _ _ _ eventHour _ _ avoids plain kept (some lock.toJson)
  rw [LockManager.writeLock, LockManager.writeLockLocal, of_partition,
    Program.runWith_bind_of_ok _ located, LockManager.storagePath]
  simp only [Program.perform_bind, Program.runWith_call, serveLocal, localReply, checked, written,
    serve, LockManager.writeReply, Except.mapError, Program.ofExcept_ok, Program.runWith_done]
  exact ⟨trivial, updated⟩

theorem sameRun_deleteLock :
    Program.SameRun (serve clock) (serveLocal workingDirectory clock)
      (Corresponds manager.config.lockBasePath workingDirectory)
      (manager.deleteLock (partitionIdText eventDate eventHour))
      (manager.deleteLockLocal (partitionIdText eventDate eventHour)) := by
  intro bucket files corresponds
  obtain ⟨path, later, located, kept, checked, found⟩ :=
    @exists_located _ _ eventHour _ _ _ clock avoids nul_free plain corresponds
  have lock := kept.lock eventDate eventHour plain
  have updated := @Corresponds.update _ _ _ eventHour _ _ avoids plain kept none
  have exists_eq := FileSystem.pathExists_eq found
  rw [LockManager.deleteLock, LockManager.deleteLockLocal, Program.runWith_bind_of_ok _ located,
    LockManager.storagePath]
  generalize lockPlace manager.config.lockBasePath workingDirectory
    (partitionIdText eventDate eventHour) = place at found lock updated exists_eq
  generalize lockFilePath manager.config.lockBasePath (partitionIdText eventDate eventHour) = key
    at lock updated ⊢
  simp only [Program.perform_bind, Program.runWith_call, serve, serveLocal, checked, exists_eq,
    lock, LockManager.deleteReply, Program.ofExcept_ok, Program.runWith_done]
  cases stored : bucket key with
  | none =>
      rw [stored, Option.map_none] at lock
      have same : Function.update later place none = later := by
        rw [← lock, Function.update_eq_self]
      rw [Option.map_none, same] at updated
      exact ⟨rfl, updated⟩
  | some body =>
      rw [stored] at lock
      have removed := FileSystem.remove_of_file found lock
      simp only [Option.map_some, Option.isSome_some, if_true, Program.runWith_call, serveLocal,
        localReply, checked, removed, Except.mapError, Program.ofExcept_ok, Program.runWith_done]
      exact ⟨trivial, updated⟩

theorem sameBackend_localFiles (rules : TimeRules) :
    SameBackend (serve clock) (serveLocal workingDirectory clock)
      (Corresponds manager.config.lockBasePath workingDirectory)
      (partitionIdText eventDate eventHour) (manager.s3By rules) (manager.localFilesBy rules) where
  rules := rfl
  readLock := sameRun_readLock avoids nul_free plain rules
  writeLock _ := sameRun_writeLock avoids nul_free plain
  deleteLock := sameRun_deleteLock avoids nul_free plain
  clock _ _ corresponds := ⟨rfl, corresponds⟩

end Accesses

/-- The managers share `lock_base_path`, and the partitions are dated. -/
def IsCallBelow (basePath : String) (call : LockCall) : Prop :=
  call.manager.config.lockBasePath = basePath ∧ IsDirectoryDate call.eventDate

/-- Calls in turn return the same from both back ends and keep the stores corresponding. -/
theorem runLocal_of_corresponds (rules : TimeRules) (avoids : AvoidsLocks basePath workingDirectory)
    (nul_free : '\x00' ∉ basePath.toList) {calls : List LockCall}
    (below : ∀ call ∈ calls, IsCallBelow basePath call)
    (corresponds : Corresponds basePath workingDirectory bucket files) :
    (runLocalBy rules workingDirectory calls files).1 = (runS3By rules calls bucket).1 ∧
      Corresponds basePath workingDirectory (runS3By rules calls bucket).2
        (runLocalBy rules workingDirectory calls files).2 := by
  induction calls generalizing bucket files with
  | nil => exact ⟨rfl, corresponds⟩
  | cons call calls ih =>
      obtain ⟨rfl, plain⟩ := below call List.mem_cons_self
      have same : SameBackend (serve call.clock) (serveLocal workingDirectory call.clock)
          (Corresponds call.manager.config.lockBasePath workingDirectory) call.partitionId
          (call.manager.s3By rules) (call.manager.localFilesBy rules) :=
        sameBackend_localFiles avoids nul_free plain rules
      obtain ⟨outcome, later⟩ := same.perform call.manager call.operation bucket files corresponds
      obtain ⟨outcomes, last⟩ :=
        ih (fun other member => below other (List.mem_cons_of_mem call member)) later
      exact ⟨congrArg₂ List.cons outcome.symm outcomes, last⟩

end Simulation

/-- A tree of one directory. -/
def emptyTree : FileSystem LockBody :=
  fun place => if place = [] then some .directory else none

/-- The empty stores correspond. -/
theorem corresponds_empty (basePath : String) :
    Corresponds basePath [] (fun _ => none) emptyTree where
  start := by
    apply if_pos
    unfold startOf
    split <;> rfl
  needed _ _ _ place _ content := by
    unfold emptyTree
    split <;> simp
  lock eventDate eventHour plain := by
    rw [lockPlace_eq plain]
    exact if_neg (List.append_ne_nil_of_right_ne_nil _ (List.cons_ne_nil _ _))

/-- **The back ends are interchangeable.** -/
theorem localLocks_refine_s3Locks {basePath : String} {workingDirectory : Place}
    (avoids : AvoidsLocks basePath workingDirectory) (nul_free : '\x00' ∉ basePath.toList) :
    (∀ (calls : List LockCall) (bucket : Bucket) (files : FileSystem LockBody),
      (∀ call ∈ calls, IsCallBelow basePath call) →
      Corresponds basePath workingDirectory bucket files →
        (runLocal workingDirectory calls files).1 = (runS3 calls bucket).1 ∧
          Corresponds basePath workingDirectory (runS3 calls bucket).2
            (runLocal workingDirectory calls files).2) ∧
    (∀ (eventDate eventDate' : String) (eventHour eventHour' : Nat),
      IsDirectoryDate eventDate → IsDirectoryDate eventDate' →
      (eventDate, eventHour) ≠ (eventDate', eventHour') →
        lockFilePath basePath (partitionIdText eventDate eventHour) ≠
            lockFilePath basePath (partitionIdText eventDate' eventHour') ∧
          lockPlace basePath workingDirectory (partitionIdText eventDate eventHour) ≠
            lockPlace basePath workingDirectory (partitionIdText eventDate' eventHour')) ∧
    (∀ (eventDate eventDate' : String) (eventHour eventHour' : Nat),
      IsDirectoryDate eventDate → IsDirectoryDate eventDate' →
        lockPlace basePath workingDirectory (partitionIdText eventDate eventHour) ∉
          neededDirectories basePath workingDirectory
            (partitionIdText eventDate' eventHour')) := by
  refine ⟨?_, ?_, ?_⟩
  · intro calls bucket files below corresponds
    exact runLocal_of_corresponds .exact avoids nul_free below corresponds
  · intro eventDate eventDate' eventHour eventHour' plain plain' distinct
    constructor
    · intro same
      obtain ⟨rfl, hours⟩ := partitionIdText_inj.mp (lockFilePath_inj.mp same)
      exact distinct (congrArg (Prod.mk eventDate) (Int.ofNat_inj.mp hours))
    · intro same
      obtain ⟨rfl, rfl⟩ := lockPlace_inj plain plain' same
      exact distinct rfl
  · intro eventDate eventDate' eventHour eventHour' plain plain'
    exact lockPlace_not_mem_neededDirectories avoids plain plain'

/-- The calls of two workers on two partitions. -/
def sampleCalls : List LockCall :=
  [{ manager := { config := {}, ownerId := "worker-a" }, eventDate := "2024-06-11", eventHour := 9
     operation := .acquire (some 0) none, clock := 0 },
   { manager := { config := {}, ownerId := "worker-b" }, eventDate := "2024-06-11", eventHour := 9
     operation := .acquire none none, clock := seconds 10 },
   { manager := { config := {}, ownerId := "worker-b" }, eventDate := "2024-06-11", eventHour := 10
     operation := .acquire none none, clock := seconds 11 },
   { manager := { config := {}, ownerId := "worker-a" }, eventDate := "2024-06-11", eventHour := 9
     operation := .release, clock := seconds 12 }]

/-- The back ends agree on these calls, from the empty stores. -/
theorem localLocks_refine_s3Locks_sample :
    (runLocal [] sampleCalls emptyTree).1 = (runS3 sampleCalls fun _ => none).1 := by
  have descending : Posix.IsDescending (Path.parse "locks/compaction".toList).parts := by
    unfold Posix.IsDescending
    decide
  have below : ∀ call ∈ sampleCalls, IsCallBelow "locks/compaction" call := by
    have plain : IsDirectoryDate "2024-06-11" := ⟨by decide, by decide, by decide⟩
    simp [sampleCalls, IsCallBelow, plain]
  exact ((localLocks_refine_s3Locks (avoidsLocks_of_isDescending descending) (by decide)).1
    sampleCalls _ _ below (corresponds_empty "locks/compaction")).1

/-- A base which passes through the file of a lock makes a directory of it. -/
theorem localLocks_obstructed :
    Corresponds "event_date=2024-06-11/event_hour=9.lock/../.." [] (fun _ => none) emptyTree ∧
      IsDirectoryDate "2024-06-11" ∧
      ∃ call : LockCall,
        IsCallBelow "event_date=2024-06-11/event_hour=9.lock/../.." call ∧
          (runLocal [] [call] emptyTree).1 ≠ (runS3 [call] fun _ => none).1 := by
  have plain : IsDirectoryDate "2024-06-11" := ⟨by decide, by decide, by decide⟩
  refine ⟨corresponds_empty _, plain, ?_⟩
  let call : LockCall :=
    { manager :=
        { config := { lockBasePath := "event_date=2024-06-11/event_hour=9.lock/../.." }
          ownerId := "worker-a" }
      eventDate := "2024-06-11", eventHour := 9, operation := .acquire (some 0) none, clock := 0 }
  refine ⟨call, ⟨rfl, plain⟩, ?_⟩
  have raised : (runLocal [] [call] emptyTree).1 = [.error (osException .isADirectory)] := by
    decide +kernel
  have granted : (runS3 [call] fun _ => none).1 = [.ok (some true)] := by decide +kernel
  rw [raised, granted]
  simp

end Lakehouse
