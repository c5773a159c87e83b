import Lakehouse.Compactor.LockBackend
import Lakehouse.Compactor.ObjectKeys
import Lakehouse.Foundation.Posix

/-!
# Locks in local files

With `use_local` the lock manager keeps its locks in files below `lock_base_path`.  The path of a
file is built segment by segment, where the key of an object is one concatenation.
-/

namespace Lakehouse

open Foundation
open Foundation.Posix (Path Name Place FileSystem OsError)

/-! ## The files as a back end -/

/-- The calls of the lock manager to the file system. -/
inductive LocalCall
  /-- `path.mkdir(parents=True, exist_ok=True)`. -/
  | mkdir (path : Path)
  | pathExists (path : Path)
  | readText (path : Path)
  | writeText (path : Path) (body : LockBody)
  | remove (path : Path)
  /-- `datetime.now(UTC)`. -/
  | now

abbrev LocalReply : LocalCall → Type
  | .mkdir _ => Except PyException Unit
  | .pathExists _ => Bool
  | .readText _ => Except PyException LockBody
  | .writeText _ _ => Except PyException Unit
  | .remove _ => Except PyException Unit
  | .now => Int

abbrev LocalProgram := Program LocalCall LocalReply PyException

/-- The file of a lock. -/
def localLockPath (basePath partitionId : String) : Path :=
  let current := (partitionId.toList.splitOn '/').foldl Path.join (Path.parse basePath.toList)
  Path.parse (current.text ++ ".lock".toList)

namespace LockManager

variable (manager : LockManager)

/-- `_local_path`; it creates the directories of the file. -/
def localPath (partitionId : String) : LocalProgram Path := do
  let lockPath := localLockPath manager.config.lockBasePath partitionId
  let made ← Program.perform (.mkdir lockPath.parent)
  Program.ofExcept made
  return lockPath

def readLockLocal (rules : TimeRules) (partitionId : String) :
    LocalProgram (Option CompactionLock) := do
  let path ← manager.localPath partitionId
  let found ← Program.perform (.pathExists path)
  if found then
    let text ← Program.perform (.readText path)
    let body ← Program.ofExcept text
    Program.ofExcept ((rules.fromJson body).map some)
  else
    return none

def writeLockLocal (lock : CompactionLock) : LocalProgram Unit := do
  let path ← manager.localPath lock.partitionId
  let written ← Program.perform (.writeText path lock.toJson)
  Program.ofExcept written

def deleteLockLocal (partitionId : String) : LocalProgram Unit := do
  let path ← manager.localPath partitionId
  let found ← Program.perform (.pathExists path)
  if found then
    let removed ← Program.perform (.remove path)
    Program.ofExcept removed
  else
    return ()

/-- The files as a back end. -/
def localFilesBy (rules : TimeRules) : LockBackend LocalCall LocalReply where
  rules := rules
  readLock := manager.readLockLocal rules
  writeLock := manager.writeLockLocal
  deleteLock := manager.deleteLockLocal
  clock := Program.perform LocalCall.now

end LockManager

/-- The exception of an error of the file system, without the path which its text ends with. -/
def osException : OsError → PyException
  | .fileNotFound =>
      { type := .other "FileNotFoundError", message := "[Errno 2] No such file or directory" }
  | .notADirectory =>
      { type := .other "NotADirectoryError", message := "[Errno 20] Not a directory" }
  | .fileExists => { type := .other "FileExistsError", message := "[Errno 17] File exists" }
  | .isADirectory => { type := .other "IsADirectoryError", message := "[Errno 21] Is a directory" }

/-- No path with a NUL reaches the file system. -/
def checkNul (path : Path) : Except PyException Unit :=
  if ∃ part ∈ path.parts, '\x00' ∈ part then
    .error (.valueError "embedded null byte")
  else
    .ok ()

/-- Where a path is followed from. -/
def startOf (workingDirectory : Place) (path : Path) : Place :=
  if path.root = [] then workingDirectory else []

/-- The reply to a call whose path has been checked. -/
def localReply {α : Type} (path : Path) (outcome : Except OsError α × FileSystem LockBody)
    (files : FileSystem LockBody) : Except PyException α × FileSystem LockBody :=
  match checkNul path with
  | .error exc => (.error exc, files)
  | .ok () => (outcome.1.mapError osException, outcome.2)

/-- A file system which answers every call, at a given time. -/
def serveLocal (workingDirectory : Place) (clock : Int) :
    (request : LocalCall) → FileSystem LockBody → LocalReply request × FileSystem LockBody
  | .mkdir path, files =>
      localReply path (FileSystem.mkdirs (startOf workingDirectory path) path.parts.reverse files)
        files
  | .pathExists path, files =>
      match checkNul path with
      | .error _ => (false, files)
      | .ok () => (files.pathExists (startOf workingDirectory path) path.parts, files)
  | .readText path, files =>
      localReply path (files.read (startOf workingDirectory path) path.parts, files) files
  | .writeText path body, files =>
      localReply path (files.write (startOf workingDirectory path) path.parts body) files
  | .remove path, files =>
      localReply path (files.remove (startOf workingDirectory path) path.parts) files
  | .now, files => (clock, files)

/-! ## Places of lock files -/

/-- The dates of partition directories. -/
structure IsDirectoryDate (eventDate : String) : Prop where
  nonempty : eventDate ≠ ""
  slash_free : '/' ∉ eventDate.toList
  nul_free : '\x00' ∉ eventDate.toList

/-- The place of a lock file. -/
def lockPlace (basePath : String) (workingDirectory : Place) (partitionId : String) : Place :=
  let path := localLockPath basePath partitionId
  Posix.destination (startOf workingDirectory path) path.parts

/-- The places which must be directories for a lock file. -/
def neededDirectories (basePath : String) (workingDirectory : Place) (partitionId : String) :
    List Place :=
  let path := localLockPath basePath partitionId
  Posix.walk (startOf workingDirectory path) path.parent.parts

/-- The places passed on the way along `lock_base_path`. -/
def basePlaces (basePath : String) (workingDirectory : Place) : List Place :=
  let path := Path.parse basePath.toList
  Posix.walk (startOf workingDirectory path) path.parts

/-- The way along `lock_base_path` does not pass the place of a lock file. -/
def AvoidsLocks (basePath : String) (workingDirectory : Place) : Prop :=
  ∀ (eventDate : String) (eventHour : Nat), IsDirectoryDate eventDate →
    lockPlace basePath workingDirectory (partitionIdText eventDate eventHour) ∉
      basePlaces basePath workingDirectory

/-! ## Paths of lock files -/

/-- The directory of a date. -/
def dateName (eventDate : String) : Name :=
  "event_date=".toList ++ eventDate.toList

/-- The name of the file of an hour, less its suffix. -/
def hourName (eventHour : Nat) : Name :=
  "event_hour=".toList ++ (toString (eventHour : Int)).toList

/-- The name of a lock file. -/
def lockName (eventHour : Nat) : Name :=
  hourName eventHour ++ ".lock".toList

theorem isComponent_dateName {eventDate : String} (plain : IsDirectoryDate eventDate) :
    Posix.IsComponent (dateName eventDate) := by
  have free : '/' ∉ dateName eventDate := by
    intro member
    rcases List.mem_append.mp member with name | date
    · exact absurd name (by decide)
    · exact plain.slash_free date
  exact @Posix.isComponent_cons 'e' _ (by decide) free

theorem isComponent_hourName (eventHour : Nat) : Posix.IsComponent (hourName eventHour) := by
  have free : '/' ∉ hourName eventHour := by
    intro member
    rcases List.mem_append.mp member with name | digits
    · exact absurd name (by decide)
    · exact slash_not_mem_toString_int eventHour digits
  exact @Posix.isComponent_cons 'e' _ (by decide) free

theorem splitOn_partitionIdText {eventDate : String} {eventHour : Nat}
    (plain : IsDirectoryDate eventDate) :
    (partitionIdText eventDate eventHour).toList.splitOn '/' =
      [dateName eventDate, hourName eventHour] := by
  have hour_eq : "/event_hour=".toList = '/' :: "event_hour=".toList := by decide
  have cut : ∀ dateKey date hourKey hour : List Char,
      dateKey ++ date ++ '/' :: hourKey ++ hour =
        List.intercalate ['/'] [dateKey ++ date, hourKey ++ hour] := by
    intro dateKey date hourKey hour
    simp [List.intercalate_cons_cons]
  have chars : (partitionIdText eventDate eventHour).toList =
      List.intercalate ['/'] [dateName eventDate, hourName eventHour] := by
    have joined : (partitionIdText eventDate eventHour).toList = "event_date=".toList ++
        eventDate.toList ++ "/event_hour=".toList ++ (toString (eventHour : Int)).toList := by
      simp only [partitionIdText, String.toList_append]
    rw [joined, hour_eq]
    exact cut _ _ _ _
  have date_free := (isComponent_dateName plain).2.2
  have hour_free := (isComponent_hourName eventHour).2.2
  rw [chars]
  generalize dateName eventDate = date at date_free ⊢
  generalize hourName eventHour = hour at hour_free ⊢
  exact List.splitOn_intercalate '/' (by simp [date_free, hour_free]) (by simp)

/-- The file of a lock stands in the directory of its date, below the base. -/
theorem localLockPath_eq (basePath : String) {eventDate : String} (eventHour : Nat)
    (plain : IsDirectoryDate eventDate) :
    localLockPath basePath (partitionIdText eventDate eventHour) =
      { root := (Path.parse basePath.toList).root
        parts := (Path.parse basePath.toList).parts ++ [dateName eventDate] ++
          [lockName eventHour] } := by
  have free : '/' ∉ ".lock".toList := by decide
  have date_proper := isComponent_dateName plain
  have hour_proper := isComponent_hourName eventHour
  have base := Path.proper_parse basePath.toList
  rw [localLockPath, splitOn_partitionIdText plain, lockName]
  generalize ".lock".toList = extension at free ⊢
  generalize dateName eventDate = date at date_proper ⊢
  generalize hourName eventHour = hour at hour_proper ⊢
  generalize Path.parse basePath.toList = path at base ⊢
  rw [List.foldl_cons, List.foldl_cons, List.foldl_nil, Path.join_of_isComponent path date_proper,
    Path.join_of_isComponent _ hour_proper]
  exact Path.parse_text_append (base.append date_proper) hour_proper free

section Places

variable {basePath : String} {workingDirectory : Place} {eventDate : String} {eventHour : Nat}

theorem follow_dateName (eventDate : String) (place : Place) :
    Posix.follow place (dateName eventDate) = place ++ [dateName eventDate] :=
  @Posix.follow_cons 'e' _ (by decide) place

theorem follow_lockName (eventHour : Nat) (place : Place) :
    Posix.follow place (lockName eventHour) = place ++ [lockName eventHour] :=
  @Posix.follow_cons 'e' _ (by decide) place

/-- The place where `lock_base_path` ends. -/
def basePlace (basePath : String) (workingDirectory : Place) : Place :=
  let path := Path.parse basePath.toList
  Posix.destination (startOf workingDirectory path) path.parts

theorem lockPlace_eq (plain : IsDirectoryDate eventDate) :
    lockPlace basePath workingDirectory (partitionIdText eventDate eventHour) =
      basePlace basePath workingDirectory ++ [dateName eventDate] ++ [lockName eventHour] := by
  rw [lockPlace, localLockPath_eq basePath eventHour plain, Posix.destination_snoc,
    Posix.destination_snoc, follow_dateName, follow_lockName]
  rfl

theorem neededDirectories_eq (plain : IsDirectoryDate eventDate) :
    neededDirectories basePath workingDirectory (partitionIdText eventDate eventHour) =
      basePlaces basePath workingDirectory ++
        [basePlace basePath workingDirectory ++ [dateName eventDate]] := by
  rw [neededDirectories, localLockPath_eq basePath eventHour plain, Path.parent,
    List.dropLast_concat, Posix.walk_snoc, follow_dateName]
  rfl

/-- Distinct partitions have distinct lock files. -/
theorem lockPlace_inj {eventDate' : String} {eventHour' : Nat} (plain : IsDirectoryDate eventDate)
    (plain' : IsDirectoryDate eventDate')
    (same : lockPlace basePath workingDirectory (partitionIdText eventDate eventHour) =
      lockPlace basePath workingDirectory (partitionIdText eventDate' eventHour')) :
    eventDate = eventDate' ∧ eventHour = eventHour' := by
  rw [lockPlace_eq plain, lockPlace_eq plain', List.append_assoc, List.append_assoc] at same
  have names := List.append_cancel_left same
  obtain ⟨dates, locks⟩ : dateName eventDate = dateName eventDate' ∧
      lockName eventHour = lockName eventHour' := by simpa using names
  have hours := List.append_cancel_left (List.append_cancel_right locks)
  refine ⟨String.toList_inj.mp (List.append_cancel_left dates), ?_⟩
  exact Int.ofNat_inj.mp (toString_int_inj.mp (String.toList_inj.mp hours))

/-- A lock file is never where a directory is needed. -/
theorem lockPlace_not_mem_neededDirectories (avoids : AvoidsLocks basePath workingDirectory)
    {eventDate' : String} {eventHour' : Nat} (plain : IsDirectoryDate eventDate)
    (plain' : IsDirectoryDate eventDate') :
    lockPlace basePath workingDirectory (partitionIdText eventDate eventHour) ∉
      neededDirectories basePath workingDirectory (partitionIdText eventDate' eventHour') := by
  rw [neededDirectories_eq plain', List.mem_append, not_or]
  refine ⟨avoids eventDate eventHour plain, ?_⟩
  rw [List.mem_singleton, lockPlace_eq plain]
  intro same
  have lengths := congrArg List.length same
  simp at lengths

/-- A base without `..` is as long as the way along it and shorter than any lock file. -/
theorem avoidsLocks_of_isDescending
    (descending : Posix.IsDescending (Path.parse basePath.toList).parts) :
    AvoidsLocks basePath workingDirectory := by
  intro eventDate eventHour plain passed
  have shorter := Posix.length_le_of_mem_walk descending passed
  have longer := congrArg List.length
    (@lockPlace_eq basePath workingDirectory eventDate eventHour plain)
  simp only [List.length_append, List.length_singleton] at longer
  rw [basePlace] at longer
  omega

end Places

end Lakehouse
