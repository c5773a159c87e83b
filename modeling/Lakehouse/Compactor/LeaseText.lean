import Lakehouse.Compactor.LockManager
import Lakehouse.Foundation.IsoFormat
import Lakehouse.Foundation.Json

/-!
# Locks as texts

A stored lock is a JSON object of texts, and its times are ISO texts with `Z` for UTC.  A lock which
`acquire` has written is read back with the times it was written at.
-/

namespace Lakehouse

open Foundation
open Foundation.Calendar (DateTime InRange)

/-! ## Times -/

/-- `_utc_now_iso(now)`. -/
def utcNowIso (instant : Int) : String :=
  String.ofList (Iso.writeZulu (DateTime.ofInstant instant) (some 0))

/-- What `datetime.fromisoformat` raises; for a time out of range the text is another. -/
def isoformatError (text : String) : PyException :=
  .valueError ("Invalid isoformat string: '" ++ text ++ "'")

/-- `_parse_iso`; a time without an offset is in UTC. -/
def parseIso (value : String) : Timestamp :=
  match Iso.readZulu value.toList with
  | some (time, offset) => .ok (time.instant - offset.getD 0)
  | none => .error (isoformatError value)

/-! ## Locks -/

/-- The fields of `CompactionLock`. -/
structure LockText where
  partitionId : String
  ownerId : String
  acquiredAt : String
  expiresAt : String
  runId : String
  deriving DecidableEq

/-- The members of an object of texts. -/
abbrev TextMembers := List (List Char × List Char)

/-- `data.get(name)`; of two members with one name the last counts. -/
def TextMembers.get (data : TextMembers) (name : String) : Option String :=
  (data.reverse.lookup name.toList).map String.ofList

namespace LockText

variable (lock : LockText)

def acquiredDatetime : Timestamp := parseIso lock.acquiredAt

def expiresDatetime : Timestamp := parseIso lock.expiresAt

/-- `asdict(lock)`. -/
def members : TextMembers :=
  [("partition_id".toList, lock.partitionId.toList), ("owner_id".toList, lock.ownerId.toList),
    ("acquired_at".toList, lock.acquiredAt.toList), ("expires_at".toList, lock.expiresAt.toList),
    ("run_id".toList, lock.runId.toList)]

def toJson : String := String.ofList (Json.dumps lock.members)

/-- The expiry of a lock which has none: an hour after its acquisition. -/
def defaultExpiry (acquiredAt : String) : Except PyException String :=
  match Iso.readZulu acquiredAt.toList with
  | none => .error (isoformatError acquiredAt)
  | some (acquired, offset) => do
      let expires ← plusDelta acquired.instant (hours 1)
      return String.ofList (Iso.writeZulu (DateTime.ofInstant expires) offset)

/-- The lock of an object of texts; an empty `expires_at` counts as missing. -/
def ofMembers (data : TextMembers) : Except PyException LockText := do
  let acquiredAt ← requiredMember "acquired_at" (data.get "acquired_at")
  let expiresAt ←
    match (data.get "expires_at").filter (· != "") with
    | some expiresAt => pure expiresAt
    | none => defaultExpiry acquiredAt
  let partitionId ← requiredMember "partition_id" (data.get "partition_id")
  let ownerId ← requiredMember "owner_id" (data.get "owner_id")
  let runId := (data.get "run_id").getD "unknown"
  return { partitionId, ownerId, acquiredAt, expiresAt, runId }

/-- `from_json` of an object of texts, and `none` for another text. -/
def fromJson (raw : String) : Option (Except PyException LockText) :=
  (Json.loads raw.toList).map ofMembers

/-- The lock with its times as `_parse_iso` reads them. -/
def decoded : CompactionLock where
  partitionId := lock.partitionId
  ownerId := lock.ownerId
  acquiredAt := lock.acquiredDatetime
  expiresAt := lock.expiresDatetime
  runId := lock.runId

end LockText

namespace LockManager

variable (manager : LockManager)

/-- The lock which `acquire` builds. -/
def newLockText (partitionId : String) (reference : Int) (runId : Option String) :
    Except PyException LockText := do
  let expires ← plusDelta reference (seconds manager.config.lockTimeoutSeconds)
  return {
    partitionId := partitionId
    ownerId := manager.ownerId
    acquiredAt := utcNowIso reference
    expiresAt := utcNowIso expires
    runId := (runId.filter (· != "")).getD manager.runId }

/-- `is_stale`. -/
def isStaleText (lock : LockText) (reference : Int) : Except PyException Bool :=
  TimeRules.datetime.isStale manager lock.decoded reference

end LockManager

/-! ## Round trips -/

/-- An instant is read back from its text. -/
theorem parseIso_utcNowIso {instant : Int} (range : InRange instant) :
    parseIso (utcNowIso instant) = .ok instant := by
  obtain ⟨valid, same⟩ := DateTime.ofInstant_spec range
  have read := Iso.readZulu_writeZulu valid
  rw [parseIso, utcNowIso, String.toList_ofList, read]
  simp [same]

theorem utcNowIso_ne_empty (instant : Int) : utcNowIso instant ≠ "" := by
  intro empty
  have chars := congrArg String.toList empty
  rw [utcNowIso, String.toList_ofList, Iso.writeZulu_eq] at chars
  simp at chars

theorem LockText.ofMembers_members {lock : LockText} (expiry : lock.expiresAt ≠ "") :
    ofMembers lock.members = .ok lock := by
  have partition : lock.members.get "partition_id" = some lock.partitionId :=
    congrArg some (String.ofList_toList)
  have owner : lock.members.get "owner_id" = some lock.ownerId :=
    congrArg some (String.ofList_toList)
  have acquired : lock.members.get "acquired_at" = some lock.acquiredAt :=
    congrArg some (String.ofList_toList)
  have expires : lock.members.get "expires_at" = some lock.expiresAt :=
    congrArg some (String.ofList_toList)
  have run : lock.members.get "run_id" = some lock.runId :=
    congrArg some (String.ofList_toList)
  have kept : (some lock.expiresAt).filter (· != "") = some lock.expiresAt := by
    simp [expiry]
  rw [ofMembers, partition, owner, acquired, expires, run, kept]
  rfl

/-- A lock with an expiry is read back from its text. -/
theorem LockText.fromJson_toJson {lock : LockText} (expiry : lock.expiresAt ≠ "") :
    fromJson lock.toJson = some (.ok lock) := by
  rw [fromJson, toJson, String.toList_ofList, Json.loads_dumps, Option.map_some,
    ofMembers_members expiry]

/-- The texts of a new lock are those of the lock which the operations write. -/
theorem LockManager.decoded_newLockText {manager : LockManager} {partitionId : String}
    {reference : Int} {runId : Option String} {lock : LockText} (range : InRange reference)
    (built : manager.newLockText partitionId reference runId = .ok lock) :
    TimeRules.datetime.newLock manager partitionId reference runId = .ok lock.decoded := by
  obtain ⟨expires, computed, returned⟩ := exists_of_bind_eq_ok built
  obtain rfl := Except.ok.inj returned
  have acquired_at := parseIso_utcNowIso range
  obtain ⟨rfl, expiry_range⟩ := inRange_of_plusDelta computed
  have expires_at := parseIso_utcNowIso expiry_range
  have summed : TimeRules.datetime.plus reference (seconds manager.config.lockTimeoutSeconds) =
      .ok (reference + seconds manager.config.lockTimeoutSeconds) := computed
  simp only [TimeRules.newLock, summed, LockText.decoded, LockText.acquiredDatetime,
    LockText.expiresDatetime, acquired_at, expires_at, lockUntil, ok_bind]
  rfl

/-! ## Staleness -/

/-- A lock is stale from its expiry on, if it has expired after the timeout of the judge. -/
theorem LockManager.isStaleText_eq {judge : LockManager} {lock : LockText} {acquired now : Int}
    (acquired_at : lock.acquiredDatetime = .ok acquired)
    (expires_at : lock.expiresDatetime =
      .ok (acquired + seconds judge.config.lockTimeoutSeconds))
    (range : InRange acquired) (now_range : InRange now) :
    judge.isStaleText lock now =
      .ok (decide (acquired + seconds judge.config.lockTimeoutSeconds ≤ now)) := by
  have acquired_eq : lock.decoded.acquiredAt = .ok acquired := acquired_at
  have expires_eq : lock.decoded.expiresAt =
      .ok (acquired + seconds judge.config.lockTimeoutSeconds) := expires_at
  rw [isStaleText, TimeRules.isStale, expires_eq, acquired_eq]
  by_cases expired : acquired + seconds judge.config.lockTimeoutSeconds ≤ now
  · simp [expired]
  · have young : ¬(judge.config.lockTimeoutSeconds : ℚ) < totalSeconds (now - acquired) :=
      not_lt.mpr (totalSeconds_le (by omega) (abs_sub_lt_of_inRange now_range range))
    simp [expired, TimeRules.datetime, young]

/-- **A lease survives its text.** -/
theorem lease_survives_text {manager : LockManager} {partitionId : String} {reference : Int}
    {runId : Option String} (range : InRange reference)
    (expiry_range : InRange (reference + seconds manager.config.lockTimeoutSeconds)) :
    ∃ written lock, manager.newLockText partitionId reference runId = .ok written ∧
      LockText.fromJson written.toJson = some (.ok lock) ∧
      lock.acquiredDatetime = .ok reference ∧
      lock.expiresDatetime = .ok (reference + seconds manager.config.lockTimeoutSeconds) ∧
      ∀ (judge : LockManager) (now : Int),
        judge.config.lockTimeoutSeconds = manager.config.lockTimeoutSeconds → InRange now →
          judge.isStaleText lock now =
            .ok (decide (reference + seconds manager.config.lockTimeoutSeconds ≤ now)) := by
  obtain ⟨written, built, expiry_eq, acquired_at⟩ : ∃ written,
      manager.newLockText partitionId reference runId = .ok written ∧
        written.expiresAt = utcNowIso (reference + seconds manager.config.lockTimeoutSeconds) ∧
        written.acquiredAt = utcNowIso reference := by
    rw [LockManager.newLockText, plusDelta_eq range expiry_range]
    exact ⟨_, rfl, rfl, rfl⟩
  have acquired : written.acquiredDatetime = .ok reference := by
    rw [LockText.acquiredDatetime, acquired_at, parseIso_utcNowIso range]
  have expires : written.expiresDatetime =
      .ok (reference + seconds manager.config.lockTimeoutSeconds) := by
    rw [LockText.expiresDatetime, expiry_eq, parseIso_utcNowIso expiry_range]
  have read : LockText.fromJson written.toJson = some (.ok written) :=
    LockText.fromJson_toJson (expiry_eq ▸ utcNowIso_ne_empty _)
  refine ⟨written, written, built, read, acquired, expires, ?_⟩
  intro judge now same_timeout now_range
  rw [← same_timeout] at expires ⊢
  exact LockManager.isStaleText_eq acquired expires range now_range

/-- A lease of an hour which starts within a second. -/
theorem lease_survives_text_sample :
    ∃ written lock, ({ config := {}, ownerId := "worker-a" } : LockManager).newLockText
        "event_date=2024-06-11/event_hour=9" 1718096400000001 none = .ok written ∧
      LockText.fromJson written.toJson = some (.ok lock) ∧
      lock.acquiredDatetime = .ok 1718096400000001 ∧
      lock.expiresDatetime = .ok (1718096400000001 + seconds 3600) ∧
      ({ config := {}, ownerId := "worker-b" } : LockManager).isStaleText lock 1718100000000000 =
        .ok false := by
  have range : InRange 1718096400000001 := by decide +kernel
  have expiry_range : InRange (1718096400000001 + seconds 3600) := by decide +kernel
  obtain ⟨written, lock, built, read, acquired, expires, stale⟩ := @lease_survives_text
    { config := {}, ownerId := "worker-a" } "event_date=2024-06-11/event_hour=9" _ none range
    expiry_range
  refine ⟨written, lock, built, read, acquired, expires, ?_⟩
  exact stale { config := {}, ownerId := "worker-b" } 1718100000000000 rfl (by decide +kernel)

end Lakehouse
