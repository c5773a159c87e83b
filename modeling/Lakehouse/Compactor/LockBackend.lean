import Lakehouse.Compactor.LockManager

/-!
# Back ends of the lock manager

The operations of the lock manager reach their storage only through the reads, writes and deletions
of a lock, and back ends whose accesses run the same make the operations run the same.
-/

namespace Lakehouse

open Foundation

/-- A call of a lock manager. -/
inductive LockOperation
  | acquire (now : Option Int) (runId : Option String)
  | release
  | cleanupStaleLock (now : Option Int)
  | isHeldBySelf
  deriving DecidableEq

namespace LockBackend

variable {Call : Type} {Reply : Call → Type} (backend : LockBackend Call Reply)
  (manager : LockManager) (partitionId : String)

/-- One call and the value it returns; `release` returns `None`. -/
def perform : LockOperation → Program Call Reply PyException (Option Bool)
  | .acquire now runId => do
      let granted ← backend.acquire manager partitionId now runId
      return some granted
  | .release => do
      backend.release manager partitionId
      return none
  | .cleanupStaleLock now => do
      let removed ← backend.cleanupStaleLock manager partitionId now
      return some removed
  | .isHeldBySelf => do
      let held ← backend.isHeldBySelf manager partitionId
      return some held

end LockBackend

/-! ## Back ends which run the same -/

/-- The new lock of a partition names it. -/
theorem TimeRules.partitionId_of_newLock {rules : TimeRules} {manager : LockManager}
    {partitionId : String} {reference : Int} {runId : Option String} {lock : CompactionLock}
    (built : rules.newLock manager partitionId reference runId = .ok lock) :
    lock.partitionId = partitionId := by
  obtain ⟨expires, -, returned⟩ := exists_of_bind_eq_ok built
  obtain rfl := Except.ok.inj returned
  rfl

/-- The accesses of two back ends to the lock of one partition run the same. -/
structure SameBackend {Call Call' : Type} {Reply : Call → Type} {Reply' : Call' → Type}
    {σ σ' : Type} (handle : (request : Call) → σ → Reply request × σ)
    (handle' : (request : Call') → σ' → Reply' request × σ') (related : σ → σ' → Prop)
    (partitionId : String) (backend : LockBackend Call Reply)
    (backend' : LockBackend Call' Reply') : Prop where
  rules : backend.rules = backend'.rules
  readLock : Program.SameRun handle handle' related (backend.readLock partitionId)
    (backend'.readLock partitionId)
  writeLock : ∀ lock : CompactionLock, lock.partitionId = partitionId →
    Program.SameRun handle handle' related (backend.writeLock lock) (backend'.writeLock lock)
  deleteLock : Program.SameRun handle handle' related (backend.deleteLock partitionId)
    (backend'.deleteLock partitionId)
  clock : Program.SameRun handle handle' related backend.clock backend'.clock

namespace SameBackend

variable {Call Call' : Type} {Reply : Call → Type} {Reply' : Call' → Type} {σ σ' : Type}
  {handle : (request : Call) → σ → Reply request × σ}
  {handle' : (request : Call') → σ' → Reply' request × σ'} {related : σ → σ' → Prop}
  {partitionId : String} {backend : LockBackend Call Reply} {backend' : LockBackend Call' Reply'}
  (same : SameBackend handle handle' related partitionId backend backend')
  (manager : LockManager)

include same

/-- What both compute by their rules is the same. -/
theorem compute {α : Type} (result : TimeRules → Except PyException α) :
    Program.SameRun handle handle' related (Program.ofExcept (result backend.rules))
      (Program.ofExcept (result backend'.rules)) := by
  rw [same.rules]
  exact Program.sameRun_ofExcept _

theorem orClock (now : Option Int) :
    Program.SameRun handle handle' related (backend.orClock now) (backend'.orClock now) := by
  cases now with
  | none => exact same.clock
  | some reference => exact Program.sameRun_done reference

theorem cleanupStaleLock (now : Option Int) :
    Program.SameRun handle handle' related (backend.cleanupStaleLock manager partitionId now)
      (backend'.cleanupStaleLock manager partitionId now) := by
  refine Program.sameRun_bind same.readLock fun existing => ?_
  cases existing with
  | none => exact Program.sameRun_done false
  | some existing =>
      refine Program.sameRun_bind (same.orClock now) fun reference => ?_
      refine Program.sameRun_bind
        (same.compute fun rules => rules.isStale manager existing reference) fun stale => ?_
      cases stale with
      | false => exact Program.sameRun_done false
      | true =>
          refine Program.sameRun_bind (Program.sameRun_ofExcept _) fun _ => ?_
          exact Program.sameRun_bind same.deleteLock fun _ => Program.sameRun_done true

theorem takeLock (reference : Int) (runId : Option String) :
    Program.SameRun handle handle' related (backend.takeLock manager partitionId reference runId)
      (backend'.takeLock manager partitionId reference runId) := by
  rw [LockBackend.takeLock, LockBackend.takeLock, ← same.rules]
  cases built : backend.rules.newLock manager partitionId reference runId with
  | error exc => exact fun _ _ start => ⟨rfl, start⟩
  | ok lock =>
      simp only [Program.ofExcept_ok, Program.done_bind]
      exact Program.sameRun_bind
        (same.writeLock lock (TimeRules.partitionId_of_newLock built)) fun _ =>
          Program.sameRun_done true

theorem acquire (now : Option Int) (runId : Option String) :
    Program.SameRun handle handle' related (backend.acquire manager partitionId now runId)
      (backend'.acquire manager partitionId now runId) := by
  refine Program.sameRun_bind (same.orClock now) fun reference => ?_
  refine Program.sameRun_bind (same.cleanupStaleLock manager _) fun _ => ?_
  refine Program.sameRun_bind same.readLock fun existing => ?_
  refine Program.sameRun_bind
    (same.compute fun rules => rules.isBlockedBy manager reference existing) fun blocked => ?_
  cases blocked with
  | true => exact Program.sameRun_done false
  | false => exact same.takeLock manager reference runId

theorem release :
    Program.SameRun handle handle' related (backend.release manager partitionId)
      (backend'.release manager partitionId) := by
  refine Program.sameRun_bind same.readLock fun existing => ?_
  cases existing with
  | none => exact Program.sameRun_done ()
  | some existing =>
      simp only [LockBackend.releaseRead]
      split
      · exact same.deleteLock
      · exact Program.sameRun_done ()

theorem isHeldBySelf :
    Program.SameRun handle handle' related (backend.isHeldBySelf manager partitionId)
      (backend'.isHeldBySelf manager partitionId) := by
  refine Program.sameRun_bind same.readLock fun existing => ?_
  cases existing <;> exact Program.sameRun_done _

theorem perform (operation : LockOperation) :
    Program.SameRun handle handle' related (backend.perform manager partitionId operation)
      (backend'.perform manager partitionId operation) := by
  cases operation with
  | acquire now runId =>
      exact Program.sameRun_bind (same.acquire manager now runId) fun _ => Program.sameRun_done _
  | release => exact Program.sameRun_bind (same.release manager) fun _ => Program.sameRun_done _
  | cleanupStaleLock now =>
      exact Program.sameRun_bind (same.cleanupStaleLock manager now) fun _ =>
        Program.sameRun_done _
  | isHeldBySelf =>
      exact Program.sameRun_bind (same.isHeldBySelf manager) fun _ => Program.sameRun_done _

end SameBackend

end Lakehouse
