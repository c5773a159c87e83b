/-!
# Exceptions

The classes of `exceptions.py` that the handlers of the compactor tell apart.  An exception is its
class together with its text, `str(exc)`.
-/

namespace Lakehouse

/-- What an `except` clause can see of the type of an exception. -/
inductive ExceptionClass
  | compactionError
  | tableNotFoundError
  | emptyPartitionError
  | lockAcquisitionError
  | sparkCompactionError
  /-- Any other `Exception`, with the name of its type. -/
  | other (typeName : String)
  deriving DecidableEq, Repr

/-- A raised Python exception. -/
structure PyException where
  /-- The class of the exception. -/
  type : ExceptionClass
  /-- The text of `str(exc)`. -/
  message : String
  deriving DecidableEq, Repr

namespace PyException

/-- `isinstance(exc, CompactionError)`: the classes of the module all derive from it. -/
def isCompactionError (exc : PyException) : Bool :=
  match exc.type with
  | .other _ => false
  | _ => true

/-- `SparkCompactionError(partition_id, cause)`. -/
def sparkCompactionError (partitionId : String) (cause : PyException) : PyException where
  type := .sparkCompactionError
  message := "Spark compaction failed for " ++ partitionId ++ ": " ++ cause.message

/-- `EmptyPartitionError(message)`. -/
def emptyPartitionError (message : String) : PyException where
  type := .emptyPartitionError
  message := message

/-- `ValueError(message)`. -/
def valueError (message : String) : PyException where
  type := .other "ValueError"
  message := message

/-- `TypeError(message)`. -/
def typeError (message : String) : PyException where
  type := .other "TypeError"
  message := message

end PyException

section Results

universe u v

variable {ε : Type u} {α β : Type v}

@[simp]
theorem ok_bind (value : α) (next : α → Except ε β) : (Except.ok value >>= next) = next value :=
  rfl

@[simp]
theorem error_bind (exc : ε) (next : α → Except ε β) :
    ((Except.error exc : Except ε α) >>= next) = .error exc :=
  rfl

@[simp]
theorem pure_eq_ok (value : α) : (pure value : Except ε α) = .ok value := rfl

/-- What returns has gone through each of its steps. -/
theorem exists_of_bind_eq_ok {first : Except ε α} {next : α → Except ε β} {result : β}
    (bound : first >>= next = .ok result) :
    ∃ value, first = .ok value ∧ next value = .ok result := by
  cases first with
  | error exc => simp at bound
  | ok value => exact ⟨value, rfl, bound⟩

end Results

end Lakehouse
