import Lakehouse.Compactor.TargetSizing
import Lakehouse.Foundation.Dict

/-!
# Data quality

The validator of single records.  The standard library parses JSON, timestamps and numbers, and
what it raises is part of the result: the validator catches some types of exceptions only.
-/

namespace Lakehouse

open Foundation

/-- A floating-point number, as far as comparisons with zero tell. -/
inductive Double
  | nan
  | infinity (negative : Bool)
  | finite (value : ℚ)
  deriving DecidableEq

namespace Double

/-- `value < 0` -/
def isNegative : Double → Bool
  | nan => false
  | infinity negative => negative
  | finite value => value < 0

/-- `value >= 0` -/
def isAtLeastZero : Double → Bool
  | nan => false
  | infinity negative => !negative
  | finite value => 0 ≤ value

/-- NaN fails both comparisons. -/
theorem isAtLeastZero_eq (value : Double) :
    value.isAtLeastZero = (value ≠ .nan && !value.isNegative) := by
  cases value <;> simp [isAtLeastZero, isNegative, ← not_lt]

end Double

/-- A value which `json.loads` returns. -/
inductive JsonValue
  | null
  | boolean (value : Bool)
  | integer (value : Int)
  | real (value : Double)
  | text (value : String)
  | array (items : List JsonValue)
  | object (members : List (String × JsonValue))

/-- The `REASON_…` constants. -/
inductive RejectionReason
  | malformedJson
  | missingEventId
  | missingUserId
  | missingAccountId
  | missingEventType
  | nullEventTimestamp
  | invalidAmount
  deriving DecidableEq, Repr

def RejectionReason.text : RejectionReason → String
  | malformedJson => "malformed_json"
  | missingEventId => "missing_event_id"
  | missingUserId => "missing_user_id"
  | missingAccountId => "missing_account_id"
  | missingEventType => "missing_event_type"
  | nullEventTimestamp => "null_event_timestamp"
  | invalidAmount => "invalid_amount"

structure ValidationResult where
  isValid : Bool
  rejectionReason : Option RejectionReason := none
  deriving DecidableEq

namespace ValidationResult

def valid : ValidationResult :=
  { isValid := true }

def invalid (reason : RejectionReason) : ValidationResult :=
  { isValid := false, rejectionReason := some reason }

end ValidationResult

/-- The counts of one batch. -/
structure QualityMetrics where
  validRecordCount : Int
  badRecordCount : Int
  batchId : Int
  timestamp : Int
  deriving DecidableEq, Repr

def QualityMetrics.totalRecordCount (metrics : QualityMetrics) : Int :=
  metrics.validRecordCount + metrics.badRecordCount

def computeQualityMetrics (validCount badCount batchId timestamp : Int) : QualityMetrics where
  validRecordCount := validCount
  badRecordCount := badCount
  batchId := batchId
  timestamp := timestamp

/-- The characters which `str.strip` removes. -/
def isPySpace (c : Char) : Bool :=
  let code := c.toNat
  (9 ≤ code && code ≤ 13) || (28 ≤ code && code ≤ 32) || code = 0x85 || code = 0xa0 ||
    code = 0x1680 || (0x2000 ≤ code && code ≤ 0x200a) || code = 0x2028 || code = 0x2029 ||
    code = 0x202f || code = 0x205f || code = 0x3000

/-- `text.strip() == ""` -/
def isBlankText (text : String) : Bool :=
  text.toList.all isPySpace

@[simp]
theorem isBlankText_empty : isBlankText "" = true := by
  simp [isBlankText]

/-- The parts of the standard library which parse texts. -/
structure PythonRuntime where
  /-- `json.loads`; an object keeps its members as a dictionary does. -/
  loads : String → Except PyException JsonValue
  /-- A blank text is not JSON. -/
  loads_blank : ∀ raw value, isBlankText raw = true → loads raw ≠ .ok value
  /-- Whether `datetime.fromisoformat` returns. -/
  fromIsoformat : String → Except PyException Unit
  /-- `float` of a text; `none` is a `ValueError`. -/
  floatOfText : String → Option Double
  /-- `str` of a value which is not a text. -/
  repr : JsonValue → String

/-- `except (ValueError, TypeError)` -/
def PyException.isValueOrTypeError (exc : PyException) : Bool :=
  exc.type = .other "ValueError" || exc.type = .other "TypeError"

/-- `float` of an integer. -/
def floatOfInt (value : Int) : Except PyException Double :=
  let magnitude := roundToFloat |(value : ℚ)|
  if magnitude < 2 ^ 1024 then
    .ok (.finite (if value < 0 then -magnitude else magnitude))
  else
    .error { type := .other "OverflowError", message := "int too large to convert to float" }

/-- `isinstance(value, str) and value.strip() == ""`, or `None`. -/
def isBlank : JsonValue → Bool
  | .null => true
  | .text value => isBlankText value
  | _ => false

/-- What `float` raises for a value of another type. -/
def floatTypeError (typeName : String) : PyException :=
  .typeError ("float() argument must be a string or a real number, not '" ++ typeName ++ "'")

namespace PythonRuntime

variable (runtime : PythonRuntime)

/-- `str(value)` -/
def str : JsonValue → String
  | .text value => value
  | value => runtime.repr value

/-- `float(value)` -/
def float : JsonValue → Except PyException Double
  | .text value =>
      match runtime.floatOfText value with
      | some number => .ok number
      | none => .error (.valueError ("could not convert string to float: '" ++ value ++ "'"))
  | .boolean value => .ok (.finite (if value then 1 else 0))
  | .integer value => floatOfInt value
  | .real value => .ok value
  | .array _ => .error (floatTypeError "list")
  | .object _ => .error (floatTypeError "dict")
  | .null => .error (floatTypeError "NoneType")

end PythonRuntime

/-- `text.replace("Z", "+00:00")` -/
def replaceZ (text : String) : String :=
  String.ofList (text.toList.flatMap fun c => if c = 'Z' then "+00:00".toList else [c])

theorem replaceZ_of_not_mem {text : String} (absent : 'Z' ∉ text.toList) :
    replaceZ text = text := by
  have kept : (text.toList.flatMap fun c => if c = 'Z' then "+00:00".toList else [c]) =
      text.toList.flatMap fun c => [c] := by
    refine List.flatMap_congr fun c member => if_neg ?_
    rintro rfl
    exact absent member
  rw [replaceZ, kept, List.flatMap_singleton', String.ofList_toList]

variable (runtime : PythonRuntime)

def isValidTimestamp (value : JsonValue) : Except PyException Bool :=
  if isBlank value then
    .ok false
  else
    match runtime.fromIsoformat (replaceZ (runtime.str value)) with
    | .ok () => .ok true
    | .error exc => if exc.isValueOrTypeError then .ok false else .error exc

def isValidAmount (value : JsonValue) : Except PyException Bool :=
  if isBlank value then
    .ok true
  else
    match runtime.float value with
    | .ok number => .ok number.isAtLeastZero
    | .error exc => if exc.isValueOrTypeError then .ok false else .error exc

/-- The members of a JSON object. -/
abbrev JsonRecord := List (String × JsonValue)

/-- `record.get(field)` -/
def JsonRecord.get (record : JsonRecord) (field : String) : JsonValue :=
  (Dict.get? record field).getD .null

/-- The required texts with their reasons, in the order of the checks. -/
def fieldReasons : List (String × RejectionReason) :=
  [("event_id", .missingEventId), ("user_id", .missingUserId),
    ("account_id", .missingAccountId), ("event_type", .missingEventType)]

/-- What `validate_record` does with a record which has its required texts. -/
def validateContents (record : JsonRecord) : Except PyException ValidationResult := do
  if !(← isValidTimestamp runtime (record.get "event_timestamp")) then
    return .invalid .nullEventTimestamp
  if !(← isValidAmount runtime (record.get "amount")) then
    return .invalid .invalidAmount
  return .valid

def validateRecord : Option JsonRecord → Except PyException ValidationResult
  | none => .ok (.invalid .malformedJson)
  | some [] => .ok (.invalid .malformedJson)
  | some record =>
      match fieldReasons.find? fun entry => isBlank (record.get entry.1) with
      | some (_, reason) => .ok (.invalid reason)
      | none => validateContents runtime record

def parseJsonPayload (raw : String) :
    Except PyException (Option JsonRecord × Option RejectionReason) :=
  if isBlankText raw then
    .ok (none, some .malformedJson)
  else
    match runtime.loads raw with
    | .ok (.object record) => .ok (some record, none)
    | .ok _ => .ok (none, some .malformedJson)
    | .error exc =>
        if exc.type = .other "JSONDecodeError" then
          .ok (none, some .malformedJson)
        else
          .error exc

def validateJsonString (raw : String) :
    Except PyException (ValidationResult × Option JsonRecord) := do
  let (record, parseReason) ← parseJsonPayload runtime raw
  match parseReason with
  | some reason => return (.invalid reason, none)
  | none => do
      let result ← validateRecord runtime record
      return (result, record)

/-- The verdict on a text which is a JSON object is that on its record. -/
theorem validateJsonString_of_loads {raw : String} {record : JsonRecord}
    (loaded : runtime.loads raw = .ok (.object record)) :
    (validateJsonString runtime raw).map Prod.fst = validateRecord runtime (some record) := by
  have printed : isBlankText raw = false := by
    by_contra blank
    exact runtime.loads_blank raw _ (by simpa using blank) loaded
  have parsed : parseJsonPayload runtime raw = .ok (some record, none) := by
    simp [parseJsonPayload, printed, loaded]
  rw [validateJsonString, parsed]
  show Except.map Prod.fst (do
    let result ← validateRecord runtime (some record)
    return (result, some record)) = _
  cases validateRecord runtime (some record) <;> rfl

end Lakehouse
