import Lakehouse.Streaming.DataQuality

/-!
# What the validator raises

The validator catches `ValueError` and `TypeError` around its two conversions.  An amount which is
an integer beyond the range of a double raises an `OverflowError`, and this is the only exception
which escapes once `json.loads` has returned.
-/

namespace Lakehouse

open Foundation

variable (runtime : PythonRuntime)

/-- The text is the JSON of an object: `json.loads` finds no mistake in it, and what it returns, if
it returns, is an object. -/
structure IsObjectText (raw : String) : Prop where
  printed : isBlankText raw = false
  decodes : ∀ exc, runtime.loads raw = .error exc → exc.type ≠ .other "JSONDecodeError"
  object : ∀ value, runtime.loads raw = .ok value → ∃ record, value = .object record

/-- The validator returns, and an amount which is there and is not converted to a number that is at
least zero makes the record invalid, for a reason. -/
def ReturnsVerdict (raw : String) : Prop :=
  ∃ result parsed, validateJsonString runtime raw = .ok (result, parsed) ∧
    ∀ record : JsonRecord, runtime.loads raw = .ok (.object record) →
      isBlank (record.get "amount") = false →
      (∀ number, runtime.float (record.get "amount") = .ok number →
        number.isAtLeastZero = false) →
      result.isValid = false ∧ result.rejectionReason.isSome = true

/-- The record passes the checks before that of the amount, and the amount is an integer which no
double is close to. -/
def AmountOverflows (record : JsonRecord) : Prop :=
  (∀ entry ∈ fieldReasons, isBlank (record.get entry.1) = false) ∧
    isBlank (record.get "event_timestamp") = false ∧
    runtime.fromIsoformat (replaceZ (runtime.str (record.get "event_timestamp"))) = .ok () ∧
    ∃ value, record.get "amount" = .integer value ∧ 2 ^ 1024 ≤ roundToFloat |(value : ℚ)|

/-- `datetime.fromisoformat` raises what the validator catches. -/
def RaisesValueErrors : Prop :=
  ∀ text exc, runtime.fromIsoformat text = .error exc → exc.isValueOrTypeError = true

variable {runtime} {raw : String} {record : JsonRecord}

/-! ## The two conversions -/

theorem isValidTimestamp_returns (raises : RaisesValueErrors runtime) (value : JsonValue) :
    ∃ valid, isValidTimestamp runtime value = .ok valid ∧
      (valid = true ↔ isBlank value = false ∧
        runtime.fromIsoformat (replaceZ (runtime.str value)) = .ok ()) := by
  unfold isValidTimestamp
  cases isBlank value with
  | true => exact ⟨false, rfl, by simp⟩
  | false =>
      cases parsed : runtime.fromIsoformat (replaceZ (runtime.str value)) with
      | ok _ => exact ⟨true, rfl, by simp⟩
      | error exc => exact ⟨false, by simp [raises _ _ parsed], by simp⟩

/-- The exceptions of `float` are caught, but for that of an integer out of range. -/
theorem float_error {value : JsonValue} {exc : PyException}
    (raised : runtime.float value = .error exc) :
    exc.isValueOrTypeError = true ∨
      exc.isValueOrTypeError = false ∧
        ∃ number, value = .integer number ∧ 2 ^ 1024 ≤ roundToFloat |(number : ℚ)| := by
  cases value with
  | null => exact .inl (by obtain rfl := Except.error.inj raised; rfl)
  | boolean value => simp [PythonRuntime.float] at raised
  | real value => simp [PythonRuntime.float] at raised
  | array items => exact .inl (by obtain rfl := Except.error.inj raised; rfl)
  | object members => exact .inl (by obtain rfl := Except.error.inj raised; rfl)
  | text value =>
      left
      simp only [PythonRuntime.float] at raised
      split at raised
      · simp at raised
      · obtain rfl := Except.error.inj raised
        rfl
  | integer value =>
      right
      simp only [PythonRuntime.float, floatOfInt] at raised
      split at raised
      · simp at raised
      · rename_i large
        obtain rfl := Except.error.inj raised
        exact ⟨rfl, value, rfl, not_lt.mp large⟩

/-- What `float` raises for an integer out of range. -/
def floatOverflow : PyException where
  type := .other "OverflowError"
  message := "int too large to convert to float"

theorem float_of_overflow {value : Int} (large : 2 ^ 1024 ≤ roundToFloat |(value : ℚ)|) :
    runtime.float (.integer value) = .error floatOverflow :=
  if_neg (not_lt.mpr large)

theorem isValidAmount_of_float {value : JsonValue} {number : Double}
    (printed : isBlank value = false) (converted : runtime.float value = .ok number) :
    isValidAmount runtime value = .ok number.isAtLeastZero := by
  simp [isValidAmount, printed, converted]

theorem isValidAmount_of_error {value : JsonValue} {exc : PyException}
    (printed : isBlank value = false) (raised : runtime.float value = .error exc) :
    isValidAmount runtime value =
      if exc.isValueOrTypeError then .ok false else .error exc := by
  simp [isValidAmount, printed, raised]

/-- What the check of an amount raises is what `float` raises for an integer out of range. -/
theorem isValidAmount_error {value : JsonValue} {exc : PyException}
    (raised : isValidAmount runtime value = .error exc) :
    ∃ number, value = .integer number ∧ 2 ^ 1024 ≤ roundToFloat |(number : ℚ)| := by
  cases blank : isBlank value with
  | true => simp [isValidAmount, blank] at raised
  | false =>
      cases converted : runtime.float value with
      | ok number => simp [isValidAmount_of_float blank converted] at raised
      | error cause =>
          rcases float_error converted with caught | ⟨-, large⟩
          · simp [isValidAmount_of_error blank converted, caught] at raised
          · exact large

/-- An amount which does not become a number of at least zero is refused, if its check returns. -/
theorem isValidAmount_eq_false {value : JsonValue} {valid : Bool}
    (printed : isBlank value = false)
    (no_number : ∀ number, runtime.float value = .ok number → number.isAtLeastZero = false)
    (returned : isValidAmount runtime value = .ok valid) : valid = false := by
  cases converted : runtime.float value with
  | ok number =>
      rw [isValidAmount_of_float printed converted, no_number number converted] at returned
      exact (Except.ok.inj returned).symm
  | error exc =>
      rw [isValidAmount_of_error printed converted] at returned
      split at returned
      · exact (Except.ok.inj returned).symm
      · simp at returned

/-! ## The record -/

/-- The checks of a record, where the timestamp raises nothing that escapes. -/
theorem validateContents_eq {valid : Bool}
    (timestamp : isValidTimestamp runtime (record.get "event_timestamp") = .ok valid) :
    validateContents runtime record =
      if valid then
        (isValidAmount runtime (record.get "amount")).map fun amount =>
          if amount then .valid else .invalid .invalidAmount
      else .ok (.invalid .nullEventTimestamp) := by
  rw [validateContents, timestamp]
  cases valid with
  | false => rfl
  | true =>
      cases isValidAmount runtime (record.get "amount") with
      | error exc => rfl
      | ok amount => cases amount <;> rfl

theorem validateRecord_of_missing {entry : String × RejectionReason} {members : JsonRecord}
    (found : (fieldReasons.find? fun entry => isBlank (members.get entry.1)) = some entry)
    (nonempty : members ≠ []) :
    validateRecord runtime (some members) = .ok (.invalid entry.2) := by
  cases members with
  | nil => exact absurd rfl nonempty
  | cons member members => simp [validateRecord, found]

theorem validateRecord_of_present {members : JsonRecord}
    (present : (fieldReasons.find? fun entry => isBlank (members.get entry.1)) = none)
    (nonempty : members ≠ []) :
    validateRecord runtime (some members) = validateContents runtime members := by
  cases members with
  | nil => exact absurd rfl nonempty
  | cons member members => simp [validateRecord, present]

/-- A record with its texts and its timestamp has a member. -/
theorem AmountOverflows.nonempty (overflows : AmountOverflows runtime record) : record ≠ [] := by
  rintro rfl
  obtain ⟨-, timestamp, -⟩ := overflows
  simp [JsonRecord.get, isBlank] at timestamp

theorem AmountOverflows.raises (raises : RaisesValueErrors runtime)
    (overflows : AmountOverflows runtime record) :
    validateRecord runtime (some record) = .error floatOverflow := by
  obtain ⟨texts, printed, parsed, number, amount, large⟩ := id overflows
  have present : (fieldReasons.find? fun entry => isBlank (record.get entry.1)) = none :=
    List.find?_eq_none.mpr fun entry member => by simp [texts entry member]
  obtain ⟨valid, timestamp, exact_valid⟩ :=
    isValidTimestamp_returns raises (record.get "event_timestamp")
  have amount_raises : isValidAmount runtime (record.get "amount") = .error floatOverflow := by
    rw [amount, isValidAmount_of_error rfl (float_of_overflow large)]
    rfl
  rw [validateRecord_of_present present overflows.nonempty, validateContents_eq timestamp,
    exact_valid.mpr ⟨printed, parsed⟩, amount_raises]
  rfl

/-- Any other record is judged, and one with an amount that is no number of at least zero is
invalid. -/
theorem validateRecord_returns (raises : RaisesValueErrors runtime)
    (in_range : ¬AmountOverflows runtime record) :
    ∃ result, validateRecord runtime (some record) = .ok result ∧
      (isBlank (record.get "amount") = false →
        (∀ number, runtime.float (record.get "amount") = .ok number →
          number.isAtLeastZero = false) →
        result.isValid = false ∧ result.rejectionReason.isSome = true) := by
  by_cases nonempty : record = []
  · subst nonempty
    exact ⟨.invalid .malformedJson, rfl, fun _ _ => ⟨rfl, rfl⟩⟩
  · cases found : fieldReasons.find? fun entry => isBlank (record.get entry.1) with
    | some entry =>
        exact ⟨.invalid entry.2, validateRecord_of_missing found nonempty, fun _ _ => ⟨rfl, rfl⟩⟩
    | none =>
        obtain ⟨valid, timestamp, exact_valid⟩ :=
          isValidTimestamp_returns raises (record.get "event_timestamp")
        rw [validateRecord_of_present found nonempty, validateContents_eq timestamp]
        cases valid with
        | false => exact ⟨.invalid .nullEventTimestamp, rfl, fun _ _ => ⟨rfl, rfl⟩⟩
        | true =>
            cases checked : isValidAmount runtime (record.get "amount") with
            | ok amount =>
                refine ⟨_, rfl, fun printed no_number => ?_⟩
                rw [isValidAmount_eq_false printed no_number checked]
                exact ⟨rfl, rfl⟩
            | error exc =>
                refine absurd ⟨fun entry member => ?_, (exact_valid.mp rfl).1,
                  (exact_valid.mp rfl).2, isValidAmount_error checked⟩ in_range
                simpa using List.find?_eq_none.mp found entry member

/-! ## The text -/

/-- What `json.loads` raises without calling it a mistake in the text escapes. -/
theorem validateJsonString_of_error {exc : PyException} (printed : isBlankText raw = false)
    (raised : runtime.loads raw = .error exc) (escapes : exc.type ≠ .other "JSONDecodeError") :
    validateJsonString runtime raw = .error exc := by
  have parsed : parseJsonPayload runtime raw = .error exc := by
    simp [parseJsonPayload, printed, raised, escapes]
  rw [validateJsonString, parsed]
  rfl

/-- The validator returns a verdict on the JSON of an object exactly if `json.loads` returns and no
integer out of range is converted. -/
theorem returnsVerdict_iff (raises : RaisesValueErrors runtime)
    (object_text : IsObjectText runtime raw) :
    ReturnsVerdict runtime raw ↔
      ∃ record : JsonRecord, runtime.loads raw = .ok (.object record) ∧
        ¬AmountOverflows runtime record := by
  constructor
  · rintro ⟨result, parsed, returned, -⟩
    cases loaded : runtime.loads raw with
    | error exc =>
        rw [validateJsonString_of_error object_text.printed loaded
          (object_text.decodes exc loaded)] at returned
        simp at returned
    | ok value =>
        obtain ⟨record, rfl⟩ := object_text.object value loaded
        refine ⟨record, rfl, fun overflows => ?_⟩
        have verdict := validateJsonString_of_loads runtime loaded
        rw [returned, overflows.raises raises] at verdict
        simp [Except.map] at verdict
  · rintro ⟨record, loaded, in_range⟩
    obtain ⟨result, judged, refuses⟩ := validateRecord_returns raises in_range
    have verdict := validateJsonString_of_loads runtime loaded
    rw [judged] at verdict
    cases returned : validateJsonString runtime raw with
    | error exc => simp [returned, Except.map] at verdict
    | ok pair =>
        rw [returned] at verdict
        obtain rfl : pair.1 = result := Except.ok.inj verdict
        refine ⟨pair.1, pair.2, returned, fun other other_loaded => ?_⟩
        rw [loaded] at other_loaded
        obtain rfl : record = other := by simpa using other_loaded
        exact refuses

/-! ### An amount out of range -/

private def amountMembers (amount : Int) : String :=
  "\"event_id\": \"evt-001\", \"user_id\": \"user_001\", \"account_id\": \"acct_001\", " ++
    "\"event_type\": \"purchase\", \"amount\": " ++ toString amount ++
    ", \"event_timestamp\": \"2024-06-11T10:00:00Z\""

private def amountPayload (amount : Int) : String := "\x7b" ++ amountMembers amount ++ "\x7d"

private def amountRecord (amount : Int) : JsonRecord :=
  [("event_id", .text "evt-001"), ("user_id", .text "user_001"), ("account_id", .text "acct_001"),
    ("event_type", .text "purchase"), ("amount", .integer amount),
    ("event_timestamp", .text "2024-06-11T10:00:00Z")]

private theorem amountPayload_printed (amount : Int) :
    isBlankText (amountPayload amount) = false := by
  have brace : "\x7b".toList.all isPySpace = false := by decide
  show ("\x7b" ++ amountMembers amount ++ "\x7d").toList.all isPySpace = false
  rw [String.toList_append, String.toList_append, List.all_append, List.all_append, brace]
  rfl

/-- Python as it behaves on the payload with this amount. -/
private def amountRuntime (amount : Int) : PythonRuntime where
  loads raw :=
    if raw = amountPayload amount then
      .ok (.object (amountRecord amount))
    else
      .error
        { type := .other "JSONDecodeError"
          message := "Expecting value: line 1 column 1 (char 0)" }
  loads_blank raw value blank := by
    split
    · rename_i same
      rw [same, amountPayload_printed] at blank
      exact absurd blank Bool.false_ne_true
    · simp
  fromIsoformat text :=
    if text = "2024-06-11T10:00:00+00:00" then .ok ()
    else .error (.valueError ("Invalid isoformat string: '" ++ text ++ "'"))
  floatOfText _ := none
  repr _ := ""

private theorem loads_amountPayload (amount : Int) :
    (amountRuntime amount).loads (amountPayload amount) = .ok (.object (amountRecord amount)) :=
  if_pos rfl

private theorem raisesValueErrors_amountRuntime (amount : Int) :
    RaisesValueErrors (amountRuntime amount) := by
  intro text exc raised
  simp only [amountRuntime] at raised
  split at raised
  · simp at raised
  · obtain rfl := Except.error.inj raised
    rfl

private theorem isObjectText_amountPayload (amount : Int) :
    IsObjectText (amountRuntime amount) (amountPayload amount) where
  printed := amountPayload_printed amount
  decodes exc raised := by simp [loads_amountPayload] at raised
  object value loaded := by
    rw [loads_amountPayload] at loaded
    exact ⟨_, (Except.ok.inj loaded).symm⟩

/-- All but the amount of the payload is in order. -/
private theorem overflows_amountRecord {amount : Int}
    (large : 2 ^ 1024 ≤ roundToFloat |(amount : ℚ)|) :
    AmountOverflows (amountRuntime amount) (amountRecord amount) := by
  have timestamp : (amountRecord amount).get "event_timestamp" = .text "2024-06-11T10:00:00Z" := by
    simp [amountRecord, JsonRecord.get, Dict.get?, List.lookup_cons]
  have amount_member : (amountRecord amount).get "amount" = .integer amount := by
    simp [amountRecord, JsonRecord.get, Dict.get?, List.lookup_cons]
  have parsed : replaceZ "2024-06-11T10:00:00Z" = "2024-06-11T10:00:00+00:00" := by decide +kernel
  refine ⟨?_, ?_, ?_, amount, amount_member, large⟩
  · simp [fieldReasons, amountRecord, JsonRecord.get, Dict.get?, List.lookup_cons, isBlank]
    decide
  · rw [timestamp]
    decide
  · rw [timestamp]
    exact if_pos parsed

/-- An integer with four hundred zeros passes `json.loads`, and its conversion is not caught. -/
theorem amount_out_of_range_escapes :
    ∃ amount : Int, amount = 10 ^ 400 ∧
      RaisesValueErrors (amountRuntime amount) ∧
      (amountRuntime amount).loads (amountPayload amount) = .ok (.object (amountRecord amount)) ∧
      validateJsonString (amountRuntime amount) (amountPayload amount) = .error floatOverflow ∧
      ¬ReturnsVerdict (amountRuntime amount) (amountPayload amount) := by
  obtain ⟨amount, amount_eq, large⟩ :
      ∃ amount : Int, amount = 10 ^ 400 ∧ 2 ^ 1024 ≤ roundToFloat |(amount : ℚ)| :=
    ⟨10 ^ 400, rfl, by decide +kernel⟩
  have escapes : validateJsonString (amountRuntime amount) (amountPayload amount) =
      .error floatOverflow := by
    have verdict := validateJsonString_of_loads _ (loads_amountPayload amount)
    rw [(overflows_amountRecord large).raises (raisesValueErrors_amountRuntime _)] at verdict
    cases returned : validateJsonString (amountRuntime amount) (amountPayload amount) with
    | error exc => simpa [returned, Except.map] using verdict
    | ok pair => simp [returned, Except.map] at verdict
  refine ⟨amount, amount_eq, raisesValueErrors_amountRuntime _, loads_amountPayload _, escapes, ?_⟩
  rintro ⟨result, parsed, returned, -⟩
  rw [escapes] at returned
  simp at returned

theorem returnsVerdict_sample : ReturnsVerdict (amountRuntime 20) (amountPayload 20) := by
  refine (returnsVerdict_iff (raisesValueErrors_amountRuntime 20)
    (isObjectText_amountPayload 20)).mpr ⟨amountRecord 20, loads_amountPayload 20, ?_⟩
  rintro ⟨-, -, -, number, amount, large⟩
  obtain rfl : 20 = number := JsonValue.integer.inj amount
  exact absurd large (by decide +kernel)

end Lakehouse
