import Mathlib.Data.List.Find
import Lakehouse.Streaming.Routing

/-!
# The two validators

The same decision is written once over Python values and once over nullable columns.  Both look
for the first missing required text, then at the timestamp and then at the amount; they differ in
which texts count as missing, and in NaN.
-/

namespace Lakehouse

open Foundation Foundation.Column

variable {τ δ : Type}

/-! ## Records of texts -/

/-- The fields of `EVENT_SCHEMA`. -/
def schemaFields : List String :=
  ["event_id", "user_id", "account_id", "event_type", "amount", "event_timestamp",
    "ingest_timestamp", "region", "device_type"]

namespace JsonRecord

/-- Every schema field is absent, null or a text. -/
def Textual (record : JsonRecord) : Prop :=
  ∀ field ∈ schemaFields, record.get field = .null ∨ ∃ text, record.get field = .text text

/-- The text of a field, if it has one. -/
def textOf (record : JsonRecord) (field : String) : Option String :=
  match record.get field with
  | .text text => some text
  | _ => none

/-- The struct of the texts of a record. -/
def event (record : JsonRecord) : Event where
  eventId := record.textOf "event_id"
  userId := record.textOf "user_id"
  accountId := record.textOf "account_id"
  eventType := record.textOf "event_type"
  amount := record.textOf "amount"
  eventTimestamp := record.textOf "event_timestamp"
  ingestTimestamp := record.textOf "ingest_timestamp"
  region := record.textOf "region"
  deviceType := record.textOf "device_type"

/-- A field of a record of texts, by its text. -/
theorem get_of_textual {record : JsonRecord} (textual : record.Textual) {field : String}
    (known : field ∈ schemaFields) :
    record.get field = ((record.textOf field).map JsonValue.text).getD .null := by
  rcases textual field known with null | ⟨text, found⟩
  · simp [textOf, null]
  · simp [textOf, found]

end JsonRecord

/-- The two sides parse texts alike: `from_json` gives the struct of the texts of an object,
timestamps and numbers are read by the same partial functions, and these read no blank text. -/
structure SameParsing (runtime : PythonRuntime) (spark : SparkSql τ δ) : Prop where
  struct : ∀ raw (record : JsonRecord), runtime.loads raw = .ok (.object record) →
    record.Textual → spark.fromJson raw = some record.event
  timestamp : ∀ text, runtime.fromIsoformat (replaceZ text) = .ok () ↔
    spark.toTimestamp text ≠ none
  timestamp_error : ∀ text exc, runtime.fromIsoformat text = .error exc →
    exc.isValueOrTypeError = true
  timestamp_blank : ∀ text, isBlankText text = true → spark.toTimestamp text = none
  number : ∀ text, runtime.floatOfText text = spark.castDouble text
  number_blank : ∀ text, isBlankText text = true → spark.castDouble text = none

/-- The verdict with an optional reason. -/
def ValidationResult.ofReason : Option RejectionReason → ValidationResult
  | none => .valid
  | some reason => .invalid reason

theorem ValidationResult.ofReason_inj {left right : Option RejectionReason} :
    ofReason left = ofReason right ↔ left = right := by
  cases left <;> cases right <;> simp [ofReason, valid, invalid]

/-! ## The first missing text -/

/-- The first entry which is found gives the reason, and else the later checks do. -/
def firstReason (found : Option (String × RejectionReason)) (later : Option RejectionReason) :
    Option RejectionReason :=
  match found with
  | some entry => some entry.2
  | none => later

/-- A search with a weaker test gives the same reason exactly if its first hit passes the
stronger test too, or if there is no hit and the later checks agree. -/
theorem firstReason_find?_eq_iff {weak strong : String × RejectionReason → Bool}
    (weaker : ∀ entry, strong entry = true → weak entry = true)
    {entries : List (String × RejectionReason)} (distinct : (entries.map Prod.snd).Nodup)
    {later later' : Option RejectionReason}
    (fresh : ∀ entry ∈ entries, later' ≠ some entry.2) :
    firstReason (entries.find? weak) later = firstReason (entries.find? strong) later' ↔
      (∀ entry, entries.find? weak = some entry → strong entry = true) ∧
        (entries.find? weak = none → later = later') := by
  induction entries with
  | nil => simp [firstReason]
  | cons entry entries ih =>
      rw [List.map_cons, List.nodup_cons] at distinct
      by_cases hit : weak entry = true
      · by_cases hit' : strong entry = true
        · simp [hit, hit', firstReason]
        · have other : some entry.2 ≠ firstReason (entries.find? strong) later' := by
            cases found : entries.find? strong with
            | none => exact (fresh entry List.mem_cons_self).symm
            | some next =>
                intro same
                have reason_eq : entry.2 = next.2 := Option.some.inj same
                apply distinct.1
                rw [reason_eq]
                exact List.mem_map_of_mem (List.mem_of_find?_eq_some found)
          simpa [List.find?_cons, hit, hit', firstReason] using other
      · have miss : strong entry = false := by
          by_contra passes
          exact hit (weaker entry (by simpa using passes))
        have rest := ih distinct.2 fun next member => fresh next (List.mem_cons_of_mem entry member)
        simpa [List.find?_cons, hit, miss] using rest

/-! ## The two verdicts -/

/-- A text which Spark counts as missing. -/
def isMissing (text : Option String) : Bool :=
  text = none || text = some ""

/-- A text which Python counts as missing. -/
def isBlankField (text : Option String) : Bool :=
  text.all isBlankText

theorem isBlankField_some (text : String) : isBlankField (some text) = isBlankText text := rfl

/-- Spark rejects the amount. -/
def sparkRefusesAmount (spark : SparkSql τ δ) (text : Option String) : Bool :=
  text.any fun text => text ≠ "" && (spark.castDouble text).all Double.isNegative

/-- Python rejects the amount. -/
def pythonRefusesAmount (spark : SparkSql τ δ) (text : Option String) : Bool :=
  text.any fun text => !isBlankText text && !(spark.castDouble text).any Double.isAtLeastZero

/-- The reason of the timestamp and the amount. -/
def laterReason (timeless refused : Bool) : Option RejectionReason :=
  if timeless then some .nullEventTimestamp
  else if refused then some .invalidAmount
  else none

variable {runtime : PythonRuntime} {spark : SparkSql τ δ} {record : JsonRecord}

/-- The timestamp of a record does not parse. -/
def timeless (spark : SparkSql τ δ) (record : JsonRecord) : Bool :=
  ((record.textOf "event_timestamp").bind spark.toTimestamp).isNone

theorem holds_missingText_event {jsonValue : Option String} {event : Event}
    {field : Event → Option String} :
    Holds (missingText field) ⟨jsonValue, some event⟩ ↔ isMissing (field event) = true := by
  rw [holds_missingText, dataField_of_data rfl]
  simp [isMissing]

theorem rejectionReasonColumn_event (same : SameParsing runtime spark) (jsonValue : Option String)
    (record : JsonRecord) :
    rejectionReasonColumn spark ⟨jsonValue, some record.event⟩ =
      firstReason (fieldReasons.find? fun entry => isMissing (record.textOf entry.1))
        (laterReason (timeless spark record)
          (sparkRefusesAmount spark (record.textOf "amount"))) := by
  have parsed : ¬Holds dataColumn.isNull ⟨jsonValue, some record.event⟩ := by
    simp [dataColumn]
  have timestamp : Holds (disj (disj (dataField Event.eventTimestamp).isNull
      ((dataField Event.eventTimestamp).compare (· = "")))
      ((dataField Event.eventTimestamp).apply spark.toTimestamp).isNull)
        ⟨jsonValue, some record.event⟩ ↔ timeless spark record = true := by
    have empty := same.timestamp_blank "" isBlankText_empty
    have field : dataField Event.eventTimestamp ⟨jsonValue, some record.event⟩ =
        record.textOf "event_timestamp" := rfl
    rcases found : record.textOf "event_timestamp" with _ | text
    · simp [apply, field, timeless, found]
    · by_cases blank : text = ""
      · simp [apply, field, timeless, found, blank, empty]
      · simp [apply, field, timeless, found, blank]
  have amount : Holds (conj (conj (dataField Event.amount).isNotNull
      ((dataField Event.amount).compare (· ≠ "")))
      (disj ((dataField Event.amount).apply spark.castDouble).isNull
        (((dataField Event.amount).apply spark.castDouble).compare Double.isNegative)))
        ⟨jsonValue, some record.event⟩ ↔
      sparkRefusesAmount spark (record.textOf "amount") = true := by
    have field : dataField Event.amount ⟨jsonValue, some record.event⟩ =
        record.textOf "amount" := rfl
    rcases found : record.textOf "amount" with _ | text
    · simp [field, sparkRefusesAmount, found]
    · cases cast : spark.castDouble text <;>
        simp [apply, field, sparkRefusesAmount, found, cast]
  simp only [rejectionReasonColumn, rejectionCases, caseWhen, parsed, if_false,
    holds_missingText_event, timestamp, amount, laterReason, fieldReasons]
  cases eventId : isMissing (record.textOf "event_id") <;>
    cases userId : isMissing (record.textOf "user_id") <;>
    cases accountId : isMissing (record.textOf "account_id") <;>
    cases eventType : isMissing (record.textOf "event_type") <;>
    simp [JsonRecord.event, firstReason, eventId, userId, accountId, eventType]

theorem isBlank_get (textual : record.Textual) {field : String} (known : field ∈ schemaFields) :
    isBlank (record.get field) = isBlankField (record.textOf field) := by
  rw [JsonRecord.get_of_textual textual known]
  cases record.textOf field <;> rfl

theorem isValidTimestamp_textual (same : SameParsing runtime spark) (textual : record.Textual) :
    isValidTimestamp runtime (record.get "event_timestamp") = .ok (!timeless spark record) := by
  rw [isValidTimestamp, isBlank_get textual (by simp [schemaFields]),
    JsonRecord.get_of_textual textual (by simp [schemaFields])]
  rcases found : record.textOf "event_timestamp" with _ | text
  · simp [isBlankField, timeless, found]
  · rw [isBlankField_some]
    simp only [timeless, found, Option.bind_some, Option.map_some, Option.getD_some,
      PythonRuntime.str]
    by_cases blank : isBlankText text = true
    · simp [blank, same.timestamp_blank text blank]
    · rw [if_neg blank]
      cases parsed : runtime.fromIsoformat (replaceZ text) with
      | ok done =>
          have read := (same.timestamp text).mp parsed
          simpa [Option.isSome_iff_ne_none] using read
      | error exc =>
          have unread : spark.toTimestamp text = none := by
            by_contra read
            have returned := (same.timestamp text).mpr read
            simp [returned] at parsed
          simp [same.timestamp_error _ _ parsed, unread]

theorem isValidAmount_textual (same : SameParsing runtime spark) (textual : record.Textual) :
    isValidAmount runtime (record.get "amount") =
      .ok (!pythonRefusesAmount spark (record.textOf "amount")) := by
  rw [isValidAmount, isBlank_get textual (by simp [schemaFields]),
    JsonRecord.get_of_textual textual (by simp [schemaFields])]
  rcases record.textOf "amount" with _ | text
  · simp [isBlankField, pythonRefusesAmount]
  · simp only [isBlankField, pythonRefusesAmount, Option.all_some, Option.any_some,
      Option.map_some, Option.getD_some, PythonRuntime.float, same.number]
    cases blank : isBlankText text with
    | true => simp
    | false => cases cast : spark.castDouble text <;>
        simp [PyException.isValueOrTypeError, PyException.valueError]

theorem validateRecord_textual (same : SameParsing runtime spark) (textual : record.Textual)
    (nonempty : record ≠ []) :
    validateRecord runtime (some record) =
      .ok (.ofReason
        (firstReason (fieldReasons.find? fun entry => isBlankField (record.textOf entry.1))
          (laterReason (timeless spark record)
            (pythonRefusesAmount spark (record.textOf "amount"))))) := by
  have blanks : (fieldReasons.find? fun entry => isBlank (record.get entry.1)) =
      fieldReasons.find? fun entry => isBlankField (record.textOf entry.1) := by
    have known : ∀ entry ∈ fieldReasons, entry.1 ∈ schemaFields := by decide
    exact List.find?_congr fun entry member => isBlank_get textual (known entry member)
  obtain ⟨member, members, rfl⟩ := List.exists_cons_of_ne_nil nonempty
  simp only [validateRecord, blanks]
  cases fieldReasons.find? fun entry =>
      isBlankField (JsonRecord.textOf (member :: members) entry.1) with
  | some entry => rfl
  | none =>
      simp only [validateContents, isValidTimestamp_textual same textual,
        isValidAmount_textual same textual, firstReason, laterReason]
      cases timeless spark (member :: members) <;>
        cases pythonRefusesAmount spark (JsonRecord.textOf (member :: members) "amount") <;> rfl

/-! ## Agreement -/

/-- The texts on which the validators agree: there is a member, the first blank required text is
empty or absent, and an amount which is looked at is not a text of blanks or of NaN. -/
structure Undisputed (spark : SparkSql τ δ) (record : JsonRecord) : Prop where
  nonempty : record ≠ []
  required : ∀ entry, (fieldReasons.find? fun entry => isBlankField (record.textOf entry.1)) =
    some entry → isMissing (record.textOf entry.1) = true
  amount : (fieldReasons.find? fun entry => isBlankField (record.textOf entry.1)) = none →
    timeless spark record = false → ∀ text, record.textOf "amount" = some text → text ≠ "" →
      isBlankText text = false ∧ spark.castDouble text ≠ some .nan

theorem refusals_eq_iff (same : SameParsing runtime spark) (amount : Option String) :
    pythonRefusesAmount spark amount = sparkRefusesAmount spark amount ↔
      ∀ text, amount = some text → text ≠ "" →
        isBlankText text = false ∧ spark.castDouble text ≠ some .nan := by
  cases amount with
  | none => simp [pythonRefusesAmount, sparkRefusesAmount]
  | some text =>
      by_cases empty : text = ""
      · simp [pythonRefusesAmount, sparkRefusesAmount, empty]
      · by_cases blank : isBlankText text = true
        · simp [pythonRefusesAmount, sparkRefusesAmount, empty, blank,
            same.number_blank text blank]
        · cases cast : spark.castDouble text with
          | none => simp [pythonRefusesAmount, sparkRefusesAmount, empty, blank, cast]
          | some number =>
              by_cases nan : number = .nan
              · simp [pythonRefusesAmount, sparkRefusesAmount, empty, blank, cast, nan,
                  Double.isAtLeastZero, Double.isNegative]
              · simp [pythonRefusesAmount, sparkRefusesAmount, empty, blank, cast, nan,
                  Double.isAtLeastZero_eq]

theorem laterReason_eq_iff {unparsed refused refused' : Bool} :
    laterReason unparsed refused = laterReason unparsed refused' ↔
      (unparsed = false → refused = refused') := by
  cases unparsed <;> cases refused <;> cases refused' <;> simp [laterReason]

/-- The two validators give the same verdict on an object of texts exactly if it is undisputed. -/
theorem validators_agree_iff (same : SameParsing runtime spark) {raw : String}
    (loaded : runtime.loads raw = .ok (.object record)) (textual : record.Textual) :
    (validateJsonString runtime raw).map Prod.fst =
        .ok (.ofReason (rejectionReasonColumn spark ⟨some raw, spark.fromJson raw⟩)) ↔
      Undisputed spark record := by
  rw [validateJsonString_of_loads runtime loaded, same.struct raw record loaded textual,
    rejectionReasonColumn_event same]
  have weaker : ∀ entry : String × RejectionReason,
      isMissing (record.textOf entry.1) = true → isBlankField (record.textOf entry.1) = true := by
    intro entry missing
    rcases found : record.textOf entry.1 with _ | text
    · rfl
    · obtain rfl : text = "" := by simpa [isMissing, found] using missing
      simp [isBlankField]
  have distinct : (fieldReasons.map Prod.snd).Nodup := by decide
  have fresh : ∀ entry ∈ fieldReasons, laterReason (timeless spark record)
      (sparkRefusesAmount spark (record.textOf "amount")) ≠ some entry.2 := by
    simp only [laterReason]
    split_ifs <;> decide
  by_cases nonempty : record = []
  · have missing : ∀ entry : String × RejectionReason,
        isMissing (record.textOf entry.1) = true := by
      intro entry
      subst nonempty
      rfl
    have rejected : validateRecord runtime (some record) =
        .ok (.ofReason (some .malformedJson)) := by
      subst nonempty
      rfl
    rw [rejected, Except.ok.injEq, ValidationResult.ofReason_inj]
    simp only [missing]
    constructor
    · intro agreed
      simp [fieldReasons, firstReason] at agreed
    · intro undisputed
      exact absurd nonempty undisputed.nonempty
  · rw [validateRecord_textual same textual nonempty, Except.ok.injEq,
      ValidationResult.ofReason_inj, firstReason_find?_eq_iff weaker distinct fresh,
      laterReason_eq_iff, refusals_eq_iff same]
    exact ⟨fun ⟨required, amount⟩ => ⟨nonempty, required, amount⟩,
      fun undisputed => ⟨undisputed.required, undisputed.amount⟩⟩

/-! ### A blank text -/

def purchaseRecord (eventId amount : String) : JsonRecord :=
  [("event_id", .text eventId), ("user_id", .text "user_001"), ("account_id", .text "acct_001"),
    ("event_type", .text "purchase"), ("amount", .text amount),
    ("event_timestamp", .text "2024-06-11T10:00:00Z")]

/-- Python as it behaves on the payload of a purchase. -/
def purchaseRuntime (eventId amount : String)
    (printed : isBlankText (purchasePayload eventId amount) = false) : PythonRuntime where
  loads raw :=
    if raw = purchasePayload eventId amount then
      .ok (.object (purchaseRecord eventId amount))
    else
      .error
        { type := .other "JSONDecodeError"
          message := "Expecting value: line 1 column 1 (char 0)" }
  loads_blank raw value blank := by
    split
    · rename_i same
      simp [same, printed] at blank
    · simp
  fromIsoformat text :=
    if text = "2024-06-11T10:00:00+00:00" then .ok ()
    else .error (.valueError ("Invalid isoformat string: '" ++ text ++ "'"))
  floatOfText := (purchaseSpark eventId amount).castDouble
  repr _ := ""

theorem textual_purchaseRecord (eventId amount : String) :
    (purchaseRecord eventId amount).Textual := by
  simp [JsonRecord.Textual, schemaFields, purchaseRecord, JsonRecord.get, Dict.get?,
    List.lookup_cons]

theorem event_purchaseRecord (eventId amount : String) :
    (purchaseRecord eventId amount).event = purchase eventId amount := by
  simp [JsonRecord.event, JsonRecord.textOf, purchaseRecord, JsonRecord.get, Dict.get?,
    List.lookup_cons, purchase]

/-- A blank text has no other characters than spaces. -/
theorem ne_of_isBlankText {text other : String} (blank : isBlankText text = true)
    (printed : isBlankText other = false) : text ≠ other := by
  rintro rfl
  simp [blank] at printed

theorem sameParsing_purchase {eventId amount : String}
    (printed : isBlankText (purchasePayload eventId amount) = false) :
    SameParsing (purchaseRuntime eventId amount printed) (purchaseSpark eventId amount) where
  struct raw record loaded _ := by
    simp only [purchaseRuntime] at loaded
    split at loaded
    · rename_i same
      obtain rfl : purchaseRecord eventId amount = record := by simpa using loaded
      rw [event_purchaseRecord]
      simp [purchaseSpark, sampleSpark, same]
    · simp at loaded
  timestamp text := by
    by_cases parsed : replaceZ text = "2024-06-11T10:00:00+00:00" <;>
      simp [purchaseRuntime, purchaseSpark, sampleSpark, parsed]
  timestamp_error text exc raised := by
    simp only [purchaseRuntime] at raised
    split at raised
    · simp at raised
    · obtain rfl : _ = exc := Except.error.inj raised
      rfl
  timestamp_blank text blank := by
    have absent : 'Z' ∉ text.toList := fun member => by
      have space := List.all_eq_true.mp blank 'Z' member
      exact absurd space (by decide)
    have unparsed : text ≠ "2024-06-11T10:00:00+00:00" :=
      ne_of_isBlankText blank (by decide +kernel)
    simp [purchaseSpark, sampleSpark, replaceZ_of_not_mem absent, unparsed]
  number _ := rfl
  number_blank text blank := by
    have not_nan : text ≠ "NaN" := ne_of_isBlankText blank (by decide +kernel)
    have not_price : text ≠ "19.99" := ne_of_isBlankText blank (by decide +kernel)
    simp [purchaseSpark, sampleSpark, not_nan, not_price]

/-- The event id of `test_blank_event_id`. -/
theorem blank_printed : isBlankText (purchasePayload "  " "19.99") = false := by
  decide +kernel

/-- With two blanks as event id Python rejects the payload and Spark accepts it. -/
theorem blank_eventId_disagree :
    SameParsing (purchaseRuntime "  " "19.99" blank_printed) (purchaseSpark "  " "19.99") ∧
      (purchaseRuntime "  " "19.99" blank_printed).loads (purchasePayload "  " "19.99") =
        .ok (.object (purchaseRecord "  " "19.99")) ∧
      (purchaseRecord "  " "19.99").Textual ∧
      (validateJsonString (purchaseRuntime "  " "19.99" blank_printed)
          (purchasePayload "  " "19.99")).map Prod.fst =
        .ok (.invalid .missingEventId) ∧
      rejectionReasonColumn (purchaseSpark "  " "19.99")
          ⟨some (purchasePayload "  " "19.99"),
            (purchaseSpark "  " "19.99").fromJson (purchasePayload "  " "19.99")⟩ = none := by
  have loaded : (purchaseRuntime "  " "19.99" blank_printed).loads (purchasePayload "  " "19.99") =
      .ok (.object (purchaseRecord "  " "19.99")) := by
    simp [purchaseRuntime]
  refine ⟨sameParsing_purchase blank_printed, loaded, textual_purchaseRecord _ _, ?_,
    by decide +kernel⟩
  rw [validateJsonString_of_loads _ loaded]
  decide +kernel

theorem sound_printed : isBlankText (purchasePayload "evt-001" "19.99") = false := by
  decide +kernel

theorem validators_agree_purchase :
    (validateJsonString (purchaseRuntime "evt-001" "19.99" sound_printed)
        (purchasePayload "evt-001" "19.99")).map Prod.fst =
      .ok (.ofReason (rejectionReasonColumn soundSpark
        ⟨some (purchasePayload "evt-001" "19.99"),
          soundSpark.fromJson (purchasePayload "evt-001" "19.99")⟩)) := by
  have undisputed : Undisputed soundSpark (purchaseRecord "evt-001" "19.99") := by
    have all_there : (fieldReasons.find? fun entry =>
        isBlankField ((purchaseRecord "evt-001" "19.99").textOf entry.1)) = none := by
      decide +kernel
    refine ⟨by simp [purchaseRecord], fun entry found => ?_, fun _ _ text found _ => ?_⟩
    · simp [all_there] at found
    · obtain rfl : "19.99" = text := Option.some.inj found
      exact ⟨by decide +kernel, by decide +kernel⟩
  exact (validators_agree_iff (sameParsing_purchase sound_printed) (by simp [purchaseRuntime])
    (textual_purchaseRecord _ _)).mpr undisputed

end Lakehouse
