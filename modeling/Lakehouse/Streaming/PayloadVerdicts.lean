import Mathlib.Tactic.Positivity
import Lakehouse.Producer.ProducerRun
import Lakehouse.Streaming.ValidatorErrors

/-!
# Verdicts on payloads

The validator reads what the producer has written.  It accepts every event and rejects each bad
payload for the reason which its generator is named after.
-/

namespace Lakehouse

open Foundation
open Foundation.Calendar (DateTime)

/-! ## The standard library on payloads -/

/-- A float, as far as the validators look at it. -/
def Double.ofBinary : Binary64.Value → Double
  | .nan => .nan
  | .infinite negative => .infinity negative
  | .finite number =>
      .finite ((if number.negative then -1 else 1) * (number.units : ℚ) / Binary64.one)

mutual

/-- A value as `json.loads` returns it. -/
def JsonValue.ofJson : Json.Value → JsonValue
  | .null => .null
  | .bool value => .boolean value
  | .number (.int value) => .integer value
  | .number (.float value) => .real (.ofBinary value)
  | .text chars => .text (String.ofList chars)
  | .array items => .array (JsonValue.ofJsonItems items)
  | .object members => .object (Dict.ofList (JsonValue.ofJsonMembers members))

def JsonValue.ofJsonItems : List Json.Value → List JsonValue
  | [] => []
  | item :: items => JsonValue.ofJson item :: JsonValue.ofJsonItems items

def JsonValue.ofJsonMembers : List (List Char × Json.Value) → List (String × JsonValue)
  | [] => []
  | (name, value) :: members =>
      (String.ofList name, JsonValue.ofJson value) :: JsonValue.ofJsonMembers members

end

/-- A value which is neither an array nor an object, and no integer which is too long to be
written: Python converts at most 4300 digits. -/
def IsScalar : Json.Value → Prop
  | .array _ => False
  | .object _ => False
  | .number (.int value) => (Nat.toDigits 10 value.natAbs).length ≤ 4300
  | _ => True

theorem isScalar_of_mem_toDict {event : GeneratedEvent} :
    ∀ member ∈ event.toDict, IsScalar member.2 := by
  simp [GeneratedEvent.toDict, Json.entry, Json.Value.ofText, Json.Value.ofFloat, IsScalar]

/-- What the standard library does with the texts of payloads. -/
structure StandardLibrary (runtime : PythonRuntime) : Prop where
  /-- `json.loads` reads what `json.dumps` has written. -/
  loads_dumps : ∀ members : List (List Char × Json.Value), (∀ member ∈ members, IsScalar member.2) →
    runtime.loads (String.ofList (Json.Value.object members).write) =
      .ok (.ofJson (.object members))
  /-- A text which ends behind a colon is no JSON. -/
  loads_malformedJson : ∃ exc, runtime.loads malformedJson = .error exc ∧
    exc.type = .other "JSONDecodeError"
  /-- `datetime.fromisoformat` reads what `isoformat` has written. -/
  fromIsoformat : ∀ now : Instant, runtime.fromIsoformat now.isoformat = .ok ()
  float_words : runtime.floatOfText "not-a-number" = none

/-! ## Texts -/

theorem isBlankText_append {left right : String} :
    isBlankText (left ++ right) = (isBlankText left && isBlankText right) := by
  simp [isBlankText]

theorem isBlankText_eventId (event : GeneratedEvent) : isBlankText event.eventId = false := by
  have printed : isBlankText "evt-" = false := by decide
  simp only [GeneratedEvent.eventId, isBlankText_append, printed, Bool.false_and]

theorem isBlankText_userId (event : GeneratedEvent) : isBlankText event.userId = false := by
  have printed : isBlankText "user_" = false := by decide
  simp only [GeneratedEvent.userId, isBlankText_append, printed, Bool.false_and]

theorem isBlankText_accountId (event : GeneratedEvent) : isBlankText event.accountId = false := by
  have printed : isBlankText "acct_" = false := by decide
  simp only [GeneratedEvent.accountId, isBlankText_append, printed, Bool.false_and]

theorem isBlankText_eventType (event : GeneratedEvent) : isBlankText event.eventType = false := by
  have printed : eventTypes.all (fun eventType => !isBlankText eventType) = true := by decide
  simpa using List.all_eq_true.mp printed _ event.eventType_mem

/-- The parts of a time in UTC. -/
theorem isoformat_eq (now : Instant) :
    ∃ time, now.isoformat = String.ofList (time ++ "+00:00".toList) ∧
      utcNowIso now = String.ofList (time ++ ['Z']) ∧ 'Z' ∉ time :=
  ⟨_, congrArg String.ofList (Iso.isoformat_utc _), congrArg String.ofList (Iso.writeZulu_eq _),
    Iso.not_mem_writeTime (.inr rfl)⟩

theorem replaceZ_utcNowIso (now : Instant) : replaceZ (utcNowIso now) = now.isoformat := by
  obtain ⟨time, iso, zulu, absent⟩ := isoformat_eq now
  have kept : (time.flatMap fun c => if c = 'Z' then "+00:00".toList else [c]) = time := by
    have same : (time.flatMap fun c => if c = 'Z' then "+00:00".toList else [c]) =
        time.flatMap fun c => [c] := by
      refine List.flatMap_congr fun c member => if_neg ?_
      rintro rfl
      exact absent member
    rw [same, List.flatMap_singleton']
  have chars : (utcNowIso now).toList = time ++ ['Z'] := by rw [zulu, String.toList_ofList]
  rw [replaceZ, chars, List.flatMap_append, kept, iso]
  rfl

theorem replaceZ_isoformat (now : Instant) : replaceZ now.isoformat = now.isoformat := by
  obtain ⟨time, iso, -, absent⟩ := isoformat_eq now
  apply replaceZ_of_not_mem
  rw [iso, String.toList_ofList, List.mem_append, not_or]
  exact ⟨absent, by decide⟩

theorem isBlankText_isoformat (now : Instant) : isBlankText now.isoformat = false := by
  obtain ⟨time, iso, -, -⟩ := isoformat_eq now
  have printed : "+00:00".toList.all isPySpace = false := by decide
  rw [iso, isBlankText, String.toList_ofList, List.all_append, printed, Bool.and_false]

theorem isBlankText_utcNowIso (now : Instant) : isBlankText (utcNowIso now) = false := by
  obtain ⟨time, -, zulu, -⟩ := isoformat_eq now
  have printed : ['Z'].all isPySpace = false := by decide
  rw [zulu, isBlankText, String.toList_ofList, List.all_append, printed, Bool.and_false]

/-! ## Amounts -/

/-- An amount which has been drawn is a number of cents. -/
theorem UniformAmount.rounded_eq (amount : UniformAmount) :
    ∃ cents, 50 ≤ cents ∧ cents ≤ 99999 ∧
      amount.rounded = Binary64.ofDecimal false cents (-2) := by
  obtain ⟨low, low_eq, least⟩ := amount.least
  obtain ⟨high, high_eq, most⟩ := amount.most
  have few : 10 ^ 2 < Binary64.one := Binary64.ten_pow_lt_one (by decide)
  have low_cents : low.inPlaces 2 = 50 :=
    Binary64.inPlaces_ofDecimal (by decide) few low_eq
  have high_cents : high.inPlaces 2 = 99999 :=
    Binary64.inPlaces_ofDecimal (by decide) few high_eq
  refine ⟨amount.number.inPlaces 2, ?_, ?_, ?_⟩
  · rw [← low_cents]
    exact Binary64.roundDiv_mono (Nat.mul_le_mul_right _ least) _
  · rw [← high_cents]
    exact Binary64.roundDiv_mono (Nat.mul_le_mul_right _ most) _
  · rw [UniformAmount.rounded, Binary64.Value.roundTo, amount.positive]
    rfl

/-- The amount of an event is a number which is not below zero. -/
theorem UniformAmount.isAtLeastZero_rounded (amount : UniformAmount) :
    (Double.ofBinary amount.rounded).isAtLeastZero = true := by
  obtain ⟨cents, -, most, rounded_eq⟩ := amount.rounded_eq
  obtain ⟨number, finite, positive⟩ := @Binary64.exists_ofDecimal cents 2 false
    (Nat.lt_of_le_of_lt most (by decide))
  have nonneg : (0 : ℚ) ≤ 1 * (number.units : ℚ) / Binary64.one := by positivity
  rw [rounded_eq]
  show (Double.ofBinary (Binary64.ofDecimal false cents (-(2 : Nat)))).isAtLeastZero = true
  rw [finite]
  simpa [Double.ofBinary, Double.isAtLeastZero, positive] using nonneg

/-! ## Verdicts -/

def BadEvent.reason : BadEvent → RejectionReason
  | .missingEventId _ => .missingEventId
  | .nullEventTimestamp => .nullEventTimestamp
  | .invalidAmount _ => .invalidAmount
  | .malformedJson => .malformedJson

/-- The members of a dictionary, as the validator sees them. -/
def recordOf (members : List (List Char × Json.Value)) : JsonRecord :=
  Dict.ofList (JsonValue.ofJsonMembers members)

theorem ofJsonMembers_eq_map (members : List (List Char × Json.Value)) :
    JsonValue.ofJsonMembers members =
      members.map fun member => (String.ofList member.1, JsonValue.ofJson member.2) := by
  induction members with
  | nil => rfl
  | cons member members ih => rw [JsonValue.ofJsonMembers, ih, List.map_cons]

/-- The last member of a name. -/
theorem recordOf_get (members : List (List Char × Json.Value)) (name : String) :
    (recordOf members).get name =
      ((Dict.get? members.reverse name.toList).map JsonValue.ofJson).getD .null := by
  have inj : Function.Injective String.ofList := fun left right same => by
    have chars := congrArg String.toList same
    rwa [String.toList_ofList, String.toList_ofList] at chars
  have found := Dict.get?_map inj JsonValue.ofJson members.reverse name.toList
  rw [String.ofList_toList] at found
  rw [JsonRecord.get, recordOf, Dict.get?_ofList, ofJsonMembers_eq_map, ← List.map_reverse, found]

/-- In a record with its required texts the contents decide. -/
theorem validateRecord_of_texts {runtime : PythonRuntime} {record : JsonRecord}
    (texts : ∀ entry ∈ fieldReasons, isBlank (record.get entry.1) = false) :
    validateRecord runtime (some record) = validateContents runtime record := by
  have missing : (fieldReasons.find? fun entry => isBlank (record.get entry.1)) = none := by
    rw [List.find?_eq_none]
    intro entry member
    rw [texts entry member]
    decide
  refine validateRecord_of_present missing ?_
  rintro rfl
  cases texts ("event_id", .missingEventId) (by simp [fieldReasons])

/-- The texts of the record of an object are printed if the members are. -/
theorem texts_recordOf {members : List (List Char × Json.Value)}
    (printed : ∀ entry ∈ fieldReasons, ∃ text, isBlankText text = false ∧
      Dict.get? members.reverse entry.1.toList = some (Json.Value.ofText text)) :
    ∀ entry ∈ fieldReasons, isBlank ((recordOf members).get entry.1) = false := by
  intro entry member
  obtain ⟨text, shown, found⟩ := printed entry member
  rw [recordOf_get, found]
  simpa [JsonValue.ofJson, Json.Value.ofText, isBlank] using shown

section Verdicts

variable {runtime : PythonRuntime} (standard : StandardLibrary runtime)
include standard

theorem verdict_of_dumps {members : List (List Char × Json.Value)}
    (scalars : ∀ member ∈ members, IsScalar member.2) :
    (validateJsonString runtime (String.ofList (Json.Value.object members).write)).map Prod.fst =
      validateRecord runtime (some (recordOf members)) :=
  validateJsonString_of_loads runtime (standard.loads_dumps members scalars)

/-- A text which stands for a time in UTC is a timestamp. -/
theorem isValidTimestamp_of_replaceZ {text : String} {now : Instant}
    (printed : isBlankText text = false) (replaced : replaceZ text = now.isoformat) :
    isValidTimestamp runtime (.text text) = .ok true := by
  have read := standard.fromIsoformat now
  simp [isValidTimestamp, isBlank, printed, PythonRuntime.str, replaced, read]

/-- Every event is accepted. -/
theorem verdict_event (event : GeneratedEvent) :
    (validateJsonString runtime event.message.value).map Prod.fst = .ok .valid := by
  rw [GeneratedEvent.message, verdict_of_dumps standard, GeneratedEvent.toDict,
    validateRecord_of_texts, @validateContents_eq _ _ true, recordOf_get]
  · have amount : isValidAmount runtime (.real (.ofBinary event.amount.rounded)) = .ok true :=
      congrArg Except.ok event.amount.isAtLeastZero_rounded
    show (if true then (isValidAmount runtime (.real (.ofBinary event.amount.rounded))).map _
      else _) = _
    rw [amount]
    rfl
  · rw [recordOf_get]
    show isValidTimestamp runtime (.text (String.ofList (utcNowIso event.now).toList)) = _
    rw [String.ofList_toList]
    exact isValidTimestamp_of_replaceZ standard (isBlankText_utcNowIso event.now)
      (replaceZ_utcNowIso event.now)
  · apply texts_recordOf
    simp only [fieldReasons, List.forall_mem_cons]
    exact ⟨⟨event.eventId, isBlankText_eventId event, rfl⟩,
      ⟨event.userId, isBlankText_userId event, rfl⟩,
      ⟨event.accountId, isBlankText_accountId event, rfl⟩,
      ⟨event.eventType, isBlankText_eventType event, rfl⟩, by simp⟩
  · exact isScalar_of_mem_toDict

theorem verdict_missingEventId (now : Instant) :
    (validateJsonString runtime (missingEventId now)).map Prod.fst =
      .ok (.invalid .missingEventId) := by
  rw [missingEventId, verdict_of_dumps standard]
  · refine @validateRecord_of_missing runtime ("event_id", .missingEventId) _ ?_ ?_
    · rw [fieldReasons, List.find?_cons, recordOf_get]
      rfl
    · intro empty
      have user := congrArg (JsonRecord.get · "user_id") empty
      rw [recordOf_get] at user
      cases user
  · simp [Json.entry, Json.Value.ofText, Json.Value.ofFloat, IsScalar]

theorem verdict_nullEventTimestamp :
    (validateJsonString runtime nullEventTimestamp).map Prod.fst =
      .ok (.invalid .nullEventTimestamp) := by
  rw [nullEventTimestamp, verdict_of_dumps standard, validateRecord_of_texts,
    @validateContents_eq _ _ false]
  · rfl
  · rw [recordOf_get]
    rfl
  · apply texts_recordOf
    simp only [fieldReasons, List.forall_mem_cons]
    exact ⟨⟨"evt-bad-null-ts", by decide, rfl⟩, ⟨"user_00002", by decide, rfl⟩,
      ⟨"acct_00002", by decide, rfl⟩, ⟨"purchase", by decide, rfl⟩, by simp⟩
  · simp [Json.entry, Json.Value.ofText, Json.Value.ofFloat, IsScalar]

theorem verdict_invalidAmount (now : Instant) :
    (validateJsonString runtime (invalidAmount now)).map Prod.fst =
      .ok (.invalid .invalidAmount) := by
  rw [invalidAmount, verdict_of_dumps standard, validateRecord_of_texts,
    @validateContents_eq _ _ true, recordOf_get]
  · show (if true then (isValidAmount runtime (.text (String.ofList "not-a-number".toList))).map _
      else _) = _
    have printed : isBlankText "not-a-number" = false := by decide
    rw [String.ofList_toList]
    simp [isValidAmount, isBlank, printed, PythonRuntime.float, standard.float_words,
      PyException.valueError, PyException.isValueOrTypeError]
    rfl
  · rw [recordOf_get]
    show isValidTimestamp runtime (.text (String.ofList now.isoformat.toList)) = _
    rw [String.ofList_toList]
    exact isValidTimestamp_of_replaceZ standard (isBlankText_isoformat now)
      (replaceZ_isoformat now)
  · apply texts_recordOf
    simp only [fieldReasons, List.forall_mem_cons]
    exact ⟨⟨"evt-bad-amount", by decide, rfl⟩, ⟨"user_00003", by decide, rfl⟩,
      ⟨"acct_00003", by decide, rfl⟩, ⟨"refund", by decide, rfl⟩, by simp⟩
  · simp [Json.entry, Json.Value.ofText, IsScalar]

theorem verdict_malformedJson :
    (validateJsonString runtime malformedJson).map Prod.fst = .ok (.invalid .malformedJson) := by
  obtain ⟨exc, raises, decode⟩ := standard.loads_malformedJson
  have printed : isBlankText malformedJson = false := by decide
  have parsed : parseJsonPayload runtime malformedJson = .ok (none, some .malformedJson) := by
    simp [parseJsonPayload, printed, raises, decode]
  rw [validateJsonString, parsed]
  rfl

/-- Every bad payload is rejected, for the reason which its generator is named after. -/
theorem verdict_bad (bad : BadEvent) :
    (validateJsonString runtime bad.payload).map Prod.fst = .ok (.invalid bad.reason) := by
  cases bad with
  | missingEventId now => exact verdict_missingEventId standard now
  | nullEventTimestamp => exact verdict_nullEventTimestamp standard
  | invalidAmount now => exact verdict_invalidAmount standard now
  | malformedJson => exact verdict_malformedJson standard

end Verdicts

/-! ## Streams -/

/-- The number of an event is written between two dashes of its id. -/
theorem sequence_eq_of_eventId {left right : GeneratedEvent} (same : left.eventId = right.eventId) :
    left.sequence = right.sequence := by
  have chars := congrArg String.toList same
  simp only [GeneratedEvent.eventId, paddedText, String.toList_append, String.toList_ofList,
    List.append_assoc, List.append_cancel_left_eq] at chars
  have digits : ∀ number : Nat, ∀ c ∈ Iso.padded 10 number, c.isDigit = true :=
    fun number c member => Iso.isDigit_of_mem_padded member
  have stops : ∀ rest : List Char, ∀ c,
      ("-".toList ++ rest).head? = some c → c.isDigit = false := by
    intro rest c head
    obtain rfl := Option.some.inj head
    decide
  have left_digits := (Runs.takeWhile_dropWhile_append (digits left.sequence)
    (stops left.hex.toList)).1
  have right_digits := (Runs.takeWhile_dropWhile_append (digits right.sequence)
    (stops right.hex.toList)).1
  rw [chars, right_digits] at left_digits
  rw [← Iso.ofDigitChars_padded 10 left.sequence, ← left_digits, Iso.ofDigitChars_padded]

/-- A message with a key has the event id of its number as the key. -/
theorem Sends.key_eq {sequence : Nat} {message : Message} (sends : Sends sequence message)
    {key : String} (keyed : message.key = some key) :
    ∃ event : GeneratedEvent, event.sequence = sequence ∧ event.eventId = key := by
  cases sends with
  | event event numbered => exact ⟨event, numbered, Option.some.inj keyed⟩
  | bad bad => cases keyed

/-- No two messages have the same key. -/
theorem keys_nodup {messages : List Message} (stream : IsStream messages) :
    (messages.filterMap Message.key).Nodup := by
  have apart : messages.Pairwise fun earlier later =>
      ∀ key ∈ earlier.key, ∀ key' ∈ later.key, key ≠ key' := by
    rw [List.pairwise_iff_getElem]
    rintro number number' bound bound' less key keyed key' keyed' rfl
    obtain ⟨event, numbered, id_eq⟩ :=
      (stream number _ (List.getElem?_eq_getElem bound)).key_eq keyed
    obtain ⟨event', numbered', id_eq'⟩ :=
      (stream number' _ (List.getElem?_eq_getElem bound')).key_eq keyed'
    have same := sequence_eq_of_eventId (id_eq.trans id_eq'.symm)
    omega
  exact apart.filterMap _ fun earlier later differ key keyed key' keyed' =>
    differ key keyed key' keyed'

/-- What the validator says to the messages of a producer: it accepts those with a key, which are
events, and rejects each other one for the reason of its generator.  No two keys are the same. -/
theorem stream_verdicts {runtime : PythonRuntime} (standard : StandardLibrary runtime)
    {messages : List Message} (stream : IsStream messages) :
    (∀ message ∈ messages,
      (∃ event : GeneratedEvent, message = event.message ∧
        (validateJsonString runtime message.value).map Prod.fst = .ok .valid) ∨
      ∃ bad : BadEvent, message = bad.message ∧
        (validateJsonString runtime message.value).map Prod.fst = .ok (.invalid bad.reason)) ∧
    (messages.filterMap Message.key).Nodup := by
  constructor
  · intro message member
    obtain ⟨number, found⟩ := List.mem_iff_getElem?.mp member
    cases stream number message found with
    | event event numbered => exact .inl ⟨event, rfl, verdict_event standard event⟩
    | bad bad => exact .inr ⟨bad, rfl, verdict_bad standard bad⟩
  · exact keys_nodup stream

/-- A standard library which reads the texts that are written above. -/
def readingRuntime : PythonRuntime where
  loads raw :=
    let failed : PyException := { type := .other "JSONDecodeError", message := "Expecting value" }
    if isBlankText raw then .error failed
    else ((Json.Value.read raw.toList).map fun value => Except.ok (.ofJson value)).getD
      (.error failed)
  loads_blank raw value blank := by simp [blank]
  fromIsoformat text :=
    if (Iso.fromisoformat text.toList).isSome then .ok () else .error (isoformatError text)
  floatOfText _ := none
  repr _ := ""

theorem standardLibrary_readingRuntime : StandardLibrary readingRuntime where
  loads_dumps members _ := by
    have printed : isBlankText (String.ofList (Json.Value.object members).write) = false := by
      have brace : isPySpace '\x7b' = false := by decide
      rcases members with _ | ⟨⟨name, value⟩, _ | ⟨next, members⟩⟩ <;>
        simp [isBlankText, Json.Value.write, Json.writeEntries, brace]
    simp [readingRuntime, printed, Json.Value.read_write]
  loads_malformedJson := by
    have printed : isBlankText malformedJson = false := by decide
    have unread : (Json.Value.read malformedJson.toList).isNone = true := by decide +kernel
    rw [Option.isNone_iff_eq_none] at unread
    exact ⟨_, by simp only [readingRuntime, printed, unread]; rfl, rfl⟩
  fromIsoformat now := by
    have read := Iso.fromisoformat_isoformat (DateTime.ofInstant_spec now.property).1
    simp [readingRuntime, Instant.isoformat, read]
  float_words := rfl

def oneHalf : Binary64.Finite := ⟨false, 2 ^ 52, 1021, by decide, by decide, by decide⟩

def almostThousand : Binary64.Finite :=
  ⟨false, 0x1f3feb851eb852, 1031, by decide, by decide, by decide⟩

/-- A purchase of 999.99. -/
def dearPurchase : GeneratedEvent where
  sequence := 1
  now := ⟨0, by decide⟩
  hex := "9f86d081"
  user := 17
  account := 4
  eventType := "purchase"
  amount := {
    number := almostThousand
    positive := rfl
    least := ⟨oneHalf, by decide +kernel, by decide +kernel⟩
    most := ⟨almostThousand, by decide +kernel, Nat.le_refl _⟩ }
  region := "us-east"
  deviceType := "tv"
  eventType_mem := by decide

theorem stream_verdicts_dearPurchase :
    (validateJsonString readingRuntime dearPurchase.message.value).map Prod.fst = .ok .valid := by
  have stream : IsStream ([] ++ [dearPurchase.message]) :=
    isStream_nil.append (.event dearPurchase rfl)
  obtain ⟨verdicts, -⟩ := stream_verdicts standardLibrary_readingRuntime stream
  rcases verdicts dearPurchase.message (by simp) with ⟨event, -, valid⟩ | ⟨bad, same, -⟩
  · exact valid
  · exact absurd (congrArg Message.key same) (by simp [GeneratedEvent.message, BadEvent.message])

end Lakehouse
