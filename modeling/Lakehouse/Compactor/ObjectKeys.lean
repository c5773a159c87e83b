import Mathlib.Tactic.MkIffOfInductiveProp
import Lakehouse.Compactor.FileScanner

/-!
# Object keys of a partitioned table

The key under which a data file of a partition is stored parses back to the partition, and the
scanner takes it for a log file only where the table path itself contains `_delta_log`.
-/

namespace Lakehouse

open Foundation

/-! ## Decimal digits -/

theorem decimalValue?_of_isDigit {c : Char} (digit : c.isDigit = true) :
    decimalValue? c = some (c.toNat - '0'.toNat) := by
  have bounds : 48 ≤ c.toNat ∧ c.toNat ≤ 57 := by
    simpa [Char.isDigit, UInt32.le_iff_toNat_le] using digit
  have first : 0x0030 ≤ c.toNat ∧ c.toNat < 0x0030 + 10 := by omega
  rw [decimalValue?, decimalZeros, List.findSome?_cons, if_pos first]
  rfl

theorem intOfDigits_toDigits (hour : Nat) : intOfDigits (Nat.toDigits 10 hour) = hour := by
  have agree : ∀ (digits : List Char) (value : Nat), (∀ c ∈ digits, c.isDigit = true) →
      digits.foldl (fun (value : Int) c => 10 * value + ((decimalValue? c).getD 0 : Nat)) value =
        (Nat.ofDigitChars 10 digits value : Nat) := by
    intro digits
    induction digits with
    | nil => intro value _; rfl
    | cons c digits ih =>
        intro value all
        have rest := ih (10 * value + (c.toNat - '0'.toNat)) fun other member =>
          all other (List.mem_cons_of_mem c member)
        rw [List.foldl_cons, Nat.ofDigitChars_cons, ← rest,
          decimalValue?_of_isDigit (all c List.mem_cons_self)]
        simp
  have digits : ∀ c ∈ Nat.toDigits 10 hour, c.isDigit = true := fun c member =>
    Nat.isDigit_of_mem_toDigits (by decide) (by decide) member
  have whole := agree _ 0 digits
  rwa [Nat.ofDigitChars_ten_toDigits] at whole

/-! ## Partition ids -/

/-- The characters of an integer are digits, after a minus sign if it is negative. -/
theorem toList_toString_int (value : Int) :
    (toString value).toList =
      if value < 0 then '-' :: Nat.toDigits 10 value.natAbs else Nat.toDigits 10 value.natAbs := by
  cases value with
  | ofNat m =>
      have nonneg : ¬Int.ofNat m < 0 := Int.not_lt.mpr (Int.natCast_nonneg m)
      rw [if_neg nonneg]
      exact Nat.toList_repr
  | negSucc m =>
      have negative : Int.negSucc m < 0 := by omega
      rw [if_pos negative]
      have minus : ("-" ++ Nat.repr m.succ).toList = '-' :: Nat.toDigits 10 m.succ := by
        rw [String.toList_append, Nat.toList_repr]
        rfl
      exact minus

theorem toDigits_inj {m n : Nat} : Nat.toDigits 10 m = Nat.toDigits 10 n ↔ m = n := by
  constructor
  · intro same
    have values := congrArg (Nat.ofDigitChars 10 · 0) same
    simpa only [Nat.ofDigitChars_ten_toDigits] using values
  · rintro rfl
    rfl

theorem not_mem_toDigits {c : Char} (not_digit : c.isDigit = false) (m : Nat) :
    c ∉ Nat.toDigits 10 m := by
  intro member
  have digit := Nat.isDigit_of_mem_toDigits (by decide) (by decide) member
  rw [not_digit] at digit
  exact Bool.false_ne_true digit

theorem toString_int_inj {left right : Int} : toString left = toString right ↔ left = right := by
  constructor
  · intro same
    have chars := congrArg String.toList same
    have minus : '-'.isDigit = false := by decide
    simp only [toList_toString_int] at chars
    split at chars <;> split at chars
    · have digits := toDigits_inj.mp (List.cons.inj chars).2
      omega
    · exact absurd (chars ▸ List.mem_cons_self) (not_mem_toDigits minus right.natAbs)
    · exact absurd (chars ▸ List.mem_cons_self) (not_mem_toDigits minus left.natAbs)
    · have digits := toDigits_inj.mp chars
      omega
  · rintro rfl
    rfl

/-- An integer is written with digits and a minus sign only. -/
theorem not_mem_toString_int {c : Char} (not_digit : c.isDigit = false) (not_minus : c ≠ '-')
    (value : Int) : c ∉ (toString value).toList := by
  have digits := not_mem_toDigits not_digit value.natAbs
  rw [toList_toString_int]
  split
  · simpa [not_minus] using digits
  · exact digits

theorem slash_not_mem_toString_int (value : Int) : '/' ∉ (toString value).toList :=
  not_mem_toString_int (by decide) (by decide) value

/-- Texts which agree after a common separator, and have none of it there, agree before it too. -/
private theorem append_cons_inj {α : Type} {separator : α} {left left' right right' : List α}
    (free : separator ∉ right) (free' : separator ∉ right')
    (same : left ++ separator :: right = left' ++ separator :: right') :
    left = left' ∧ right = right' := by
  rcases List.append_eq_append_iff.mp same with ⟨gap, left_eq, right_eq⟩ | ⟨gap, left_eq, right_eq⟩
  · cases gap with
    | nil => simp_all
    | cons first gap =>
        obtain ⟨-, rest⟩ := List.cons.inj right_eq
        exact absurd (by simp [rest]) free
  · cases gap with
    | nil => simp_all
    | cons first gap =>
        obtain ⟨-, rest⟩ := List.cons.inj right_eq
        exact absurd (by simp [rest]) free'

/-- A partition id determines the date and the hour. -/
theorem partitionIdText_inj {date date' : String} {hour hour' : Int} :
    partitionIdText date hour = partitionIdText date' hour' ↔ date = date' ∧ hour = hour' := by
  constructor
  · intro same
    have hour_eq : "/event_hour=".toList = '/' :: "event_hour=".toList := by decide
    have chars := congrArg String.toList same
    simp only [partitionIdText, String.toList_append, hour_eq, List.append_assoc,
      List.append_cancel_left_eq, List.cons_append] at chars
    have free : ∀ hour : Int, '/' ∉ "event_hour=".toList ++ (toString hour).toList := by
      intro hour member
      rcases List.mem_append.mp member with name | digits
      · exact absurd name (by decide)
      · exact slash_not_mem_toString_int hour digits
    obtain ⟨dates, hours⟩ := append_cons_inj (free hour) (free hour') chars
    refine ⟨String.toList_inj.mp dates, toString_int_inj.mp (String.toList_inj.mp ?_)⟩
    exact List.append_cancel_left hours
  · rintro ⟨rfl, rfl⟩
    rfl

/-! ## Keys of data files -/

/-- Key of a data file of a partition; `rest` is what follows the partition directories. -/
def dataKey (config : CompactionConfig) (eventDate : String) (eventHour : Nat) (rest : String) :
    String :=
  config.tableKeyPrefix ++ "/" ++ partitionIdText eventDate eventHour ++ "/" ++ rest ++ ".parquet"

/-- The characters of a key, cut where the pattern cuts them. -/
theorem toList_dataKey (config : CompactionConfig) (eventDate : String) (eventHour : Nat)
    (rest : String) :
    (dataKey config eventDate eventHour rest).toList =
      ((rstripSlash config.tableKeyPrefix).toList ++ "/event_date=".toList) ++
        (eventDate.toList ++ '/' :: ("event_hour=".toList ++
          (Nat.toDigits 10 eventHour ++ '/' :: (rest.toList ++ ".parquet".toList)))) := by
  have hour : (eventHour : Int).repr.toList = Nat.toDigits 10 eventHour := Nat.toList_repr
  have slash : "/".toList = ['/'] := by decide
  have date_eq : "/event_date=".toList = '/' :: "event_date=".toList := by decide
  have hour_eq : "/event_hour=".toList = '/' :: "event_hour=".toList := by decide
  simp [dataKey, partitionIdText, hour, slash, date_eq, hour_eq]

/-- The characters which `partitionRe` captures from a text, and the places where they stand. -/
@[mk_iff]
structure CapturedFrom (config : CompactionConfig) (eventDate digits text : List Char) : Prop where
  date_ne : eventDate ≠ []
  date_free : '/' ∉ eventDate
  digits_ne : digits ≠ []
  digits_decimal : ∀ c ∈ digits, (decimalValue? c).isSome = true
  /-- The end-of-text anchor admits one line break. -/
  text_eq : ∃ rest tail, '\n' ∉ rest ∧ (tail = [] ∨ tail = ['\n']) ∧
    text = ((rstripSlash config.tableKeyPrefix).toList ++ "/event_date=".toList) ++
      (eventDate ++ '/' :: ("event_hour=".toList ++
        (digits ++ '/' :: (rest ++ (".parquet".toList ++ tail)))))

theorem matches_partitionRe {config : CompactionConfig} {text : List Char}
    {groups : List (List Char)} :
    Pattern.Matches (partitionRe config) text groups ↔
      ∃ eventDate digits, groups = [eventDate, digits] ∧
        CapturedFrom config eventDate digits text := by
  have slash : "/".toList = ['/'] := by decide
  have hour : "/event_hour=".toList = '/' :: "event_hour=".toList := by decide
  simp only [partitionRe, slash, hour, Pattern.matches_literal, Pattern.matches_capture,
    Pattern.matches_many, Pattern.matches_lineEnd, Pattern.matches_nil, capturedFrom_iff]
  generalize (rstripSlash config.tableKeyPrefix).toList = start
  generalize "/event_date=".toList = dateName
  generalize "event_hour=".toList = hourName
  generalize ".parquet".toList = extension
  constructor
  · rintro ⟨_, rfl, eventDate, _, _, date_ne, date_free, rfl, rfl, _, rfl, digits, _, _, digits_ne,
      decimal, rfl, rfl, _, rfl, rest, _, no_break, rfl, tail, rfl, ends, rfl⟩
    have date_slash : '/' ∉ eventDate := fun member => by simpa using date_free '/' member
    have rest_break : '\n' ∉ rest := fun member => by simpa using no_break '\n' member
    refine ⟨eventDate, digits, rfl, date_ne, date_slash, digits_ne, decimal, rest, tail, rest_break,
      ends, ?_⟩
    simp
  · rintro ⟨eventDate, digits, rfl, date_ne, date_free, digits_ne, decimal, rest, tail, no_break,
      ends, rfl⟩
    have date_accepted : ∀ c ∈ eventDate, (c != '/') = true := by
      intro c member
      have ne : c ≠ '/' := fun same => date_free (same ▸ member)
      simpa using ne
    have rest_accepted : ∀ c ∈ rest, (c != '\n') = true := by
      intro c member
      have ne : c ≠ '\n' := fun same => no_break (same ▸ member)
      simpa using ne
    refine ⟨_, rfl, eventDate, _, [digits], date_ne, date_accepted, rfl, rfl,
      digits ++ '/' :: (rest ++ (extension ++ tail)), by simp, digits, _, [], digits_ne, decimal,
      rfl, rfl, rest ++ (extension ++ tail), by simp, rest, _, rest_accepted, rfl, tail, rfl, ends,
      rfl⟩

/-- Texts which agree up to a common separator, and have none of it before, agree before it. -/
private theorem append_cons_inj_left {α : Type} {separator : α} {left left' right right' : List α}
    (free : separator ∉ left) (free' : separator ∉ left')
    (same : left ++ separator :: right = left' ++ separator :: right') :
    left = left' ∧ right = right' := by
  have reversed := congrArg List.reverse same
  simp only [List.reverse_append, List.reverse_cons, List.append_assoc, List.singleton_append]
    at reversed
  obtain ⟨rights, lefts⟩ := append_cons_inj (by simpa using free) (by simpa using free') reversed
  exact ⟨List.reverse_injective lefts, List.reverse_injective rights⟩

/-- A text is cut in one way only. -/
theorem CapturedFrom.unique {config : CompactionConfig}
    {eventDate digits eventDate' digits' text : List Char}
    (cut : CapturedFrom config eventDate digits text)
    (cut' : CapturedFrom config eventDate' digits' text) :
    eventDate = eventDate' ∧ digits = digits' := by
  obtain ⟨rest, tail, -, -, text_eq⟩ := cut.text_eq
  obtain ⟨rest', tail', -, -, text_eq'⟩ := cut'.text_eq
  have same := List.append_cancel_left (text_eq.symm.trans text_eq')
  obtain ⟨dates, later⟩ := append_cons_inj_left cut.date_free cut'.date_free same
  have slash : decimalValue? '/' = none := by decide
  have free : ∀ digits : List Char, (∀ c ∈ digits, (decimalValue? c).isSome = true) →
      '/' ∉ digits := by
    intro digits decimal member
    have some_value := decimal '/' member
    rw [slash] at some_value
    exact Bool.false_ne_true some_value
  have hours := List.append_cancel_left later
  exact ⟨dates, (append_cons_inj_left (free digits cut.digits_decimal)
    (free digits' cut'.digits_decimal) hours).1⟩

/-- A key which is cut from its start is parsed to the partition. -/
theorem parsePartitionFromKey_of_capturedFrom {config : CompactionConfig} {key : String}
    {eventDate digits : List Char} (cut : CapturedFrom config eventDate digits key.toList) :
    parsePartitionFromKey key config =
      some (String.ofList eventDate, intOfDigits digits) := by
  have found : Pattern.search (partitionRe config) key.toList = some [eventDate, digits] := by
    refine Pattern.search_of_matches
      (matches_partitionRe.mpr ⟨eventDate, digits, rfl, cut⟩) fun other described => ?_
    obtain ⟨eventDate', digits', rfl, cut'⟩ := matches_partitionRe.mp described
    obtain ⟨rfl, rfl⟩ := cut.unique cut'
    rfl
  rw [parsePartitionFromKey, found]

/-- Every key of a data file parses back to its partition. -/
theorem parsePartitionFromKey_dataKey {config : CompactionConfig} {eventDate : String}
    {eventHour : Nat} {rest : String} (date_ne : eventDate ≠ "")
    (date_free : '/' ∉ eventDate.toList) (rest_free : '\n' ∉ rest.toList) :
    parsePartitionFromKey (dataKey config eventDate eventHour rest) config =
      some (eventDate, (eventHour : Int)) := by
  have cut : CapturedFrom config eventDate.toList (Nat.toDigits 10 eventHour)
      (dataKey config eventDate eventHour rest).toList := by
    refine ⟨fun empty => date_ne (String.toList_inj.mp empty), date_free, Nat.toDigits_ne_nil, ?_,
      rest.toList, [], rest_free, .inl rfl, ?_⟩
    · intro c member
      rw [decimalValue?_of_isDigit (Nat.isDigit_of_mem_toDigits (by decide) (by decide) member)]
      rfl
    · rw [toList_dataKey, List.append_nil]
  rw [parsePartitionFromKey_of_capturedFrom cut, intOfDigits_toDigits, String.ofList_toList]

/-- With plain dates and names, only the table path can make a data file look like a log file. -/
theorem deltaLog_infix_dataKey {config : CompactionConfig} {eventDate : String} {eventHour : Nat}
    {rest : String} (date_plain : '_' ∉ eventDate.toList) (rest_plain : '_' ∉ rest.toList) :
    "_delta_log".toList <:+: (dataKey config eventDate eventHour rest).toList ↔
      "_delta_log".toList <:+: config.tableKeyPrefix.toList := by
  have two : "_delta_log".toList.count '_' = 2 := by decide
  have free : '/' ∉ "_delta_log".toList := by decide
  have digits_plain : (Nat.toDigits 10 eventHour).count '_' = 0 :=
    List.count_eq_zero.mpr Nat.underscore_not_in_toDigits
  have date_segment : ¬"_delta_log".toList <:+: "event_date=".toList ++ eventDate.toList := by
    have fewer : ("event_date=".toList ++ eventDate.toList).count '_' <
        "_delta_log".toList.count '_' := by
      rw [two, List.count_append, List.count_eq_zero.mpr date_plain]
      decide
    exact not_infix_of_count_lt fewer
  have hour_segment :
      ¬"_delta_log".toList <:+: "event_hour=".toList ++ Nat.toDigits 10 eventHour := by
    have fewer : ("event_hour=".toList ++ Nat.toDigits 10 eventHour).count '_' <
        "_delta_log".toList.count '_' := by
      rw [two, List.count_append, digits_plain]
      decide
    exact not_infix_of_count_lt fewer
  have name_segment : ¬"_delta_log".toList <:+: rest.toList ++ ".parquet".toList := by
    have fewer : (rest.toList ++ ".parquet".toList).count '_' <
        "_delta_log".toList.count '_' := by
      rw [two, List.count_append, List.count_eq_zero.mpr rest_plain]
      decide
    exact not_infix_of_count_lt fewer
  have segments : (dataKey config eventDate eventHour rest).toList =
      config.tableKeyPrefix.toList ++ '/' :: (("event_date=".toList ++ eventDate.toList) ++ '/' ::
        (("event_hour=".toList ++ Nat.toDigits 10 eventHour) ++ '/' ::
          (rest.toList ++ ".parquet".toList))) := by
    have date_eq : "/event_date=".toList = '/' :: "event_date=".toList := by decide
    simp [toList_dataKey, date_eq]
  rw [segments, infix_append_cons free, infix_append_cons free, infix_append_cons free]
  simp only [date_segment, hour_segment, name_segment, or_false]

end Lakehouse
