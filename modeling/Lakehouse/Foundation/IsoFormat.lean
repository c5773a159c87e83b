import Mathlib.Algebra.Ring.Nat
import Mathlib.Data.List.TakeWhile
import Lakehouse.Foundation.Calendar

/-!
# Times as ISO texts

The texts of UTC times, whose fraction is left out where it is zero, and a reader of calendar dates
and times in the extended form, with or without an offset from UTC.
-/

namespace Foundation.Iso

open Calendar

/-! ## Numbers of a fixed width -/

/-- A number, filled with zeros on the left. -/
def padded (width number : Nat) : List Char :=
  (Nat.toDigits 10 number).leftpad width '0'

/-- Read a number of a fixed width. -/
def readNumber (width : Nat) (text : List Char) : Option (Nat × List Char) :=
  let digits := text.take width
  if digits.length = width ∧ digits.all Char.isDigit then
    some (Nat.ofDigitChars 10 digits 0, text.drop width)
  else none

/-- The digits are as many as the width. -/
theorem length_padded {width number : Nat} (positive : 0 < width) (small : number < 10 ^ width) :
    (padded width number).length = width := by
  have digits := (Nat.length_toDigits_le_iff (b := 10) (by decide) positive).mpr small
  rw [padded, List.length_leftpad, Nat.max_eq_left digits]

theorem isDigit_of_mem_padded {width number : Nat} {c : Char} (member : c ∈ padded width number) :
    c.isDigit = true := by
  rcases List.mem_append.mp member with zero | digit
  · rw [List.eq_of_mem_replicate zero]
    decide
  · exact Nat.isDigit_of_mem_toDigits (by decide) (by decide) digit

theorem ofDigitChars_padded (width number : Nat) :
    Nat.ofDigitChars 10 (padded width number) 0 = number := by
  rw [padded, List.leftpad, Nat.ofDigitChars_append, Nat.ofDigitChars_replicate_zero, Nat.mul_zero,
    Nat.ofDigitChars_ten_toDigits]

/-- A padded number is read back. -/
theorem readNumber_padded {width number : Nat} (positive : 0 < width) (small : number < 10 ^ width)
    (rest : List Char) :
    readNumber width (padded width number ++ rest) = some (number, rest) := by
  have length := length_padded positive small
  have digits : (padded width number).all Char.isDigit = true :=
    List.all_eq_true.mpr fun c member => isDigit_of_mem_padded member
  have taken : (padded width number ++ rest).take width = padded width number :=
    List.take_left' length
  have dropped : (padded width number ++ rest).drop width = rest := List.drop_left' length
  rw [readNumber, taken, dropped, if_pos ⟨length, digits⟩, ofDigitChars_padded]

/-! ## Writing -/

def writeDate (date : Date) : List Char :=
  padded 4 date.year ++ '-' :: (padded 2 date.month ++ '-' :: padded 2 date.day)

/-- The fraction of a second; nothing if it is zero. -/
def writeFraction (microsecond : Nat) : List Char :=
  if microsecond = 0 then [] else '.' :: padded 6 microsecond

def writeClock (time : DateTime) : List Char :=
  padded 2 time.hour ++ ':' :: (padded 2 time.minute ++ ':' ::
    (padded 2 time.second ++ writeFraction time.microsecond))

/-- An offset from UTC; its seconds are left out where they are zero. -/
def writeOffset (offset : Int) : List Char :=
  let size := offset.natAbs
  let seconds : List Char :=
    if size % 60000000 = 0 then []
    else ':' :: (padded 2 (size / 1000000 % 60) ++ writeFraction (size % 1000000))
  (if offset < 0 then '-' else '+') ::
    (padded 2 (size / 3600000000) ++ ':' :: (padded 2 (size / 60000000 % 60) ++ seconds))

/-- `datetime.isoformat()` of a time and its offset from UTC, if it has one. -/
def isoformat (time : DateTime) (offset : Option Int) : List Char :=
  writeDate time.date ++ 'T' :: (writeClock time ++ offset.elim [] writeOffset)

/-! ## Reading -/

/-- What follows the separator. -/
def behind (separator : Char) : List Char → Option (List Char)
  | [] => none
  | c :: rest => if c = separator then some rest else none

@[simp]
theorem behind_cons (separator : Char) (rest : List Char) :
    behind separator (separator :: rest) = some rest :=
  if_pos rfl

/-- Read a calendar date, and what follows it. -/
def readDate (text : List Char) : Option (Date × List Char) := do
  let (year, rest) ← readNumber 4 text
  let (month, rest) ← readNumber 2 (← behind '-' rest)
  let (day, rest) ← readNumber 2 (← behind '-' rest)
  return ({ year, month, day }, rest)

/-- Microseconds of the digits of a fraction; those after the sixth are dropped. -/
def readFraction (digits : List Char) : Option Nat :=
  if digits ≠ [] ∧ digits.all Char.isDigit then
    some (Nat.ofDigitChars 10 (digits.take 6) 0 * 10 ^ (6 - digits.length))
  else none

/-- Hour, minute, second and microsecond of `HH[:MM[:SS[.f]]]`; the point can be a comma. -/
def readClock (text : List Char) : Option (Nat × Nat × Nat × Nat) := do
  let (hour, rest) ← readNumber 2 text
  if rest = [] then return (hour, 0, 0, 0)
  let (minute, rest) ← readNumber 2 (← behind ':' rest)
  if rest = [] then return (hour, minute, 0, 0)
  let (second, rest) ← readNumber 2 (← behind ':' rest)
  if rest = [] then return (hour, minute, second, 0)
  let microsecond ← readFraction (← behind '.' rest <|> behind ',' rest)
  return (hour, minute, second, microsecond)

/-- Whether a character comes before the offset from UTC. -/
def isBeforeOffset (c : Char) : Bool :=
  c != '+' && c != '-' && c != 'Z'

/-- Microseconds of an offset from UTC, less than a day. -/
def readOffset (text : List Char) : Option Int := do
  let (hour, minute, second, microsecond) ← readClock text
  let offset := ((hour * 60 + minute) * 60 + second) * 1000000 + microsecond
  if offset < dayLength then some offset else none

/-- What follows the time of day: nothing, `Z` or a signed offset. -/
def readZone (text : List Char) : Option (Option Int) :=
  if text = [] then some none
  else if text = ['Z'] then some (some 0)
  else if text.head? = some '+' then (readOffset text.tail).map some
  else if text.head? = some '-' then (readOffset text.tail).map fun offset => some (-offset)
  else none

def isValid (time : DateTime) : Bool :=
  (1 ≤ time.date.year && time.date.year ≤ 9999) &&
    (1 ≤ time.date.month && time.date.month ≤ 12) &&
    (1 ≤ time.date.day &&
      time.date.day ≤ monthLength (isLeap time.date.year) time.date.month) &&
    time.hour < 24 && time.minute < 60 && time.second < 60

/-- `datetime.fromisoformat`: the time and its offset from UTC, if it has one.  Week dates and the
basic form are not read. -/
def fromisoformat (text : List Char) : Option (DateTime × Option Int) := do
  let (date, rest) ← readDate text
  -- one character, whichever it is, separates the time of day
  let timeText := rest.tail
  let (hour, minute, second, microsecond) ←
    if timeText = [] then some (0, 0, 0, 0) else readClock (timeText.takeWhile isBeforeOffset)
  let offset ← readZone (timeText.dropWhile isBeforeOffset)
  let time : DateTime := { date, hour, minute, second, microsecond }
  if isValid time then some (time, offset) else none

/-! ## Round trip -/

theorem readDate_writeDate {date : Date} (valid : date.IsValid) (rest : List Char) :
    readDate (writeDate date ++ rest) = some (date, rest) := by
  have year := @readNumber_padded 4 date.year (by decide) (Nat.lt_succ_of_le valid.year.2)
  have month := @readNumber_padded 2 date.month (by decide)
    (Nat.lt_of_le_of_lt valid.month.2 (by decide))
  have day := @readNumber_padded 2 date.day (by decide)
    (Nat.lt_of_le_of_lt (valid.day.2.trans (monthLength_le _ valid.month.2)) (by decide))
  simp [readDate, writeDate, year, month, day]

theorem readFraction_padded {microsecond : Nat} (small : microsecond < 1000000) :
    readFraction (padded 6 microsecond) = some microsecond := by
  have length : (padded 6 microsecond).length = 6 := length_padded (by decide) small
  have digits : (padded 6 microsecond).all Char.isDigit = true :=
    List.all_eq_true.mpr fun c member => isDigit_of_mem_padded member
  have nonempty : padded 6 microsecond ≠ [] := List.ne_nil_of_length_pos (by omega)
  rw [readFraction, if_pos ⟨nonempty, digits⟩, List.take_of_length_le (by omega), length,
    ofDigitChars_padded, Nat.sub_self, Nat.pow_zero, Nat.mul_one]

theorem readClock_writeClock {time : DateTime} (valid : time.IsValid) :
    readClock (writeClock time) =
      some (time.hour, time.minute, time.second, time.microsecond) := by
  have hour := @readNumber_padded 2 time.hour (by decide) (Nat.lt_trans valid.hour (by decide))
  have minute := @readNumber_padded 2 time.minute (by decide)
    (Nat.lt_trans valid.minute (by decide))
  have second := @readNumber_padded 2 time.second (by decide)
    (Nat.lt_trans valid.second (by decide))
  by_cases whole : time.microsecond = 0
  · have last := second []
    rw [List.append_nil] at last
    simp [readClock, writeClock, writeFraction, hour, minute, whole, last]
  · have fraction := readFraction_padded valid.microsecond
    simp [readClock, writeClock, writeFraction, hour, minute, second, whole, fraction]

/-- The characters of a time of day. -/
def isClockChar (c : Char) : Bool :=
  c.isDigit || c == ':' || c == '.'

theorem isClockChar_of_mem_writeClock {time : DateTime} {c : Char} (member : c ∈ writeClock time) :
    isClockChar c = true := by
  have number : ∀ {width value : Nat}, c ∈ padded width value → isClockChar c = true := by
    intro width value digit
    simp [isClockChar, isDigit_of_mem_padded digit]
  have fraction : c ∈ writeFraction time.microsecond → isClockChar c = true := by
    intro member
    unfold writeFraction at member
    split at member
    · exact absurd member List.not_mem_nil
    · rcases List.mem_cons.mp member with rfl | digit
      · rfl
      · exact number digit
  simp only [writeClock, List.mem_append, List.mem_cons] at member
  rcases member with digit | rfl | digit | rfl | digit | member
  · exact number digit
  · rfl
  · exact number digit
  · rfl
  · exact number digit
  · exact fraction member

theorem isBeforeOffset_of_isClockChar {c : Char} (clock : isClockChar c = true) :
    isBeforeOffset c = true := by
  simp only [isBeforeOffset, Bool.and_eq_true, bne_iff_ne]
  refine ⟨⟨?_, ?_⟩, ?_⟩ <;> rintro rfl <;> revert clock <;> decide

theorem isValid_eq_true {time : DateTime} (valid : time.IsValid) : isValid time = true := by
  simp [isValid, valid.date.year, valid.date.month, valid.date.day, valid.hour, valid.minute,
    valid.second]

/-- The text of a time in UTC. -/
theorem isoformat_utc (time : DateTime) :
    isoformat time (some 0) =
      (writeDate time.date ++ 'T' :: writeClock time) ++ "+00:00".toList := by
  have zone : writeOffset 0 = "+00:00".toList := by decide +kernel
  rw [isoformat, Option.elim_some, zone, List.append_assoc, List.cons_append]

/-- The text of a time in UTC is read back. -/
theorem fromisoformat_isoformat {time : DateTime} (valid : time.IsValid) :
    fromisoformat (isoformat time (some 0)) = some (time, some 0) := by
  have before : ∀ c ∈ writeClock time, isBeforeOffset c = true := fun c member =>
    isBeforeOffset_of_isClockChar (isClockChar_of_mem_writeClock member)
  have zone_eq : "+00:00".toList = '+' :: "00:00".toList := by decide
  have zone : readZone "+00:00".toList = some (some 0) := by decide +kernel
  have stops : ¬isBeforeOffset '+' = true := by decide
  have clock : (writeClock time ++ "+00:00".toList).takeWhile isBeforeOffset = writeClock time := by
    rw [zone_eq, List.takeWhile_append_of_pos before, List.takeWhile_cons_of_neg stops,
      List.append_nil]
  have offset : (writeClock time ++ "+00:00".toList).dropWhile isBeforeOffset =
      "+00:00".toList := by
    rw [zone_eq, List.dropWhile_append_of_pos before, List.dropWhile_cons_of_neg stops]
  have nonempty : writeClock time ++ "+00:00".toList ≠ [] := by
    rw [zone_eq]
    simp
  rw [isoformat_utc, List.append_assoc, List.cons_append]
  generalize "+00:00".toList = zoneText at zone clock offset nonempty ⊢
  simp only [fromisoformat, readDate_writeDate valid.date, List.tail_cons, if_neg nonempty, clock,
    offset, readClock_writeClock valid, zone, isValid_eq_true valid, bind, Option.bind_some,
    if_true]

/-! ## Replacement -/

/-- Replace the occurrences of a text from left to right, after skipping some characters. -/
def replaceFrom (old new : List Char) : Nat → List Char → List Char
  | _, [] => []
  | skipped + 1, _ :: rest => replaceFrom old new skipped rest
  | 0, c :: rest =>
      if old.isPrefixOf (c :: rest) then new ++ replaceFrom old new (old.length - 1) rest
      else c :: replaceFrom old new 0 rest

/-- `text.replace(old, new)` for a nonempty `old`. -/
def replaceAll (old new text : List Char) : List Char :=
  replaceFrom old new 0 text

/-- A text without the first character of the replaced one is kept. -/
theorem replaceAll_append {first : Char} {left : List Char} (absent : first ∉ left)
    (old new right : List Char) :
    replaceAll (first :: old) new (left ++ right) =
      left ++ replaceAll (first :: old) new right := by
  induction left with
  | nil => rfl
  | cons c left ih =>
      rw [List.mem_cons, not_or] at absent
      have other : (first == c) = false := by simpa using absent.1
      have later := ih absent.2
      rw [replaceAll] at later ⊢
      simp only [List.cons_append, replaceFrom, List.isPrefixOf, other, Bool.false_and]
      exact congrArg (List.cons c) later

/-- Neither the sign of an offset nor the letter of UTC is in what comes before the offset. -/
theorem not_mem_writeTime {time : DateTime} {c : Char} (mark : c = '+' ∨ c = 'Z') :
    c ∉ writeDate time.date ++ 'T' :: writeClock time := by
  have no_digit : c.isDigit = false := by rcases mark with rfl | rfl <;> decide
  have no_clock : isClockChar c = false := by rcases mark with rfl | rfl <;> decide
  have no_separator : c ≠ '-' ∧ c ≠ 'T' := by rcases mark with rfl | rfl <;> decide
  have number : ∀ width value : Nat, c ∉ padded width value := fun width value member =>
    Bool.false_ne_true (no_digit.symm.trans (isDigit_of_mem_padded member))
  have clock : c ∉ writeClock time := fun member =>
    Bool.false_ne_true (no_clock.symm.trans (isClockChar_of_mem_writeClock member))
  simp [writeDate, number, clock, no_separator]

/-- `isoformat` with the letter `Z` for UTC. -/
def writeZulu (time : DateTime) (offset : Option Int) : List Char :=
  replaceAll "+00:00".toList "Z".toList (isoformat time offset)

/-- `fromisoformat` of a text with the letter `Z` for UTC. -/
def readZulu (text : List Char) : Option (DateTime × Option Int) :=
  fromisoformat (replaceAll "Z".toList "+00:00".toList text)

theorem writeZulu_eq (time : DateTime) :
    writeZulu time (some 0) = (writeDate time.date ++ 'T' :: writeClock time) ++ "Z".toList := by
  have zone_eq : "+00:00".toList = '+' :: "00:00".toList := by decide
  have replaced : replaceAll "+00:00".toList "Z".toList "+00:00".toList = "Z".toList := by
    decide +kernel
  have kept := @replaceAll_append '+' _ (@not_mem_writeTime time '+' (.inl rfl)) "00:00".toList
    "Z".toList "+00:00".toList
  rw [← zone_eq, replaced] at kept
  rw [writeZulu, isoformat_utc, kept]

/-- Both replacements together change nothing. -/
theorem readZulu_writeZulu {time : DateTime} (valid : time.IsValid) :
    readZulu (writeZulu time (some 0)) = some (time, some 0) := by
  have zone_eq : "Z".toList = 'Z' :: [] := by decide
  have replaced : replaceAll "Z".toList "+00:00".toList "Z".toList = "+00:00".toList := by
    decide +kernel
  have kept := @replaceAll_append 'Z' _ (@not_mem_writeTime time 'Z' (.inr rfl)) []
    "+00:00".toList "Z".toList
  rw [← zone_eq, replaced, ← isoformat_utc] at kept
  rw [readZulu, writeZulu_eq, kept]
  exact fromisoformat_isoformat valid

end Foundation.Iso
