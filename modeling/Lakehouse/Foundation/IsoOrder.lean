import Mathlib.Data.String.Basic
import Mathlib.Tactic.Ring
import Lakehouse.Foundation.IsoFormat

/-!
# The order of ISO texts

The texts of UTC times are ordered like the times up to the second.  Within a second, the time
without a fraction comes last, as the letter `Z` is behind the point.
-/

namespace Foundation.Iso

open Calendar

/-! ## Numbers of a fixed width -/

/-- The texts differ, and the first one is smaller at the first difference. -/
def Before (text text' : List Char) : Prop :=
  ∀ rest rest' : List Char, text ++ rest < text' ++ rest'

namespace Before

variable {text text' : List Char}

theorem append (before : Before text text') (behind behind' : List Char) :
    Before (text ++ behind) (text' ++ behind') := by
  intro rest rest'
  rw [List.append_assoc, List.append_assoc]
  exact before _ _

theorem append_left (front : List Char) (before : Before text text') :
    Before (front ++ text) (front ++ text') := by
  intro rest rest'
  rw [List.append_assoc, List.append_assoc]
  exact List.append_left_lt (before rest rest')

theorem cons_of_lt {c c' : Char} (less : c < c') : Before (c :: text) (c' :: text') :=
  fun _ _ => List.cons_lt_cons_iff.mpr (.inl less)

theorem cons (c : Char) (before : Before text text') : Before (c :: text) (c :: text') :=
  before.append_left [c]

end Before

/-- The value of digits behind a number. -/
theorem ofDigitChars_bounds {digits : List Char} (all : ∀ c ∈ digits, c.isDigit = true)
    (value : Nat) :
    value * 10 ^ digits.length ≤ Nat.ofDigitChars 10 digits value ∧
      Nat.ofDigitChars 10 digits value < (value + 1) * 10 ^ digits.length := by
  induction digits generalizing value with
  | nil => simp
  | cons c digits ih =>
      have digit : 48 ≤ c.toNat ∧ c.toNat ≤ 57 := by
        simpa [Char.isDigit, UInt32.le_iff_toNat_le] using all c List.mem_cons_self
      obtain ⟨lower, upper⟩ := ih (fun d member => all d (List.mem_cons_of_mem c member))
        (10 * value + (c.toNat - '0'.toNat))
      have zero : '0'.toNat = 48 := rfl
      have first : 10 * value ≤ 10 * value + (c.toNat - '0'.toNat) := Nat.le_add_right _ _
      have last : 10 * value + (c.toNat - '0'.toNat) + 1 ≤ 10 * (value + 1) := by omega
      rw [Nat.ofDigitChars_cons, List.length_cons, Nat.pow_succ]
      constructor
      · calc
          value * (10 ^ digits.length * 10) = 10 * value * 10 ^ digits.length := by ring
          _ ≤ (10 * value + (c.toNat - '0'.toNat)) * 10 ^ digits.length :=
            Nat.mul_le_mul_right _ first
          _ ≤ _ := lower
      · calc
          _ < (10 * value + (c.toNat - '0'.toNat) + 1) * 10 ^ digits.length := upper
          _ ≤ 10 * (value + 1) * 10 ^ digits.length := Nat.mul_le_mul_right _ last
          _ = (value + 1) * (10 ^ digits.length * 10) := by ring

/-- Of as many digits, those of the smaller number come first. -/
theorem before_of_ofDigitChars_lt {digits digits' : List Char}
    (all : ∀ c ∈ digits, c.isDigit = true) (all' : ∀ c ∈ digits', c.isDigit = true)
    (lengths : digits.length = digits'.length) (value : Nat)
    (less : Nat.ofDigitChars 10 digits value < Nat.ofDigitChars 10 digits' value) :
    Before digits digits' := by
  induction digits generalizing digits' value with
  | nil =>
      obtain rfl := List.length_eq_zero_iff.mp lengths.symm
      exact absurd less (Nat.lt_irrefl _)
  | cons c digits ih =>
      cases digits' with
      | nil => simp at lengths
      | cons c' digits' =>
          have tails : digits.length = digits'.length := Nat.succ.inj lengths
          have tail_all := fun d member => all d (List.mem_cons_of_mem c member)
          have tail_all' := fun d member => all' d (List.mem_cons_of_mem c' member)
          rw [Nat.ofDigitChars_cons, Nat.ofDigitChars_cons] at less
          rcases lt_trichotomy c c' with smaller | rfl | larger
          · exact Before.cons_of_lt smaller
          · exact (ih tail_all tail_all' tails _ less).cons c
          · have codes : c'.toNat < c.toNat := UInt32.lt_iff_toNat_lt.mp larger
            have digit' : 48 ≤ c'.toNat := by
              simpa [Char.isDigit, UInt32.le_iff_toNat_le] using
                (Bool.and_eq_true_iff.mp (all' c' List.mem_cons_self)).1
            have zero : '0'.toNat = 48 := rfl
            have lower := (ofDigitChars_bounds tail_all (10 * value + (c.toNat - '0'.toNat))).1
            have upper := (ofDigitChars_bounds tail_all' (10 * value + (c'.toNat - '0'.toNat))).2
            have step : 10 * value + (c'.toNat - '0'.toNat) + 1 ≤
                10 * value + (c.toNat - '0'.toNat) := by omega
            have scaled := Nat.mul_le_mul_right (10 ^ digits'.length) step
            rw [tails] at lower
            omega

theorem padded_before {width number number' : Nat} (positive : 0 < width)
    (less : number < number') (small : number' < 10 ^ width) :
    Before (padded width number) (padded width number') := by
  refine before_of_ofDigitChars_lt (fun c member => isDigit_of_mem_padded member)
    (fun c member => isDigit_of_mem_padded member) ?_ 0 ?_
  · rw [length_padded positive (Nat.lt_trans less small), length_padded positive small]
  · rwa [ofDigitChars_padded, ofDigitChars_padded]

/-- Numbers of one width are equal or come in their order. -/
theorem padded_eq_or_before {width number number' : Nat} (positive : 0 < width)
    (le : number ≤ number') (small : number' < 10 ^ width) :
    number = number' ∨ Before (padded width number) (padded width number') := by
  rcases le.eq_or_lt with same | less
  · exact .inl same
  · exact .inr (padded_before positive less small)

/-! ## Dates -/

theorem monthStart_add_le (leap : Bool) {month : Nat} (last : month ≤ 12) :
    monthStart leap month + monthLength leap month ≤ 365 + if leap then 1 else 0 := by
  have all : ∀ leap, ∀ month < 13,
      monthStart leap month + monthLength leap month ≤ 365 + if leap then 1 else 0 := by decide
  exact all leap month (Nat.lt_succ_of_le last)

theorem monthStart_add_le_of_lt (leap : Bool) {month month' : Nat} (first : 1 ≤ month)
    (less : month < month') (last : month' ≤ 12) :
    monthStart leap month + monthLength leap month ≤ monthStart leap month' := by
  have all : ∀ leap, ∀ month' < 13, ∀ month < month', 1 ≤ month →
      monthStart leap month + monthLength leap month ≤ monthStart leap month' := by decide
  exact all leap month' (Nat.lt_succ_of_le last) month less first

theorem yearStart_succ {year : Nat} (first : 1 ≤ year) :
    yearStart (year + 1) = yearStart year + (365 + if isLeap year then 1 else 0) := by
  obtain ⟨before, rfl⟩ := Nat.exists_eq_add_of_le' first
  have leap : isLeap (before + 1) = true ↔
      4 ∣ before + 1 ∧ (¬100 ∣ before + 1 ∨ 400 ∣ before + 1) := by
    simp [isLeap, Nat.dvd_iff_mod_eq_zero]
  have fewer : before / 100 ≤ before / 4 := Nat.div_le_div_left (by decide) (by decide)
  have centuries : 100 ∣ before + 1 → 4 ∣ before + 1 := Nat.dvd_trans (by decide)
  have cycles : 400 ∣ before + 1 → 100 ∣ before + 1 := Nat.dvd_trans (by decide)
  simp only [yearStart, Nat.add_sub_cancel, Nat.succ_div, leap]
  by_cases four : 4 ∣ before + 1
  · by_cases century : 100 ∣ before + 1
    · by_cases cycle : 400 ∣ before + 1
      · simp only [four, century, cycle, not_true_eq_false, or_true, and_self, if_true]
        omega
      · simp only [four, century, cycle, not_true_eq_false, or_self, and_false, if_true, if_false]
        omega
    · have no_cycle := mt cycles century
      simp only [four, century, no_cycle, not_false_eq_true, or_false, and_self, if_true, if_false]
      omega
  · have no_century := mt centuries four
    have no_cycle := mt cycles no_century
    simp only [four, no_century, no_cycle, false_and, if_false]
    omega

theorem yearStart_add_le {year year' : Nat} (first : 1 ≤ year) (less : year < year') :
    yearStart year + (365 + if isLeap year then 1 else 0) ≤ yearStart year' := by
  rw [← yearStart_succ first]
  induction year', less using Nat.le_induction with
  | base => exact Nat.le_refl _
  | succ year' later ih =>
      rw [yearStart_succ (first.trans (Nat.le_of_succ_le later))]
      exact ih.trans (Nat.le_add_right _ _)

section Dates

variable {date date' : Date}

theorem toOrdinal_lt_of_year_lt (valid : date.IsValid) (valid' : date'.IsValid)
    (less : date.year < date'.year) : date.toOrdinal < date'.toOrdinal := by
  have year := yearStart_add_le valid.year.1 less
  have month := monthStart_add_le (isLeap date.year) valid.month.2
  have day := valid.day.2
  have day' := valid'.day.1
  unfold Date.toOrdinal
  omega

theorem toOrdinal_lt_of_month_lt (valid : date.IsValid) (valid' : date'.IsValid)
    (year : date.year = date'.year) (less : date.month < date'.month) :
    date.toOrdinal < date'.toOrdinal := by
  have month := monthStart_add_le_of_lt (isLeap date.year) valid.month.1 less valid'.month.2
  have day := valid.day.2
  have day' := valid'.day.1
  unfold Date.toOrdinal
  rw [← year]
  omega

/-- The texts of dates are ordered like the dates. -/
theorem date_eq_or_before (valid : date.IsValid) (valid' : date'.IsValid)
    (le : date.toOrdinal ≤ date'.toOrdinal) :
    date = date' ∨ Before (writeDate date) (writeDate date') := by
  have day_small : date'.day < 10 ^ 2 :=
    Nat.lt_of_le_of_lt (valid'.day.2.trans (monthLength_le _ valid'.month.2)) (by decide)
  rcases lt_trichotomy date.year date'.year with year | year | year
  · exact .inr ((padded_before (by decide) year (Nat.lt_succ_of_le valid'.year.2)).append _ _)
  · rcases lt_trichotomy date.month date'.month with month | month | month
    · refine .inr ?_
      rw [writeDate, writeDate, year]
      refine Before.append_left _ (Before.cons '-' (Before.append ?_ _ _))
      exact padded_before (by decide) month (Nat.lt_of_le_of_lt valid'.month.2 (by decide))
    · have day_le : date.day ≤ date'.day := by
        unfold Date.toOrdinal at le
        rw [year, month] at le
        omega
      rcases @padded_eq_or_before 2 _ _ (by decide) day_le day_small with day | day
      · refine .inl ?_
        obtain ⟨y, m, d⟩ := date
        obtain ⟨y', m', d'⟩ := date'
        exact Date.mk.injEq .. ▸ ⟨year, month, day⟩
      · refine .inr ?_
        rw [writeDate, writeDate, year, month]
        exact Before.append_left _ (Before.cons '-' (Before.append_left _ (Before.cons '-' day)))
    · exact absurd (toOrdinal_lt_of_month_lt valid' valid year.symm month) (Nat.not_lt.mpr le)
  · exact absurd (toOrdinal_lt_of_year_lt valid' valid year) (Nat.not_lt.mpr le)

end Dates

/-! ## Seconds -/

/-- The text of a time down to the second. -/
def writeSecond (time : DateTime) : List Char :=
  writeDate time.date ++ 'T' :: (padded 2 time.hour ++ ':' :: (padded 2 time.minute ++ ':' ::
    padded 2 time.second))

theorem writeZulu_eq_writeSecond (time : DateTime) :
    writeZulu time (some 0) =
      writeSecond time ++ (writeFraction time.microsecond ++ "Z".toList) := by
  simp [writeZulu_eq, writeSecond, writeClock]

section Seconds

variable {time time' : DateTime}

theorem instant_div (valid : time.IsValid) :
    time.instant / 1000000 =
      -62135596800 + (time.date.toOrdinal - 1) * 86400 +
        ((time.hour * 60 + time.minute) * 60 + time.second) := by
  have fraction := valid.microsecond
  unfold DateTime.instant firstInstant dayLength
  omega

theorem instant_mod (valid : time.IsValid) : time.instant % 1000000 = time.microsecond := by
  have fraction := valid.microsecond
  unfold DateTime.instant firstInstant dayLength
  omega

/-- Two times in one second have the same text down to it; otherwise the earlier comes first. -/
theorem second_eq_or_before (valid : time.IsValid) (valid' : time'.IsValid)
    (le : time.instant / 1000000 ≤ time'.instant / 1000000) :
    (time.instant / 1000000 = time'.instant / 1000000 ∧ writeSecond time = writeSecond time') ∨
      Before (writeSecond time) (writeSecond time') := by
  have hour := valid.hour
  have hour' := valid'.hour
  have minute := valid.minute
  have minute' := valid'.minute
  have second := valid.second
  have second' := valid'.second
  have seconds_eq := instant_div valid
  have seconds_eq' := instant_div valid'
  have ordinals : time.date.toOrdinal ≤ time'.date.toOrdinal := by omega
  rcases date_eq_or_before valid.date valid'.date ordinals with date | date
  · rw [date] at seconds_eq
    have hours : time.hour ≤ time'.hour := by omega
    unfold writeSecond
    rw [date]
    rcases @padded_eq_or_before 2 _ _ (by decide) hours (Nat.lt_trans hour' (by decide)) with
      hour_eq | earlier
    · have minutes : time.minute ≤ time'.minute := by omega
      rw [hour_eq]
      rcases @padded_eq_or_before 2 _ _ (by decide) minutes (Nat.lt_trans minute' (by decide)) with
        minute_eq | earlier
      · have seconds : time.second ≤ time'.second := by omega
        rw [minute_eq]
        rcases @padded_eq_or_before 2 _ _ (by decide) seconds
          (Nat.lt_trans second' (by decide)) with second_eq | earlier
        · rw [second_eq]
          exact .inl ⟨by omega, rfl⟩
        · refine .inr (Before.append_left _ (Before.cons 'T' (Before.append_left _ ?_)))
          exact Before.cons ':' (Before.append_left _ (Before.cons ':' earlier))
      · refine .inr (Before.append_left _ (Before.cons 'T' (Before.append_left _ ?_)))
        exact Before.cons ':' (earlier.append _ _)
    · exact .inr (Before.append_left _ (Before.cons 'T' (earlier.append _ _)))
  · exact .inr (date.append _ _)

end Seconds

/-! ## Instants -/

/-- The place of an instant in the order of the texts: a whole second stands behind its
fractions. -/
def printedPlace (instant : Int) : Int :=
  if instant % 1000000 = 0 then 2 * (instant + 1000000) - 1 else 2 * instant

theorem printedPlace_cases {instant instant' : Int}
    (less : printedPlace instant < printedPlace instant') :
    instant / 1000000 < instant' / 1000000 ∨
      instant / 1000000 = instant' / 1000000 ∧ instant % 1000000 ≠ 0 ∧
        (instant' % 1000000 = 0 ∨ instant % 1000000 < instant' % 1000000) := by
  unfold printedPlace at less
  split at less <;> split at less <;> omega

/-- The places are in the order of time but for a whole second and later times within it. -/
theorem printedPlace_le_iff {instant instant' : Int} :
    printedPlace instant ≤ printedPlace instant' ↔
      instant ≤ instant' ∧
          (instant % 1000000 = 0 → instant' = instant ∨ instant + 1000000 ≤ instant') ∨
        instant' % 1000000 = 0 ∧ instant' ≤ instant ∧ instant < instant' + 1000000 := by
  unfold printedPlace
  split <;> split <;> omega

theorem writeFraction_lt {microsecond microsecond' : Nat} (fraction : microsecond ≠ 0)
    (later : microsecond' = 0 ∨ microsecond < microsecond') (small : microsecond' < 1000000)
    (rest : List Char) :
    writeFraction microsecond ++ 'Z' :: rest < writeFraction microsecond' ++ 'Z' :: rest := by
  rcases later with rfl | less
  · rw [writeFraction, if_neg fraction, writeFraction, if_pos rfl]
    exact List.cons_lt_cons_iff.mpr (.inl (by decide))
  · have fraction' : microsecond' ≠ 0 := by omega
    rw [writeFraction, if_neg fraction, writeFraction, if_neg fraction']
    exact Before.cons '.' (padded_before (by decide) less small) _ _

theorem writeZulu_lt_of_printedPlace_lt {instant instant' : Int} (range : InRange instant)
    (range' : InRange instant') (less : printedPlace instant < printedPlace instant') :
    writeZulu (DateTime.ofInstant instant) (some 0) <
      writeZulu (DateTime.ofInstant instant') (some 0) := by
  obtain ⟨valid, same⟩ := DateTime.ofInstant_spec range
  obtain ⟨valid', same'⟩ := DateTime.ofInstant_spec range'
  have fraction := instant_mod valid
  have fraction' := instant_mod valid'
  have cases_of := printedPlace_cases less
  have le : instant / 1000000 ≤ instant' / 1000000 := by omega
  have seconds := @second_eq_or_before (DateTime.ofInstant instant) (DateTime.ofInstant instant')
    valid valid' (by rw [same, same']; exact le)
  rw [same, same'] at seconds
  rw [same] at fraction
  rw [same'] at fraction'
  rw [writeZulu_eq_writeSecond, writeZulu_eq_writeSecond]
  rcases seconds with ⟨second, text⟩ | before
  · obtain later | ⟨-, fractional, last⟩ := cases_of
    · omega
    · rw [text]
      refine List.append_left_lt (writeFraction_lt ?_ ?_ valid'.microsecond [])
      · omega
      · omega
  · exact before _ _

/-- The order of the texts of UTC times. -/
theorem writeZulu_lt_iff {instant instant' : Int} (range : InRange instant)
    (range' : InRange instant') :
    writeZulu (DateTime.ofInstant instant) (some 0) <
        writeZulu (DateTime.ofInstant instant') (some 0) ↔
      printedPlace instant < printedPlace instant' := by
  refine ⟨fun text_lt => ?_, writeZulu_lt_of_printedPlace_lt range range'⟩
  rcases lt_trichotomy (printedPlace instant) (printedPlace instant') with less | same | more
  · exact less
  · have equal : instant = instant' := by
      unfold printedPlace at same
      split at same <;> split at same <;> omega
    rw [equal] at text_lt
    exact absurd text_lt (lt_irrefl _)
  · exact absurd text_lt (lt_asymm (writeZulu_lt_of_printedPlace_lt range' range more))

end Foundation.Iso
