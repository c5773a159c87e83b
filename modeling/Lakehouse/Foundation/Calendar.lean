import Mathlib.Data.Nat.Basic

/-!
# The proleptic Gregorian calendar

Dates of the years 1 to 9999 and their ordinals, where the first of January of the year 1 has the
ordinal 1, and the instants of a date and a time of day, in microseconds from the year 1970.
-/

namespace Foundation.Calendar

/-! ## Months -/

/-- Days in the months before a month. -/
def monthStart (leap : Bool) (month : Nat) : Nat :=
  [0, 0, 31, 59, 90, 120, 151, 181, 212, 243, 273, 304, 334].getD month 0 +
    if 2 < month ∧ leap then 1 else 0

def monthLength (leap : Bool) (month : Nat) : Nat :=
  [0, 31, 28, 31, 30, 31, 30, 31, 31, 30, 31, 30, 31].getD month 0 +
    if month = 2 ∧ leap then 1 else 0

theorem monthLength_le (leap : Bool) {month : Nat} (last : month ≤ 12) :
    monthLength leap month ≤ 31 := by
  have all : ∀ leap, ∀ month < 13, monthLength leap month ≤ 31 := by decide
  exact all leap month (Nat.lt_succ_of_le last)

/-- Month and day of the month of a day of the year, counted from 0.  The estimate of the month is
exact or one too large. -/
def monthDay (leap : Bool) (day : Nat) : Nat × Nat :=
  let month := (day + 50) / 32
  if day < monthStart leap month then (month - 1, day - monthStart leap (month - 1) + 1)
  else (month, day - monthStart leap month + 1)

/-- A day is in the month which is found for it. -/
theorem monthDay_spec (leap : Bool) {day : Nat} (within : day < 365) :
    (1 ≤ (monthDay leap day).1 ∧ (monthDay leap day).1 ≤ 12) ∧
      (1 ≤ (monthDay leap day).2 ∧ (monthDay leap day).2 ≤ monthLength leap (monthDay leap day).1) ∧
        monthStart leap (monthDay leap day).1 + (monthDay leap day).2 = day + 1 := by
  revert leap day
  decide +kernel

/-! ## Dates -/

structure Date where
  year : Nat
  month : Nat
  day : Nat
  deriving DecidableEq

def isLeap (year : Nat) : Bool :=
  year % 4 = 0 && (year % 100 ≠ 0 || year % 400 = 0)

/-- Days before the first of January of a year. -/
def yearStart (year : Nat) : Nat :=
  (year - 1) * 365 + (year - 1) / 4 - (year - 1) / 100 + (year - 1) / 400

namespace Date

structure IsValid (date : Date) : Prop where
  year : 1 ≤ date.year ∧ date.year ≤ 9999
  month : 1 ≤ date.month ∧ date.month ≤ 12
  day : 1 ≤ date.day ∧ date.day ≤ monthLength (isLeap date.year) date.month

def toOrdinal (date : Date) : Nat :=
  yearStart date.year + monthStart (isLeap date.year) date.month + date.day

/-- The date of a positive ordinal, found through the cycles of 400, 100 and 4 years. -/
def ofOrdinal (ordinal : Nat) : Date :=
  let days := ordinal - 1
  let n400 := days / 146097
  let days := days % 146097
  let n100 := days / 36524
  let days := days % 36524
  let n4 := days / 1461
  let days := days % 1461
  let n1 := days / 365
  let year := n400 * 400 + 1 + n100 * 100 + n4 * 4 + n1
  -- the last day of a leap year starts another block of 365 days
  if n1 = 4 ∨ n100 = 4 then { year := year - 1, month := 12, day := 31 }
  else
    let leap : Bool := n1 = 3 ∧ (n4 ≠ 24 ∨ n100 = 3)
    let (month, day) := monthDay leap (days % 365)
    { year, month, day }

/-- The ordinal of the last day of the year 9999. -/
def maxOrdinal : Nat := 3652059

example : ofOrdinal 719163 = ⟨1970, 1, 1⟩ ∧ ofOrdinal maxOrdinal = ⟨9999, 12, 31⟩ := by decide

/-- Days before a year, by the position of the year in its cycles. -/
theorem yearStart_cycles {n400 n100 n4 n1 : Nat} (century : n100 ≤ 3) (four : n4 ≤ 24)
    (one : n1 ≤ 3) :
    yearStart (n400 * 400 + 1 + n100 * 100 + n4 * 4 + n1) =
      146097 * n400 + 36524 * n100 + 1461 * n4 + 365 * n1 := by
  unfold yearStart
  omega

theorem isLeap_cycles {n400 n100 n4 n1 : Nat} (century : n100 ≤ 3) (four : n4 ≤ 24)
    (one : n1 ≤ 3) :
    isLeap (n400 * 400 + 1 + n100 * 100 + n4 * 4 + n1) = true ↔
      n1 = 3 ∧ (n4 ≠ 24 ∨ n100 = 3) := by
  simp only [isLeap, Bool.and_eq_true, Bool.or_eq_true, decide_eq_true_eq]
  omega

/-- The last day of a leap year. -/
theorem spec_of_last {n400 n100 n4 : Nat} (century : n100 ≤ 3) (four : n4 ≤ 24)
    (leap : n4 ≠ 24 ∨ n100 = 3) (last : n400 * 400 + 1 + n100 * 100 + n4 * 4 + 3 ≤ 9999) :
    IsValid ⟨n400 * 400 + 1 + n100 * 100 + n4 * 4 + 3, 12, 31⟩ ∧
      toOrdinal ⟨n400 * 400 + 1 + n100 * 100 + n4 * 4 + 3, 12, 31⟩ =
        146097 * n400 + 36524 * n100 + 1461 * n4 + 1461 := by
  have is_leap := (@isLeap_cycles n400 n100 n4 3 century four (Nat.le_refl 3)).mpr ⟨rfl, leap⟩
  have start := @yearStart_cycles n400 n100 n4 3 century four (Nat.le_refl 3)
  have before : monthStart true 12 = 335 := by decide
  have length : monthLength true 12 = 31 := by decide
  refine ⟨⟨⟨by dsimp only; omega, last⟩, by dsimp only; omega, ?_⟩, ?_⟩
  · dsimp only
    rw [is_leap, length]
    decide
  · show yearStart _ + monthStart (isLeap _) 12 + 31 = _
    rw [is_leap, start, before]

/-- Any other day. -/
theorem spec_of_monthDay {n400 n100 n4 n1 day : Nat} (century : n100 ≤ 3) (four : n4 ≤ 24)
    (one : n1 ≤ 3) (within : day < 365)
    (last : n400 * 400 + 1 + n100 * 100 + n4 * 4 + n1 ≤ 9999) {date : Date}
    (year : date.year = n400 * 400 + 1 + n100 * 100 + n4 * 4 + n1)
    (found : (date.month, date.day) =
      monthDay (decide (n1 = 3 ∧ (n4 ≠ 24 ∨ n100 = 3))) day) :
    date.IsValid ∧ date.toOrdinal =
      146097 * n400 + 36524 * n100 + 1461 * n4 + 365 * n1 + day + 1 := by
  have leap : isLeap date.year = decide (n1 = 3 ∧ (n4 ≠ 24 ∨ n100 = 3)) := by
    rw [year, Bool.eq_iff_iff, isLeap_cycles century four one, decide_eq_true_iff]
  have start := @yearStart_cycles n400 n100 n4 n1 century four one
  rw [← leap] at found
  obtain ⟨months, days, total⟩ := monthDay_spec (isLeap date.year) within
  rw [← found] at months days total
  dsimp only at months days total
  refine ⟨⟨by omega, months, days⟩, ?_⟩
  rw [toOrdinal, year, start, ← year]
  omega

/-- Every ordinal is that of the date found for it. -/
theorem ofOrdinal_spec {ordinal : Nat} (positive : 1 ≤ ordinal) (last : ordinal ≤ maxOrdinal) :
    (ofOrdinal ordinal).IsValid ∧ (ofOrdinal ordinal).toOrdinal = ordinal := by
  unfold maxOrdinal at last
  unfold ofOrdinal
  dsimp only
  generalize n400_eq : (ordinal - 1) / 146097 = n400
  generalize rest400_eq : (ordinal - 1) % 146097 = rest400
  generalize n100_eq : rest400 / 36524 = n100
  generalize rest100_eq : rest400 % 36524 = rest100
  generalize n4_eq : rest100 / 1461 = n4
  generalize rest4_eq : rest100 % 1461 = rest4
  generalize n1_eq : rest4 / 365 = n1
  generalize day_eq : rest4 % 365 = day
  have four : n4 ≤ 24 := by omega
  split
  · rename_i special
    rcases special with year_end | cycle_end
    · have century : n100 ≤ 3 := by omega
      have year_eq : n400 * 400 + 1 + n100 * 100 + n4 * 4 + n1 - 1 =
          n400 * 400 + 1 + n100 * 100 + n4 * 4 + 3 := by omega
      have ordinal_eq : ordinal = 146097 * n400 + 36524 * n100 + 1461 * n4 + 1461 := by omega
      rw [year_eq]
      obtain ⟨valid, total⟩ := @spec_of_last n400 n100 n4 century four (by omega) (by omega)
      exact ⟨valid, total.trans ordinal_eq.symm⟩
    · have year_eq : n400 * 400 + 1 + n100 * 100 + n4 * 4 + n1 - 1 =
          n400 * 400 + 1 + 3 * 100 + 24 * 4 + 3 := by omega
      have ordinal_eq : ordinal = 146097 * n400 + 36524 * 3 + 1461 * 24 + 1461 := by omega
      rw [year_eq]
      obtain ⟨valid, total⟩ := @spec_of_last n400 3 24 (by omega) (by omega) (by omega) (by omega)
      exact ⟨valid, total.trans ordinal_eq.symm⟩
  · rename_i regular
    have ordinal_eq : ordinal =
        146097 * n400 + 36524 * n100 + 1461 * n4 + 365 * n1 + day + 1 := by omega
    have within : day < 365 := by omega
    generalize found : monthDay (decide (n1 = 3 ∧ (n4 ≠ 24 ∨ n100 = 3))) day = month_day
    obtain ⟨valid, total⟩ := @spec_of_monthDay n400 n100 n4 n1 day (by omega) four (by omega)
      within (by omega) ⟨_, month_day.1, month_day.2⟩ rfl found.symm
    exact ⟨valid, total.trans ordinal_eq.symm⟩

end Date

/-! ## Instants -/

/-- A date and a time of day. -/
structure DateTime where
  date : Date
  hour : Nat
  minute : Nat
  second : Nat
  microsecond : Nat
  deriving DecidableEq

/-- Microseconds of a day. -/
def dayLength : Nat := 86400000000

/-- The start of the year 1, in microseconds from the start of the year 1970. -/
def firstInstant : Int := -62135596800000000

/-- The instants of the years 1 to 9999. -/
def InRange (instant : Int) : Prop :=
  firstInstant ≤ instant ∧ instant < firstInstant + Date.maxOrdinal * dayLength

instance (instant : Int) : Decidable (InRange instant) :=
  inferInstanceAs (Decidable (_ ∧ _))

namespace DateTime

structure IsValid (time : DateTime) : Prop where
  date : time.date.IsValid
  hour : time.hour < 24
  minute : time.minute < 60
  second : time.second < 60
  microsecond : time.microsecond < 1000000

/-- The instant at which it is this time in UTC. -/
def instant (time : DateTime) : Int :=
  firstInstant + (time.date.toOrdinal - 1) * dayLength +
    (((time.hour * 60 + time.minute) * 60 + time.second) * 1000000 + time.microsecond)

/-- The time in UTC at an instant. -/
def ofInstant (instant : Int) : DateTime :=
  let elapsed := (instant - firstInstant).toNat
  let within := elapsed % dayLength
  { date := Date.ofOrdinal (elapsed / dayLength + 1)
    hour := within / 3600000000
    minute := within / 60000000 % 60
    second := within / 1000000 % 60
    microsecond := within % 1000000 }

example : (ofInstant 0).date = ⟨1970, 1, 1⟩ := by decide +kernel

/-- The instants of the calendar are those of their times. -/
theorem ofInstant_spec {instant : Int} (range : InRange instant) :
    (ofInstant instant).IsValid ∧ (ofInstant instant).instant = instant := by
  obtain ⟨first, last⟩ := range
  obtain ⟨elapsed, elapsed_eq⟩ := Int.le.dest first
  have elapsed_lt : elapsed < Date.maxOrdinal * dayLength := by omega
  have back : (instant - firstInstant).toNat = elapsed := by omega
  have ordinal_le : elapsed / dayLength + 1 ≤ Date.maxOrdinal :=
    Nat.div_lt_of_lt_mul (Nat.mul_comm _ _ ▸ elapsed_lt)
  obtain ⟨valid, total⟩ := Date.ofOrdinal_spec (Nat.le_add_left 1 _) ordinal_le
  unfold ofInstant
  rw [back]
  refine ⟨⟨valid, ?_, ?_, ?_, ?_⟩, ?_⟩
  · dsimp only
    unfold dayLength
    omega
  · dsimp only
    omega
  · dsimp only
    omega
  · dsimp only
    omega
  · dsimp only [DateTime.instant]
    rw [total]
    unfold dayLength
    omega

end DateTime

end Foundation.Calendar
