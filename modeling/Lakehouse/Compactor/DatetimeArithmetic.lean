import Lakehouse.Compactor.TargetSizing
import Lakehouse.Foundation.Calendar
import Lakehouse.Time

/-!
# Arithmetic on datetimes

A `datetime` has a year from 1 to 9999, and a `timedelta` has at most 999999999 days.  Arithmetic
which leaves one of these ranges raises `OverflowError`, and the seconds of a difference are a
float.  Within the ranges it is arithmetic on the line of times.
-/

namespace Lakehouse

open Foundation
open Foundation.Calendar (InRange)

/-- `OverflowError(message)`. -/
def PyException.overflowError (message : String) : PyException where
  type := .other "OverflowError"
  message := message

/-- What arithmetic on times raises outside the years 1 to 9999. -/
def dateOverflow : PyException := .overflowError "date value out of range"

/-- A `timedelta` of so many microseconds; its days are an integer of C before they are checked. -/
def timedelta (microseconds : Int) : Except PyException Int :=
  let days := microseconds / (Foundation.Calendar.dayLength : Int)
  if days < -2147483648 ∨ 2147483647 < days then
    .error (.overflowError "Python int too large to convert to C int")
  else if days < -999999999 ∨ 999999999 < days then
    .error (.overflowError ("days=" ++ toString days ++ "; must have magnitude <= 999999999"))
  else
    .ok microseconds

/-- A `datetime` at an instant which was computed. -/
def datetimeAt (instant : Int) : Except PyException Int :=
  if InRange instant then .ok instant else .error dateOverflow

/-- `time + timedelta(..)`. -/
def plusDelta (time microseconds : Int) : Except PyException Int := do
  let delta ← timedelta microseconds
  datetimeAt (time + delta)

/-- `time - timedelta(..)`. -/
def minusDelta (time microseconds : Int) : Except PyException Int := do
  let delta ← timedelta microseconds
  datetimeAt (time - delta)

/-- `(delta).total_seconds()`, a float. -/
def totalSeconds (microseconds : Int) : ℚ := nearestFloat ((microseconds : ℚ) / 1000000)

/-- The arithmetic on times of an operation. -/
structure TimeRules where
  /-- `time + timedelta(..)`. -/
  plus : Int → Int → Except PyException Int
  /-- `(delta).total_seconds() > count`. -/
  exceeds : Int → Int → Bool

namespace TimeRules

/-- The line of times, where no sum is out of range and a difference is exact. -/
def exact : TimeRules where
  plus time microseconds := .ok (time + microseconds)
  exceeds microseconds count := microseconds > seconds count

/-- What Python computes. -/
def datetime : TimeRules where
  plus := plusDelta
  exceeds microseconds count := totalSeconds microseconds > count

end TimeRules

/-! ## In range -/

/-- The difference of two datetimes is a timedelta. -/
theorem timedelta_of_inRange {time microseconds : Int} (range : InRange time)
    (reached : InRange (time + microseconds)) : timedelta microseconds = .ok microseconds := by
  obtain ⟨first, last⟩ := range
  obtain ⟨reached_first, reached_last⟩ := reached
  have length : (Foundation.Calendar.dayLength : Int) = 86400000000 := rfl
  have ordinal : (Foundation.Calendar.Date.maxOrdinal : Int) = 3652059 := rfl
  rw [length, ordinal] at last reached_last
  have within : -999999999 ≤ microseconds / 86400000000 ∧
      microseconds / 86400000000 ≤ 999999999 := by omega
  rw [timedelta, length, if_neg (by omega), if_neg (by omega)]

theorem plusDelta_eq {time microseconds : Int} (range : InRange time)
    (reached : InRange (time + microseconds)) :
    plusDelta time microseconds = .ok (time + microseconds) := by
  rw [plusDelta, timedelta_of_inRange range reached, ok_bind, datetimeAt, if_pos reached]

theorem minusDelta_eq {time microseconds : Int} (range : InRange time)
    (reached : InRange (time - microseconds)) :
    minusDelta time microseconds = .ok (time - microseconds) := by
  have back : InRange (time - microseconds + microseconds) := by
    rwa [Int.sub_add_cancel]
  rw [minusDelta, timedelta_of_inRange reached back, ok_bind, datetimeAt, if_pos reached]

theorem eq_of_timedelta {microseconds delta : Int}
    (converted : timedelta microseconds = .ok delta) : delta = microseconds := by
  rw [timedelta] at converted
  split at converted
  · simp at converted
  · split at converted
    · simp at converted
    · exact (Except.ok.inj converted).symm

theorem inRange_of_datetimeAt {instant time : Int} (reached : datetimeAt instant = .ok time) :
    time = instant ∧ InRange instant := by
  rw [datetimeAt] at reached
  split at reached
  · rename_i range
    exact ⟨(Except.ok.inj reached).symm, range⟩
  · simp at reached

/-- What has been computed is in range. -/
theorem inRange_of_plusDelta {time microseconds result : Int}
    (computed : plusDelta time microseconds = .ok result) :
    result = time + microseconds ∧ InRange (time + microseconds) := by
  obtain ⟨delta, converted, reached⟩ := exists_of_bind_eq_ok computed
  obtain rfl := eq_of_timedelta converted
  exact inRange_of_datetimeAt reached

theorem inRange_of_minusDelta {time microseconds result : Int}
    (computed : minusDelta time microseconds = .ok result) :
    result = time - microseconds ∧ InRange (time - microseconds) := by
  obtain ⟨delta, converted, reached⟩ := exists_of_bind_eq_ok computed
  obtain rfl := eq_of_timedelta converted
  exact inRange_of_datetimeAt reached

section Seconds

variable {microseconds count : Int}

theorem totalSeconds_eq (microseconds : Int) :
    totalSeconds microseconds =
      if microseconds < 0 then -roundToFloat (-(microseconds : ℚ) / 1000000)
      else roundToFloat ((microseconds : ℚ) / 1000000) := by
  have sign : (microseconds : ℚ) / 1000000 < 0 ↔ microseconds < 0 := by
    rw [div_lt_iff₀ (by norm_num), zero_mul]
    exact_mod_cast Iff.rfl
  rw [totalSeconds, nearestFloat, neg_div]
  simp only [sign]

theorem lt_roundToFloat_seconds_iff (positive : 1 ≤ microseconds) (small : microseconds ≤ 2 ^ 53) :
    (count : ℚ) < roundToFloat ((microseconds : ℚ) / 1000000) ↔ seconds count < microseconds := by
  constructor
  · intro less
    by_contra reaches
    have rounded := @roundToFloat_div_le microseconds 1000000 count (by decide) positive small
      (not_lt.mp reaches)
    exact (rounded.trans_lt less).false
  · intro less
    exact @lt_roundToFloat_div microseconds 1000000 count (by decide) positive small less

theorem roundToFloat_seconds_lt_iff (positive : 1 ≤ microseconds) (small : microseconds ≤ 2 ^ 53) :
    roundToFloat ((microseconds : ℚ) / 1000000) < count ↔ microseconds < seconds count := by
  have positive_rat : (1 : ℚ) ≤ microseconds := by exact_mod_cast positive
  have small_rat : (microseconds : ℚ) ≤ 2 ^ 53 := by exact_mod_cast small
  constructor
  · intro less
    by_contra reaches
    have reaches_rat : (count : ℚ) * 1000000 ≤ microseconds := by
      exact_mod_cast not_lt.mp reaches
    have rounded := @le_roundToFloat ((microseconds : ℚ) / 1000000) count (by linarith)
      (by linarith) (by linarith)
    exact (rounded.trans_lt less).false
  · intro less
    exact @roundToFloat_div_lt microseconds 1000000 count (by decide) positive small less

/-- Differences up to 285 years are compared as they are. -/
theorem lt_totalSeconds_iff (small : |microseconds| ≤ 2 ^ 53) :
    (count : ℚ) < totalSeconds microseconds ↔ seconds count < microseconds := by
  obtain ⟨low, high⟩ := abs_le.mp small
  rw [totalSeconds_eq]
  split
  · rename_i negative
    have rounded := @roundToFloat_seconds_lt_iff (-microseconds) (-count) (by omega) (by omega)
    push_cast at rounded
    rw [lt_neg, rounded]
    unfold seconds
    omega
  · rename_i nonneg
    rcases (Int.not_lt.mp nonneg).eq_or_lt with zero | positive
    · rw [← zero, Int.cast_zero, zero_div, roundToFloat_zero, seconds]
      norm_cast
      omega
    · exact lt_roundToFloat_seconds_iff positive high

end Seconds

/-- The float of a difference is no more than a whole number of seconds if the difference is not. -/
theorem totalSeconds_le {microseconds count : Int} (le : microseconds ≤ seconds count)
    (small : |microseconds| < 2 ^ 53 * 1000000) : totalSeconds microseconds ≤ count := by
  obtain ⟨low, high⟩ := abs_lt.mp small
  have high_rat : (microseconds : ℚ) < 2 ^ 53 * 1000000 := by exact_mod_cast high
  have low_rat : -(2 ^ 53 * 1000000) < (microseconds : ℚ) := by exact_mod_cast low
  have le_rat : (microseconds : ℚ) ≤ count * 1000000 := by
    rw [seconds] at le
    exact_mod_cast le
  rw [totalSeconds_eq]
  split
  · rename_i negative
    have negative_rat : (microseconds : ℚ) < 0 := by exact_mod_cast negative
    have below : ((-count : ℤ) : ℚ) ≤ -(microseconds : ℚ) / 1000000 := by
      push_cast
      linarith
    have rounded := le_roundToFloat (by linarith) (by linarith) below
    push_cast at rounded
    linarith
  · rename_i nonneg
    rcases (Int.not_lt.mp nonneg).eq_or_lt with zero | positive
    · rw [← zero] at le_rat ⊢
      simpa using le_rat
    · have positive_rat : 0 < (microseconds : ℚ) := by exact_mod_cast positive
      exact roundToFloat_le (by linarith) (by linarith) (by linarith)

/-- Any two times are less than 2^53 seconds apart. -/
theorem abs_sub_lt_of_inRange {left right : Int} (left_range : InRange left)
    (right_range : InRange right) : |left - right| < 2 ^ 53 * 1000000 := by
  obtain ⟨left_first, left_last⟩ := left_range
  obtain ⟨right_first, right_last⟩ := right_range
  have span : (Foundation.Calendar.Date.maxOrdinal : Int) * Foundation.Calendar.dayLength <
      2 ^ 53 * 1000000 := by decide
  rw [abs_lt]
  constructor <;> omega

end Lakehouse
