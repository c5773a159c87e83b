import Mathlib.Algebra.Order.Field.Rat
import Mathlib.Data.Int.Log
import Mathlib.Data.Rat.Floor
import Mathlib.Tactic.Linarith

/-!
# Rounding to floats

Rationals rounded to 53 significant bits, ties to even.  Rounding does not pass an integer, and it
is off by a fraction of 2^-53 at most; so a time which has been waited for in floats is over, up to
that fraction of it.
-/

namespace Foundation

/-! ## Positive values -/

/-- The nearest integer, and the even one of two nearest. -/
def roundHalfEven (value : ℚ) : ℤ :=
  let below := ⌊value⌋
  if value - below < 1 / 2 then below
  else if 1 / 2 < value - below then below + 1
  else if below % 2 = 0 then below
  else below + 1

/-- A positive rational rounded to 53 significant bits, whatever its size. -/
def roundToFloat (value : ℚ) : ℚ :=
  let unit : ℚ := 2 ^ (Int.log 2 value - 52)
  roundHalfEven (value / unit) * unit

@[simp]
theorem roundToFloat_zero : roundToFloat 0 = 0 := by
  simp [roundToFloat, roundHalfEven]

theorem roundHalfEven_le {value : ℚ} {bound : ℤ} (le : value ≤ bound) :
    roundHalfEven value ≤ bound := by
  have below : ⌊value⌋ ≤ bound := Int.floor_le_iff.mpr (le.trans_lt (lt_add_one _))
  have above : 1 / 2 ≤ value - ⌊value⌋ → ⌊value⌋ + 1 ≤ bound := by
    intro half
    have strict : (⌊value⌋ : ℚ) < bound := by linarith
    exact Int.add_one_le_of_lt (by exact_mod_cast strict)
  unfold roundHalfEven
  dsimp only
  split_ifs with small large even
  · exact below
  · exact above large.le
  · exact below
  · exact above (not_lt.mp small)

theorem le_roundHalfEven {value : ℚ} {bound : ℤ} (le : (bound : ℚ) ≤ value) :
    bound ≤ roundHalfEven value := by
  have below : bound ≤ ⌊value⌋ := Int.le_floor.mpr le
  unfold roundHalfEven
  dsimp only
  split_ifs <;> omega

/-- A value which is more than half above an integer is rounded above it. -/
theorem lt_roundHalfEven {value : ℚ} {bound : ℤ} (lt : (bound : ℚ) + 1 / 2 < value) :
    bound < roundHalfEven value := by
  have below : bound ≤ ⌊value⌋ := Int.le_floor.mpr (by linarith)
  have above : bound = ⌊value⌋ → 1 / 2 < value - ⌊value⌋ := by
    rintro rfl
    linarith
  unfold roundHalfEven
  dsimp only
  split_ifs with small large even
  · have strict : bound ≠ ⌊value⌋ := fun same => lt_asymm small (above same)
    omega
  · omega
  · have strict : bound ≠ ⌊value⌋ := fun same => large (above same)
    omega
  · omega

/-- A value which is more than half below an integer is rounded below it. -/
theorem roundHalfEven_lt {value : ℚ} {bound : ℤ} (lt : value < (bound : ℚ) - 1 / 2) :
    roundHalfEven value < bound := by
  have floor_le := Int.floor_le value
  have below : ⌊value⌋ < bound := by
    have strict : (⌊value⌋ : ℚ) < bound := by linarith
    exact_mod_cast strict
  have above : 1 / 2 ≤ value - ⌊value⌋ → ⌊value⌋ + 1 < bound := by
    intro half
    have strict : (⌊value⌋ : ℚ) + 1 < bound := by linarith
    exact_mod_cast strict
  unfold roundHalfEven
  dsimp only
  split_ifs with small large even
  · exact below
  · exact above large.le
  · exact below
  · exact above (not_lt.mp small)

/-- Below 2^53 the last place of a float is a unit fraction, and the float counts at least 2^52 of
them. -/
theorem exists_lastPlace {value : ℚ} (positive : 0 < value) (small : value < 2 ^ 53) :
    ∃ parts : ℤ, 0 < (parts : ℚ) ∧ 2 ^ 52 ≤ value * parts ∧
      roundToFloat value = roundHalfEven (value * parts) / parts := by
  have log_lt : Int.log 2 value < 53 :=
    (Int.lt_zpow_iff_log_lt (by decide) positive).mp (by exact_mod_cast small)
  have exponent : Int.log 2 value - 52 = -((52 - Int.log 2 value).toNat : ℤ) := by omega
  generalize (52 - Int.log 2 value).toNat = places at exponent
  have log_le : (2 : ℚ) ^ Int.log 2 value ≤ value := by
    exact_mod_cast Int.zpow_log_le_self (by decide) positive
  refine ⟨2 ^ places, by positivity, ?_, ?_⟩
  · have first : (2 : ℚ) ^ 52 = 2 ^ Int.log 2 value * 2 ^ places := by
      have log_eq : Int.log 2 value = 52 - (places : ℤ) := by omega
      rw [log_eq, ← zpow_natCast, ← zpow_natCast, ← zpow_add₀ (by norm_num)]
      congr 1
      push_cast
      ring
    rw [first]
    push_cast
    exact mul_le_mul_of_nonneg_right log_le (by positivity)
  · rw [roundToFloat, exponent, zpow_neg, zpow_natCast, div_inv_eq_mul, ← div_eq_mul_inv]
    push_cast
    rfl

/-- Rounding does not pass an integer. -/
theorem roundToFloat_le {value : ℚ} {bound : ℤ} (positive : 0 < value) (small : value < 2 ^ 53)
    (le : value ≤ bound) : roundToFloat value ≤ bound := by
  obtain ⟨parts, parts_pos, -, rounded⟩ := exists_lastPlace positive small
  have scaled : value * parts ≤ ((bound * parts : ℤ) : ℚ) := by
    rw [Int.cast_mul]
    exact mul_le_mul_of_nonneg_right le parts_pos.le
  have integers := roundHalfEven_le scaled
  rw [rounded, div_le_iff₀ parts_pos]
  exact_mod_cast integers

theorem le_roundToFloat {value : ℚ} {bound : ℤ} (positive : 0 < value) (small : value < 2 ^ 53)
    (le : (bound : ℚ) ≤ value) : (bound : ℚ) ≤ roundToFloat value := by
  obtain ⟨parts, parts_pos, -, rounded⟩ := exists_lastPlace positive small
  have scaled : ((bound * parts : ℤ) : ℚ) ≤ value * parts := by
    rw [Int.cast_mul]
    exact mul_le_mul_of_nonneg_right le parts_pos.le
  have integers := le_roundHalfEven scaled
  rw [rounded, le_div_iff₀ parts_pos]
  exact_mod_cast integers

/-! ## Integers and their quotients -/

theorem roundHalfEven_intCast (value : ℤ) : roundHalfEven value = value :=
  le_antisymm (roundHalfEven_le le_rfl) (le_roundHalfEven le_rfl)

/-- An integer quotient is not rounded. -/
theorem roundToFloat_intCast {value : ℤ} (positive : 1 ≤ value) (small : value ≤ 2 ^ 53) :
    roundToFloat value = value := by
  rcases small.eq_or_lt with rfl | less
  · have log : Int.log 2 ((2 : ℚ) ^ 53) = 53 := by
      exact_mod_cast Int.log_zpow (R := ℚ) (b := 2) (by decide) 53
    have halves : (2 : ℚ) ^ 53 / 2 ^ ((53 : ℤ) - 52) = ((2 ^ 52 : ℤ) : ℚ) := by norm_num
    rw [Int.cast_pow, Int.cast_ofNat, roundToFloat, log]
    rw [halves, roundHalfEven_intCast]
    norm_num
  · have positive_rat : (0 : ℚ) < value := by exact_mod_cast positive
    have less_rat : (value : ℚ) < 2 ^ 53 := by exact_mod_cast less
    exact le_antisymm (roundToFloat_le positive_rat less_rat le_rfl)
      (le_roundToFloat positive_rat less_rat le_rfl)

section Quotients

variable {dividend divisor bound : ℤ}

/-- Only a quotient by one can reach 2^53. -/
theorem div_lt_or_eq_one (divisor_pos : 1 ≤ divisor) (small : dividend ≤ 2 ^ 53) :
    (dividend : ℚ) / divisor < 2 ^ 53 ∨ divisor = 1 := by
  have divisor_rat : (0 : ℚ) < divisor := by exact_mod_cast divisor_pos
  rcases divisor_pos.eq_or_lt with one | more
  · exact .inr one.symm
  · have strict : dividend < 2 ^ 53 * divisor := by omega
    exact .inl ((div_lt_iff₀ divisor_rat).mpr (by exact_mod_cast strict))

theorem roundToFloat_div_le (divisor_pos : 1 ≤ divisor) (dividend_pos : 1 ≤ dividend)
    (small : dividend ≤ 2 ^ 53) (below : dividend ≤ bound * divisor) :
    roundToFloat ((dividend : ℚ) / divisor) ≤ bound := by
  have divisor_rat : (0 : ℚ) < divisor := by exact_mod_cast divisor_pos
  have dividend_rat : (0 : ℚ) < dividend := by exact_mod_cast dividend_pos
  rcases div_lt_or_eq_one divisor_pos small with less | rfl
  · refine roundToFloat_le (by positivity) less ?_
    rw [div_le_iff₀ divisor_rat]
    exact_mod_cast below
  · rw [Int.cast_one, div_one, roundToFloat_intCast dividend_pos small]
    exact_mod_cast (mul_one bound ▸ below)

/-- Where half a last place is as much as a part of the divisor, the quotient is the power of two
at which the last place grows. -/
theorem eq_of_half_part {parts : ℤ} (small : (dividend : ℚ) ≤ 2 ^ 53) (nonneg : (0 : ℚ) ≤ dividend)
    (part_nonneg : (0 : ℚ) ≤ (parts : ℚ) / divisor) (half : (parts : ℚ) / divisor ≤ 1 / 2)
    (first : 2 ^ 52 ≤ (dividend : ℚ) / divisor * parts) :
    (dividend : ℚ) / divisor * parts = ((2 ^ 52 : ℤ) : ℚ) := by
  have top : (dividend : ℚ) / divisor * parts ≤ 2 ^ 52 := by
    calc
      (dividend : ℚ) / divisor * parts = dividend * (parts / divisor) := by ring
      _ ≤ 2 ^ 53 * (1 / 2) := mul_le_mul small half part_nonneg (nonneg.trans small)
      _ = 2 ^ 52 := by norm_num
  push_cast
  exact le_antisymm top first

/-- A quotient above an integer is not rounded down to it: it is at least one part of the divisor
above, and half a last place is no more than that. -/
theorem lt_roundToFloat_div (divisor_pos : 1 ≤ divisor) (dividend_pos : 1 ≤ dividend)
    (small : dividend ≤ 2 ^ 53) (above : bound * divisor < dividend) :
    (bound : ℚ) < roundToFloat ((dividend : ℚ) / divisor) := by
  have divisor_rat : (0 : ℚ) < divisor := by exact_mod_cast divisor_pos
  have dividend_rat : (0 : ℚ) < dividend := by exact_mod_cast dividend_pos
  have small_rat : (dividend : ℚ) ≤ 2 ^ 53 := by exact_mod_cast small
  have above_rat : (bound : ℚ) * divisor + 1 ≤ dividend := by exact_mod_cast above
  rcases div_lt_or_eq_one divisor_pos small with less | rfl
  · obtain ⟨parts, parts_pos, first, rounded⟩ := exists_lastPlace (by positivity) less
    rw [rounded, lt_div_iff₀ parts_pos]
    have step : (bound : ℚ) + 1 / divisor ≤ dividend / divisor := by
      rw [le_div_iff₀ divisor_rat, add_mul, one_div_mul_cancel divisor_rat.ne']
      exact above_rat
    have gap : (bound : ℚ) * parts + parts / divisor ≤ (dividend : ℚ) / divisor * parts := by
      calc
        (bound : ℚ) * parts + parts / divisor = ((bound : ℚ) + 1 / divisor) * parts := by ring
        _ ≤ (dividend : ℚ) / divisor * parts := mul_le_mul_of_nonneg_right step parts_pos.le
    have part_pos : (0 : ℚ) < parts / divisor := by positivity
    rcases lt_or_ge ((bound : ℚ) * parts + 1 / 2) ((dividend : ℚ) / divisor * parts) with far | near
    · have integers := @lt_roundHalfEven ((dividend : ℚ) / divisor * parts) (bound * parts)
        (by push_cast; exact far)
      exact_mod_cast integers
    · have half : (parts : ℚ) / divisor ≤ 1 / 2 := by linarith
      rw [eq_of_half_part small_rat dividend_rat.le part_pos.le half first] at gap ⊢
      rw [roundHalfEven_intCast]
      exact (lt_add_of_pos_right _ part_pos).trans_le gap
  · rw [Int.cast_one, div_one, roundToFloat_intCast dividend_pos small]
    exact_mod_cast (mul_one bound ▸ above)

/-- A quotient below an integer is not rounded up to it. -/
theorem roundToFloat_div_lt (divisor_pos : 1 ≤ divisor) (dividend_pos : 1 ≤ dividend)
    (small : dividend ≤ 2 ^ 53) (below : dividend < bound * divisor) :
    roundToFloat ((dividend : ℚ) / divisor) < bound := by
  have divisor_rat : (0 : ℚ) < divisor := by exact_mod_cast divisor_pos
  have dividend_rat : (0 : ℚ) < dividend := by exact_mod_cast dividend_pos
  have small_rat : (dividend : ℚ) ≤ 2 ^ 53 := by exact_mod_cast small
  have below_rat : (dividend : ℚ) + 1 ≤ bound * divisor := by exact_mod_cast below
  rcases div_lt_or_eq_one divisor_pos small with less | rfl
  · obtain ⟨parts, parts_pos, first, rounded⟩ := exists_lastPlace (by positivity) less
    rw [rounded, div_lt_iff₀ parts_pos]
    have step : (dividend : ℚ) / divisor + 1 / divisor ≤ bound := by
      rw [← add_div, div_le_iff₀ divisor_rat]
      exact below_rat
    have gap : (dividend : ℚ) / divisor * parts + parts / divisor ≤ bound * parts := by
      calc
        (dividend : ℚ) / divisor * parts + parts / divisor =
            ((dividend : ℚ) / divisor + 1 / divisor) * parts := by ring
        _ ≤ bound * parts := mul_le_mul_of_nonneg_right step parts_pos.le
    have part_pos : (0 : ℚ) < parts / divisor := by positivity
    rcases lt_or_ge ((dividend : ℚ) / divisor * parts) ((bound : ℚ) * parts - 1 / 2) with far | near
    · have integers := @roundHalfEven_lt ((dividend : ℚ) / divisor * parts) (bound * parts)
        (by push_cast; exact far)
      exact_mod_cast integers
    · have half : (parts : ℚ) / divisor ≤ 1 / 2 := by linarith
      rw [eq_of_half_part small_rat dividend_rat.le part_pos.le half first] at gap ⊢
      rw [roundHalfEven_intCast]
      exact (lt_add_of_pos_right _ part_pos).trans_le gap
  · rw [Int.cast_one, div_one, roundToFloat_intCast dividend_pos small]
    exact_mod_cast (mul_one bound ▸ below)

end Quotients

/-! ## Values of either sign -/

theorem abs_roundHalfEven_sub_le (value : ℚ) : |(roundHalfEven value : ℚ) - value| ≤ 1 / 2 := by
  have below := Int.floor_le value
  have above := Int.lt_floor_add_one value
  have whole : ∀ rounded : ℤ, rounded = ⌊value⌋ ∧ value - ⌊value⌋ ≤ 1 / 2 ∨
      rounded = ⌊value⌋ + 1 ∧ 1 / 2 ≤ value - ⌊value⌋ → |(rounded : ℚ) - value| ≤ 1 / 2 := by
    rintro rounded (⟨rfl, near⟩ | ⟨rfl, near⟩)
    · exact abs_le.mpr ⟨by linarith, by linarith⟩
    · push_cast
      exact abs_le.mpr ⟨by linarith, by linarith⟩
  refine whole _ ?_
  unfold roundHalfEven
  dsimp only
  split_ifs with small large even
  · exact .inl ⟨rfl, small.le⟩
  · exact .inr ⟨rfl, large.le⟩
  · exact .inl ⟨rfl, not_lt.mp large⟩
  · exact .inr ⟨rfl, not_lt.mp small⟩

theorem abs_roundToFloat_sub_le {value : ℚ} (positive : 0 < value) :
    |roundToFloat value - value| ≤ value / 2 ^ 53 := by
  have log_le : (2 : ℚ) ^ Int.log 2 value ≤ value := by
    exact_mod_cast Int.zpow_log_le_self (by decide) positive
  have unit_eq : (2 : ℚ) ^ (Int.log 2 value - 52) = 2 ^ Int.log 2 value / 2 ^ 52 :=
    zpow_sub₀ (by norm_num) _ _
  have unit_pos : (0 : ℚ) < 2 ^ (Int.log 2 value - 52) := zpow_pos (by norm_num) _
  have scaled : roundToFloat value - value =
      (roundHalfEven (value / 2 ^ (Int.log 2 value - 52)) -
        value / 2 ^ (Int.log 2 value - 52)) * 2 ^ (Int.log 2 value - 52) := by
    rw [roundToFloat, sub_mul, div_mul_cancel₀ _ unit_pos.ne']
  have error := abs_roundHalfEven_sub_le (value / 2 ^ (Int.log 2 value - 52))
  calc
    |roundToFloat value - value| =
        |(roundHalfEven (value / 2 ^ (Int.log 2 value - 52)) : ℚ) -
          value / 2 ^ (Int.log 2 value - 52)| * 2 ^ (Int.log 2 value - 52) := by
      rw [scaled, abs_mul, abs_of_pos unit_pos]
    _ ≤ 1 / 2 * 2 ^ (Int.log 2 value - 52) := mul_le_mul_of_nonneg_right error unit_pos.le
    _ = 2 ^ Int.log 2 value / 2 ^ 53 := by
      rw [unit_eq]
      ring
    _ ≤ value / 2 ^ 53 := by gcongr

/-- The float nearest to a rational. -/
def nearestFloat (value : ℚ) : ℚ :=
  if value < 0 then -roundToFloat (-value) else roundToFloat value

theorem abs_nearestFloat_sub_le (value : ℚ) : |nearestFloat value - value| ≤ |value| / 2 ^ 53 := by
  unfold nearestFloat
  rcases lt_trichotomy value 0 with negative | rfl | positive
  · have error := abs_roundToFloat_sub_le (neg_pos.mpr negative)
    have flipped : -roundToFloat (-value) - value = -(roundToFloat (-value) - -value) := by ring
    rw [if_pos negative, flipped, abs_neg, abs_of_neg negative]
    exact error
  · simp
  · rw [if_neg positive.not_gt, abs_of_pos positive]
    exact abs_roundToFloat_sub_le positive

theorem le_nearestFloat_of_nonneg {value : ℚ} (nonneg : 0 ≤ value) :
    value * (1 - 1 / 2 ^ 53) ≤ nearestFloat value := by
  have error := (abs_le.mp (abs_nearestFloat_sub_le value)).1
  rw [abs_of_nonneg nonneg] at error
  linarith

theorem nearestFloat_le_of_nonneg {value : ℚ} (nonneg : 0 ≤ value) :
    nearestFloat value ≤ value * (1 + 1 / 2 ^ 53) := by
  have error := (abs_le.mp (abs_nearestFloat_sub_le value)).2
  rw [abs_of_nonneg nonneg] at error
  linarith

theorem nearestFloat_nonneg {value : ℚ} (nonneg : 0 ≤ value) : 0 ≤ nearestFloat value := by
  have bound := le_nearestFloat_of_nonneg nonneg
  linarith

theorem nearestFloat_pos {value : ℚ} (positive : 0 < value) : 0 < nearestFloat value := by
  have bound := le_nearestFloat_of_nonneg positive.le
  linarith

theorem nearestFloat_nonpos {value : ℚ} (nonpos : value ≤ 0) : nearestFloat value ≤ 0 := by
  have error := (abs_le.mp (abs_nearestFloat_sub_le value)).2
  rw [abs_of_nonpos nonpos] at error
  linarith

theorem nearestFloat_intCast {value : ℤ} (positive : 1 ≤ value) (small : value ≤ 2 ^ 53) :
    nearestFloat value = value := by
  have nonneg : ¬(value : ℚ) < 0 := not_lt.mpr (by exact_mod_cast (by omega : (0 : ℤ) ≤ value))
  rw [nearestFloat, if_neg nonneg, roundToFloat_intCast positive small]

theorem nearestFloat_le {value : ℚ} {bound : ℤ} (positive : 0 < value) (small : value < 2 ^ 53)
    (le : value ≤ bound) : nearestFloat value ≤ bound := by
  rw [nearestFloat, if_neg positive.not_gt]
  exact roundToFloat_le positive small le

/-! ## Waiting -/

/-- What remains of a time, computed in floats: the time between two readings is rounded, and so is
the difference. -/
def remaining (target start finish : ℚ) : ℚ :=
  nearestFloat (target - nearestFloat (finish - start))

/-- Whoever waits for what remains has waited for the time, up to a fraction of 2^-53. -/
theorem le_add_remaining {target start finish : ℚ} (passed : start ≤ finish) :
    start + target * (1 - 1 / 2 ^ 53) ≤ finish + max 0 (remaining target start finish) := by
  have rests := le_max_left 0 (remaining target start finish)
  rcases le_or_gt target 0 with nonpos | positive
  · linarith
  · have took := nearestFloat_le_of_nonneg (sub_nonneg.mpr passed)
    rcases le_or_gt (target - nearestFloat (finish - start)) 0 with late | early
    · linarith
    · have rounded := le_nearestFloat_of_nonneg early.le
      have waits := le_max_right 0 (remaining target start finish)
      unfold remaining at waits ⊢
      linarith

theorem pos_of_remaining_pos {target start finish : ℚ} (passed : start ≤ finish)
    (waits : 0 < remaining target start finish) : 0 < target := by
  by_contra nonpos
  have took := nearestFloat_nonneg (sub_nonneg.mpr passed)
  exact absurd waits (not_lt.mpr (nearestFloat_nonpos (by linarith)))

/-- Nobody waits longer than the whole time. -/
theorem remaining_le {target : ℤ} {start finish : ℚ} (passed : start ≤ finish)
    (small : target < 2 ^ 53) (waits : 0 < remaining target start finish) :
    remaining target start finish ≤ target := by
  have took := nearestFloat_nonneg (sub_nonneg.mpr passed)
  have small_rat : (target : ℚ) < 2 ^ 53 := by exact_mod_cast small
  have positive : 0 < (target : ℚ) - nearestFloat (finish - start) := by
    by_contra nonpos
    exact absurd waits (not_lt.mpr (nearestFloat_nonpos (not_lt.mp nonpos)))
  exact nearestFloat_le positive (by linarith) (by linarith)

end Foundation
