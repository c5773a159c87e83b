import Mathlib.Algebra.Ring.Nat
import Mathlib.Data.Nat.Basic

/-!
# Binary floating point

The numbers of the binary format with 53 significant bits.  A finite number counts units of 2^-1074,
the least positive number of the format.  A fraction is rounded to the nearest number, and to the
one with an even significand of two nearest.
-/

namespace Foundation.Binary64

/-- A finite number, `significand * 2 ^ shift` units with a sign. -/
structure Finite where
  negative : Bool
  significand : Nat
  shift : Nat
  significand_lt : significand < 2 ^ 53
  shift_le : shift ≤ 2045
  /-- Only the numbers with the least exponent have fewer than 53 bits. -/
  normal : shift = 0 ∨ 2 ^ 52 ≤ significand
  deriving DecidableEq

inductive Value
  | finite (number : Finite)
  | infinite (negative : Bool)
  | nan
  deriving DecidableEq

/-- The number of units in a finite number. -/
def Finite.units (number : Finite) : Nat := number.significand * 2 ^ number.shift

/-- The binary places of a unit. -/
@[irreducible]
def unitPlaces : Nat := 1074

/-- The units in the number 1. -/
def one : Nat := 2 ^ unitPlaces

/-! ## Rounding -/

/-- The quotient as the nearest natural number, and as the even one of two nearest. -/
def roundDiv (dividend divisor : Nat) : Nat :=
  let quotient := dividend / divisor
  let twice := 2 * (dividend % divisor)
  if divisor < twice ∨ twice = divisor ∧ quotient % 2 = 1 then quotient + 1 else quotient

/-- Significand and shift of a number of units. -/
def nearest (dividend divisor : Nat) : Nat × Nat :=
  let shift := (dividend / divisor).log2 - 52
  let significand := roundDiv dividend (divisor * 2 ^ shift)
  if significand = 2 ^ 53 then (2 ^ 52, shift + 1) else (significand, shift)

theorem roundDiv_bounds (dividend divisor : Nat) :
    dividend / divisor ≤ roundDiv dividend divisor ∧
      roundDiv dividend divisor ≤ dividend / divisor + 1 := by
  unfold roundDiv
  dsimp only
  split <;> omega

theorem roundDiv_mul (quotient : Nat) {divisor : Nat} (positive : 0 < divisor) :
    roundDiv (quotient * divisor) divisor = quotient := by
  have no_rest : ¬(divisor < 2 * 0 ∨ 2 * 0 = divisor ∧ quotient % 2 = 1) := by omega
  rw [roundDiv, Nat.mul_div_cancel _ positive, Nat.mul_mod_left]
  exact if_neg no_rest

/-- The quotient in places of the shift has at most 53 bits, and exactly 53 if there is a shift. -/
theorem shifted_bounds (quotient : Nat) :
    quotient / 2 ^ (quotient.log2 - 52) < 2 ^ 53 ∧
      (quotient.log2 - 52 = 0 ∨ 2 ^ 52 ≤ quotient / 2 ^ (quotient.log2 - 52)) := by
  have upper : quotient < 2 ^ (quotient.log2 + 1) := Nat.lt_log2_self
  have places : quotient.log2 + 1 ≤ 53 + (quotient.log2 - 52) := by omega
  refine ⟨(Nat.div_lt_iff_lt_mul (Nat.two_pow_pos _)).mpr ?_, ?_⟩
  · rw [← Nat.pow_add]
    exact Nat.lt_of_lt_of_le upper (Nat.pow_le_pow_right (by decide) places)
  · by_cases small : quotient.log2 ≤ 52
    · exact .inl (Nat.sub_eq_zero_of_le small)
    · refine .inr ((Nat.le_div_iff_mul_le (Nat.two_pow_pos _)).mpr ?_)
      have nonzero : quotient ≠ 0 := by
        rintro rfl
        exact small (Nat.zero_le _)
      have exponent : 52 + (quotient.log2 - 52) = quotient.log2 := by omega
      rw [← Nat.pow_add, exponent]
      exact Nat.log2_self_le nonzero

/-- Rounding yields a significand of the format. -/
theorem nearest_fits (dividend divisor : Nat) :
    (nearest dividend divisor).1 < 2 ^ 53 ∧
      ((nearest dividend divisor).2 = 0 ∨ 2 ^ 52 ≤ (nearest dividend divisor).1) := by
  obtain ⟨upper, lower⟩ := shifted_bounds (dividend / divisor)
  rw [Nat.div_div_eq_div_mul] at upper lower
  obtain ⟨least, most⟩ := roundDiv_bounds dividend
    (divisor * 2 ^ ((dividend / divisor).log2 - 52))
  unfold nearest
  dsimp only
  split
  · exact ⟨Nat.pow_lt_pow_right (by decide) (by decide), .inr (Nat.le_refl _)⟩
  · rename_i other
    dsimp only
    exact ⟨by omega, lower.imp_right fun le => Nat.le_trans le least⟩

/-- A fraction of units as a number of the format. -/
def ofUnits (negative : Bool) (dividend divisor : Nat) : Value :=
  if le : (nearest dividend divisor).2 ≤ 2045 then
    .finite
      { negative := negative
        significand := (nearest dividend divisor).1
        shift := (nearest dividend divisor).2
        significand_lt := (nearest_fits dividend divisor).1
        shift_le := le
        normal := (nearest_fits dividend divisor).2 }
  else .infinite negative

/-- The number `digits * 10 ^ exponent`. -/
def ofDecimal (negative : Bool) (digits : Nat) (exponent : Int) : Value :=
  ofUnits negative (digits * 10 ^ exponent.toNat * one) (10 ^ (-exponent).toNat)

/-! ## Exact fractions -/

theorem log2_units (number : Finite) : number.units.log2 - 52 = number.shift := by
  have small := number.significand_lt
  unfold Finite.units
  rcases number.normal with least | normal
  · rw [least, Nat.pow_zero, Nat.mul_one]
    by_cases zero : number.significand = 0
    · rw [zero]
      decide
    · have bits := (Nat.log2_lt zero).mpr small
      omega
  · have positive : number.significand * 2 ^ number.shift ≠ 0 := by
      have factor := Nat.two_pow_pos number.shift
      exact Nat.mul_ne_zero (by omega) (Nat.pos_iff_ne_zero.mp factor)
    have bits : (number.significand * 2 ^ number.shift).log2 = 52 + number.shift := by
      rw [Nat.log2_eq_iff positive, Nat.pow_add, Nat.add_right_comm, Nat.pow_add _ 53]
      exact ⟨Nat.mul_le_mul_right _ normal, Nat.mul_lt_mul_of_pos_right small (Nat.two_pow_pos _)⟩
    rw [bits, Nat.add_sub_cancel_left]

/-- A number of the format is not rounded. -/
theorem nearest_units (number : Finite) {divisor : Nat} (positive : 0 < divisor) :
    nearest (number.units * divisor) divisor = (number.significand, number.shift) := by
  have exact_quotient : roundDiv (number.units * divisor) (divisor * 2 ^ number.shift) =
      number.significand := by
    rw [Finite.units, Nat.mul_assoc, Nat.mul_comm (2 ^ number.shift)]
    exact roundDiv_mul _ (Nat.mul_pos positive (Nat.two_pow_pos _))
  rw [nearest, Nat.mul_div_cancel _ positive, log2_units, exact_quotient]
  exact if_neg (Nat.ne_of_lt number.significand_lt)

theorem ofUnits_units (number : Finite) {divisor : Nat} (positive : 0 < divisor) :
    ofUnits number.negative (number.units * divisor) divisor = .finite number := by
  have same := nearest_units number positive
  have le : (nearest (number.units * divisor) divisor).2 ≤ 2045 := by
    rw [same]
    exact number.shift_le
  rw [ofUnits, dif_pos le]
  congr 2 <;> rw [same]

/-- Every finite number is a decimal fraction. -/
theorem ofDecimal_units (number : Finite) :
    ofDecimal number.negative (number.units * 5 ^ unitPlaces) (-unitPlaces) = .finite number := by
  have nonneg : (-unitPlaces : Int).toNat = 0 := by omega
  have places : (- -unitPlaces : Int).toNat = unitPlaces := by omega
  have tens : 5 ^ unitPlaces * 2 ^ unitPlaces = 10 ^ unitPlaces := (Nat.mul_pow 5 2 _).symm
  rw [ofDecimal, nonneg, places, Nat.pow_zero, Nat.mul_one, Nat.mul_assoc, one, tens]
  exact ofUnits_units number (Nat.pow_pos (by decide))

end Foundation.Binary64
