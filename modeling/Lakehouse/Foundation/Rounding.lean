import Lakehouse.Foundation.JsonNumber
import Mathlib.Tactic.Linarith
import Mathlib.Tactic.Ring

/-!
# Decimal places of floats

Quotients of integers as floats, floats rounded to decimal places, and floats printed with a fixed
number of places.  A quotient by a power of two is exact, and rounding to places keeps the digits
which are printed.
-/

namespace Foundation.Binary64

/-- The number in units of a decimal place: the nearest integer, and the even one of two nearest. -/
def Finite.inPlaces (number : Finite) (places : Nat) : Nat :=
  roundDiv (number.units * 10 ^ places) one

/-- `round(value, places)` -/
def Value.roundTo (places : Nat) : Value → Value
  | .finite number => ofDecimal number.negative (number.inPlaces places) (-places)
  | value => value

/-- `dividend / divisor` of two integers, the second of which is positive. -/
def quotient (dividend : Int) (divisor : Nat) : Value :=
  ofUnits (decide (dividend < 0)) (dividend.natAbs * one) divisor

/-- `value * factor` with a small integer. -/
def Value.timesNat (factor : Nat) : Value → Value
  | .finite number => ofUnits number.negative (number.units * factor) 1
  | .infinite negative => if factor = 0 then .nan else .infinite negative
  | .nan => .nan

/-- The units with their sign. -/
def Finite.signed (number : Finite) : Int :=
  if number.negative then -number.units else number.units

/-- `left - right` of numbers which are not both zero. -/
def Value.sub : Value → Value → Value
  | .nan, _ => .nan
  | _, .nan => .nan
  | .infinite left, .infinite right => if left = right then .nan else .infinite left
  | .infinite left, .finite _ => .infinite left
  | .finite _, .infinite right => .infinite !right
  | .finite left, .finite right =>
      ofUnits (decide (left.signed < right.signed)) (left.signed - right.signed).natAbs 1

/-- `dividend / divisor` by another number than zero. -/
def Value.div : Value → Value → Value
  | .nan, _ => .nan
  | _, .nan => .nan
  | .infinite _, .infinite _ => .nan
  | .infinite dividend, .finite divisor => .infinite (dividend ^^ divisor.negative)
  | .finite dividend, .infinite divisor => ofUnits (dividend.negative ^^ divisor) 0 1
  | .finite dividend, .finite divisor =>
      ofUnits (dividend.negative ^^ divisor.negative) (dividend.units * one) divisor.units

/-- `value == 0` -/
def Value.isZero : Value → Bool
  | .finite number => number.units = 0
  | _ => false

/-- `value > 0` -/
def Value.isPositive : Value → Bool
  | .finite number => !number.negative && number.units ≠ 0
  | .infinite negative => !negative
  | .nan => false

/-- `int(value)` of a finite number. -/
def Value.truncate? : Value → Option Int
  | .finite number => some (number.signed.tdiv one)
  | _ => none

/-- Digits with a point in front of the last ones. -/
def layoutFixed (places digits : Nat) : List Char :=
  Nat.toDigits 10 (digits / 10 ^ places) ++
    '.' :: (Nat.toDigits 10 (digits % 10 ^ places)).leftpad places '0'

/-- `format(value, ".nf")` for a positive number of places. -/
def Value.writeFixed (places : Nat) : Value → List Char
  | .finite number => Json.writeSign number.negative ++ layoutFixed places (number.inPlaces places)
  | .infinite negative => Json.writeSign negative ++ "inf".toList
  | .nan => "nan".toList

example : ((quotient (-2675) 1000).roundTo 2).writeFixed 2 = "-2.67".toList := by
  decide +kernel

/-! ## Nearest integers -/

/-- The nearest integer is off by half a unit at most. -/
theorem roundDiv_error (dividend : Nat) {divisor : Nat} (positive : 0 < divisor) :
    2 * (roundDiv dividend divisor * divisor) ≤ 2 * dividend + divisor ∧
      2 * dividend ≤ 2 * (roundDiv dividend divisor * divisor) + divisor := by
  have split_eq := Nat.div_add_mod dividend divisor
  have rest := Nat.mod_lt dividend positive
  unfold roundDiv
  dsimp only
  rw [Nat.mul_comm divisor] at split_eq
  split
  · rw [Nat.add_mul, Nat.one_mul]
    omega
  · omega

/-- An integer which is off by less than half a unit is the nearest one. -/
theorem roundDiv_eq_of_close {dividend divisor nearest : Nat} (positive : 0 < divisor)
    (below : 2 * (nearest * divisor) < 2 * dividend + divisor)
    (above : 2 * dividend < 2 * (nearest * divisor) + divisor) :
    roundDiv dividend divisor = nearest := by
  obtain ⟨upper, lower⟩ := roundDiv_error dividend positive
  rcases Nat.lt_trichotomy (roundDiv dividend divisor) nearest with less | same | more
  · have next := Nat.mul_le_mul_right divisor (Nat.succ_le_of_lt less)
    rw [Nat.succ_mul] at next
    omega
  · exact same
  · have next := Nat.mul_le_mul_right divisor (Nat.succ_le_of_lt more)
    rw [Nat.succ_mul] at next
    omega

theorem roundDiv_mono {dividend dividend' : Nat} (le : dividend ≤ dividend') (divisor : Nat) :
    roundDiv dividend divisor ≤ roundDiv dividend' divisor := by
  rcases Nat.eq_zero_or_pos divisor with rfl | positive
  · unfold roundDiv
    simp only [Nat.div_zero, Nat.mod_zero]
    split <;> split <;> omega
  · have quotients := Nat.div_le_div_right (c := divisor) le
    rcases Nat.lt_or_eq_of_le quotients with less | same
    · have upper := (roundDiv_bounds dividend divisor).2
      have lower := (roundDiv_bounds dividend' divisor).1
      omega
    · have split_eq := Nat.div_add_mod dividend divisor
      have split_eq' := Nat.div_add_mod dividend' divisor
      rw [same] at split_eq
      unfold roundDiv
      dsimp only
      rw [same]
      split <;> split <;> omega

theorem roundDiv_mul_mul (dividend divisor : Nat) {factor : Nat} (positive : 0 < factor) :
    roundDiv (dividend * factor) (divisor * factor) = roundDiv dividend divisor := by
  unfold roundDiv
  rw [Nat.mul_div_mul_right _ _ positive, Nat.mul_mod_mul_right, ← Nat.mul_assoc]
  have more : divisor * factor < 2 * (dividend % divisor) * factor ↔
      divisor < 2 * (dividend % divisor) := Nat.mul_lt_mul_right positive
  have same : 2 * (dividend % divisor) * factor = divisor * factor ↔
      2 * (dividend % divisor) = divisor := Nat.mul_left_inj positive.ne'
  simp only [more, same]

/-! ## Exact quotients -/

/-- The last place which a quotient is rounded to. -/
def place (dividend divisor : Nat) : Nat := (dividend / divisor).log2 - 52

theorem units_ofUnits {negative : Bool} {dividend divisor : Nat} {number : Finite}
    (finite : ofUnits negative dividend divisor = .finite number) :
    number.negative = negative ∧
      number.units = roundDiv dividend (divisor * 2 ^ place dividend divisor) *
        2 ^ place dividend divisor := by
  unfold ofUnits at finite
  split at finite
  · obtain rfl := Value.finite.inj finite
    refine ⟨rfl, ?_⟩
    simp only [Finite.units, nearest]
    split
    · rename_i carry
      rw [place, carry]
      dsimp only
      ring
    · rfl
  · cases finite

/-- A fraction of a whole number of units which fits into 53 bits is not rounded. -/
theorem units_ofUnits_of_exact {negative : Bool} {dividend divisor size places : Nat}
    {number : Finite} (positive : 0 < divisor) (small : size < 2 ^ 53)
    (whole : dividend = size * 2 ^ places * divisor)
    (finite : ofUnits negative dividend divisor = .finite number) :
    number.units = size * 2 ^ places := by
  subst whole
  rw [(units_ofUnits finite).2, place, Nat.mul_div_cancel _ positive]
  generalize shift_eq : (size * 2 ^ places).log2 - 52 = shift
  have le : shift ≤ places := by
    rcases Nat.eq_zero_or_pos size with rfl | nonzero
    · simp at shift_eq
      omega
    · have product : size * 2 ^ places ≠ 0 :=
        (Nat.mul_pos nonzero (Nat.two_pow_pos places)).ne'
      have bound : size * 2 ^ places < 2 ^ (53 + places) := by
        rw [Nat.pow_add]
        exact Nat.mul_lt_mul_of_pos_right small (Nat.two_pow_pos places)
      have bits := (Nat.log2_lt product).mpr bound
      omega
  obtain ⟨more, rfl⟩ := Nat.exists_eq_add_of_le le
  have product : size * 2 ^ (shift + more) * divisor =
      size * 2 ^ more * (divisor * 2 ^ shift) := by
    rw [Nat.pow_add]
    ring
  rw [product, roundDiv_mul _ (Nat.mul_pos positive (Nat.two_pow_pos shift)), Nat.pow_add]
  ring

/-! ## Printed places -/

/-- The units of a decimal fraction are off by less than half of its last place. -/
theorem inPlaces_ofDecimal {negative : Bool} {digits places : Nat} {number : Finite}
    (small : digits < 2 ^ 52) (few : 10 ^ places < one)
    (finite : ofDecimal negative digits (-places) = .finite number) :
    number.inPlaces places = digits := by
  have nonneg : (-places : Int).toNat = 0 := by omega
  have count : (- -places : Int).toNat = places := by omega
  rw [ofDecimal, nonneg, count, Nat.pow_zero, Nat.mul_one] at finite
  have tens : 0 < 10 ^ places := Nat.pow_pos (by decide)
  have one_pos : 0 < one := Nat.lt_trans tens few
  generalize shift_eq : place (digits * one) (10 ^ places) = shift
  have units_eq := (units_ofUnits finite).2
  rw [shift_eq] at units_eq
  have scale : 10 ^ places * 2 ^ shift < one := by
    rcases Nat.eq_zero_or_pos shift with rfl | shifted
    · simpa using few
    · unfold place at shift_eq
      have log_eq : (digits * one / 10 ^ places).log2 = shift + 52 := by omega
      have nonzero : digits * one / 10 ^ places ≠ 0 := by
        intro zero
        rw [zero] at log_eq
        simp at log_eq
      have power := Nat.log2_self_le nonzero
      rw [log_eq, Nat.le_div_iff_mul_le tens, Nat.pow_add] at power
      have large : digits * one < 2 ^ 52 * one := Nat.mul_lt_mul_of_pos_right small one_pos
      have scaled : 2 ^ 52 * (10 ^ places * 2 ^ shift) < 2 ^ 52 * one :=
        calc 2 ^ 52 * (10 ^ places * 2 ^ shift)
          _ = 2 ^ shift * 2 ^ 52 * 10 ^ places := by ring
          _ ≤ digits * one := power
          _ < 2 ^ 52 * one := large
      exact Nat.lt_of_mul_lt_mul_left scaled
  obtain ⟨upper, lower⟩ := roundDiv_error (digits * one)
    (Nat.mul_pos tens (Nat.two_pow_pos shift))
  have product : number.units * 10 ^ places =
      roundDiv (digits * one) (10 ^ places * 2 ^ shift) * (10 ^ places * 2 ^ shift) := by
    rw [units_eq]
    ring
  rw [Finite.inPlaces]
  refine roundDiv_eq_of_close one_pos ?_ ?_ <;> rw [product] <;> omega

theorem unitPlaces_eq : unitPlaces = 1074 := by
  unfold unitPlaces
  rfl

/-- Not too many decimal places are coarser than a unit. -/
theorem ten_pow_lt_one {places : Nat} (few : places ≤ 200) : 10 ^ places < one := by
  have binary : 10 ^ places ≤ 2 ^ (4 * places) := by
    rw [Nat.pow_mul]
    exact Nat.pow_le_pow_left (by decide) places
  have less : 4 * places < unitPlaces := by
    rw [unitPlaces_eq]
    omega
  exact Nat.lt_of_le_of_lt binary (Nat.pow_lt_pow_right (by decide) less)

/-- A fraction below 2^1000 is a finite number. -/
theorem exists_ofUnits {dividend divisor exponent : Nat} (negative : Bool) (low : exponent ≤ 1000)
    (bounded : dividend < 2 ^ exponent * one * divisor) :
    ∃ number, ofUnits negative dividend divisor = .finite number := by
  have quotient_lt : dividend / divisor < 2 ^ (exponent + unitPlaces) := by
    rw [Nat.pow_add]
    exact Nat.div_lt_of_lt_mul (Nat.mul_comm divisor _ ▸ bounded)
  have log_lt : (dividend / divisor).log2 < exponent + unitPlaces := by
    by_cases zero : dividend / divisor = 0
    · rw [zero, unitPlaces_eq]
      simp
    · exact (Nat.log2_lt zero).mpr quotient_lt
  have le : (nearest dividend divisor).2 ≤ 2045 := by
    rw [unitPlaces_eq] at log_lt
    unfold nearest
    dsimp only
    split <;> dsimp only <;> omega
  exact ⟨_, dif_pos le⟩

/-! ## Quotients in places -/

/-- A small quotient by a power of two, in decimal places. -/
theorem inPlaces_quotient {size bits places : Nat} (small : size < 2 ^ 53) (few : bits ≤ 1074) :
    ∃ number, quotient size (2 ^ bits) = .finite number ∧ number.negative = false ∧
      number.inPlaces places = roundDiv (size * 10 ^ places) (2 ^ bits) := by
  have power : one = 2 ^ (1074 - bits) * 2 ^ bits := by
    rw [one, unitPlaces_eq, ← Nat.pow_add, Nat.sub_add_cancel few]
  have one_pos : 0 < one := Nat.two_pow_pos unitPlaces
  have bounded : size * one < 2 ^ 53 * one * 2 ^ bits :=
    Nat.lt_of_lt_of_le (Nat.mul_lt_mul_of_pos_right small one_pos)
      (Nat.le_mul_of_pos_right _ (Nat.two_pow_pos bits))
  obtain ⟨number, finite⟩ := exists_ofUnits false (by decide) bounded
  have nonneg : ¬(size : Int) < 0 := by omega
  have same : quotient size (2 ^ bits) = ofUnits false (size * one) (2 ^ bits) := by
    simp [quotient, nonneg]
  have whole : size * one = size * 2 ^ (1074 - bits) * 2 ^ bits := by
    rw [power, Nat.mul_assoc]
  have units_eq := units_ofUnits_of_exact (Nat.two_pow_pos bits) small whole finite
  refine ⟨number, same.trans finite, (units_ofUnits finite).1, ?_⟩
  have scaled : number.units * 10 ^ places = size * 10 ^ places * 2 ^ (1074 - bits) := by
    rw [units_eq]
    ring
  rw [Finite.inPlaces, scaled, power, Nat.mul_comm (2 ^ (1074 - bits)),
    roundDiv_mul_mul _ _ (Nat.two_pow_pos _)]

theorem exists_ofDecimal {digits places : Nat} (negative : Bool) (small : digits < 2 ^ 52) :
    ∃ number, ofDecimal negative digits (-places) = .finite number ∧
      number.negative = negative := by
  have one_pos : 0 < one := Nat.two_pow_pos unitPlaces
  have nonneg : (-places : Int).toNat = 0 := by omega
  have count : (- -places : Int).toNat = places := by omega
  have bounded : digits * 10 ^ (-places : Int).toNat * one <
      2 ^ 52 * one * 10 ^ (- -places : Int).toNat := by
    rw [nonneg, count, Nat.pow_zero, Nat.mul_one]
    exact Nat.lt_of_lt_of_le (Nat.mul_lt_mul_of_pos_right small one_pos)
      (Nat.le_mul_of_pos_right _ (Nat.pow_pos (by decide)))
  obtain ⟨number, finite⟩ := exists_ofUnits negative (by decide) bounded
  exact ⟨number, finite, (units_ofUnits finite).1⟩

/-- Not too many digits are determined by the float. -/
theorem ofDecimal_inj {negative negative' : Bool} {digits digits' places : Nat}
    (small : digits < 2 ^ 52) (small' : digits' < 2 ^ 52) (few : 10 ^ places < one)
    (same : ofDecimal negative digits (-places) = ofDecimal negative' digits' (-places)) :
    negative = negative' ∧ digits = digits' := by
  obtain ⟨number, finite, sign⟩ := @exists_ofDecimal digits places negative small
  obtain ⟨number', finite', sign'⟩ := @exists_ofDecimal digits' places negative' small'
  have digits_eq := inPlaces_ofDecimal small few finite
  have digits_eq' := inPlaces_ofDecimal small' few finite'
  rw [finite, finite'] at same
  obtain rfl := Value.finite.inj same
  exact ⟨sign.symm.trans sign', digits_eq.symm.trans digits_eq'⟩

/-- A decimal fraction is printed with its own digits. -/
theorem writeFixed_ofDecimal {digits places : Nat} (small : digits < 2 ^ 52)
    (few : 10 ^ places < one) :
    (ofDecimal false digits (-places)).writeFixed places = layoutFixed places digits := by
  obtain ⟨number, finite, sign⟩ := @exists_ofDecimal digits places false small
  rw [finite, Value.writeFixed, inPlaces_ofDecimal small few finite, sign]
  rfl

/-- A small quotient by a power of two is printed with the digits it has been rounded to. -/
theorem writeFixed_roundTo {size bits places : Nat} (small : size < 2 ^ 53) (low : bits ≤ 1074)
    (digits_lt : roundDiv (size * 10 ^ places) (2 ^ bits) < 2 ^ 52) (few : 10 ^ places < one) :
    ((quotient size (2 ^ bits)).roundTo places).writeFixed places =
      layoutFixed places (roundDiv (size * 10 ^ places) (2 ^ bits)) := by
  obtain ⟨number, finite, positive, digits⟩ := @inPlaces_quotient size bits places small low
  rw [finite, Value.roundTo, positive, digits]
  exact writeFixed_ofDecimal digits_lt few

/-- Without rounding first, the same digits are printed. -/
theorem writeFixed_quotient {size bits places : Nat} (small : size < 2 ^ 53) (low : bits ≤ 1074) :
    (quotient size (2 ^ bits)).writeFixed places =
      layoutFixed places (roundDiv (size * 10 ^ places) (2 ^ bits)) := by
  obtain ⟨number, finite, positive, digits⟩ := @inPlaces_quotient size bits places small low
  rw [finite, Value.writeFixed, positive, digits]
  rfl

/-! ## Errors -/

section Errors

variable {negative : Bool} {dividend divisor : Nat} {number : Finite}

theorem place_eq_zero_or (positive : 0 < divisor) :
    place dividend divisor = 0 ∨ 2 ^ 52 * 2 ^ place dividend divisor * divisor ≤ dividend := by
  rcases Nat.eq_zero_or_pos (place dividend divisor) with least | shifted
  · exact .inl least
  · right
    unfold place at shifted ⊢
    have nonzero : dividend / divisor ≠ 0 := by
      intro zero
      simp [zero] at shifted
    have power := Nat.log2_self_le nonzero
    rw [Nat.le_div_iff_mul_le positive] at power
    rwa [← Nat.pow_add, show 52 + ((dividend / divisor).log2 - 52) = (dividend / divisor).log2 by
      omega]

/-- The last place of a quotient below 2^52 units of some scale is no coarser than the scale. -/
theorem two_pow_place_le {scale : Nat} (positive : 0 < divisor) (least : 0 < scale)
    (le : dividend ≤ 2 ^ 52 * scale * divisor) : 2 ^ place dividend divisor ≤ scale := by
  rcases @place_eq_zero_or dividend divisor positive with zero | large
  · rw [zero]
    exact least
  · have bound : 2 ^ 52 * 2 ^ place dividend divisor * divisor ≤ 2 ^ 52 * scale * divisor :=
      large.trans le
    exact Nat.le_of_mul_le_mul_left (Nat.le_of_mul_le_mul_right bound positive) (by decide)

/-- A quotient is off by half of its last place at most. -/
theorem units_ofUnits_error {scale : Nat} (positive : 0 < divisor) (least : 0 < scale)
    (le : dividend ≤ 2 ^ 52 * scale * divisor)
    (finite : ofUnits negative dividend divisor = .finite number) :
    2 * (number.units * divisor) ≤ 2 * dividend + scale * divisor ∧
      2 * dividend ≤ 2 * (number.units * divisor) + scale * divisor := by
  have fine := Nat.mul_le_mul_left divisor (two_pow_place_le positive least le)
  have error := roundDiv_error dividend
    (Nat.mul_pos positive (Nat.two_pow_pos (place dividend divisor)))
  have units_eq : number.units * divisor =
      roundDiv dividend (divisor * 2 ^ place dividend divisor) *
        (divisor * 2 ^ place dividend divisor) := by
    rw [(units_ofUnits finite).2]
    ring
  rw [← units_eq] at error
  rw [Nat.mul_comm scale]
  omega

/-- Rounding does not pass a number with few bits. -/
theorem units_ofUnits_le {count shift : Nat} (positive : 0 < divisor) (few : count ≤ 2 ^ 52)
    (le : dividend ≤ count * 2 ^ shift * divisor)
    (finite : ofUnits negative dividend divisor = .finite number) :
    number.units ≤ count * 2 ^ shift := by
  have fine : place dividend divisor ≤ shift := by
    have scaled : count * 2 ^ shift * divisor ≤ 2 ^ 52 * 2 ^ shift * divisor :=
      Nat.mul_le_mul_right _ (Nat.mul_le_mul_right _ few)
    exact (Nat.pow_le_pow_iff_right (by decide)).mp
      (two_pow_place_le positive (Nat.two_pow_pos shift) (le.trans scaled))
  rw [(units_ofUnits finite).2]
  generalize place dividend divisor = last at fine
  obtain ⟨more, rfl⟩ := Nat.exists_eq_add_of_le fine
  have product : count * 2 ^ (last + more) * divisor =
      count * 2 ^ more * (divisor * 2 ^ last) := by
    rw [Nat.pow_add]
    ring
  have rounded := roundDiv_mono le (divisor * 2 ^ last)
  rw [product, roundDiv_mul _ (Nat.mul_pos positive (Nat.two_pow_pos last))] at rounded
  calc roundDiv dividend (divisor * 2 ^ last) * 2 ^ last
    _ ≤ count * 2 ^ more * 2 ^ last := Nat.mul_le_mul_right _ rounded
    _ = count * 2 ^ (last + more) := by rw [Nat.pow_add]; ring

end Errors

/-! ## Sizes -/

/-- The value is finite and at most a power of two. -/
def Value.AtMost (exponent : Nat) (value : Value) : Prop :=
  ∃ number, value = .finite number ∧ number.units ≤ 2 ^ exponent * one

theorem atMost_ofUnits {dividend divisor exponent : Nat} (negative : Bool) (low : exponent < 1000)
    (positive : 0 < divisor) (le : dividend ≤ 2 ^ exponent * one * divisor) :
    (ofUnits negative dividend divisor).AtMost exponent := by
  have lt : dividend < 2 ^ (exponent + 1) * one * divisor := by
    have unit_pos : 0 < 2 ^ exponent * one * divisor :=
      Nat.mul_pos (Nat.mul_pos (Nat.two_pow_pos _) (Nat.two_pow_pos _)) positive
    rw [Nat.pow_succ, Nat.mul_right_comm _ 2, Nat.mul_right_comm _ 2]
    omega
  obtain ⟨number, finite⟩ := exists_ofUnits negative low lt
  have power : 2 ^ exponent * one = 1 * 2 ^ (exponent + unitPlaces) := by
    rw [Nat.one_mul, Nat.pow_add, one]
  refine ⟨number, finite, ?_⟩
  rw [power] at le ⊢
  exact units_ofUnits_le positive (by decide) le finite

theorem atMost_quotient {dividend : Int} {divisor exponent : Nat} (low : exponent < 1000)
    (positive : 0 < divisor) (le : dividend.natAbs ≤ 2 ^ exponent) :
    (quotient dividend divisor).AtMost exponent := by
  refine atMost_ofUnits _ low positive ?_
  exact (Nat.mul_le_mul_right one le).trans (Nat.le_mul_of_pos_right _ positive)

theorem Value.AtMost.roundTo {value : Value} {exponent : Nat} (most : value.AtMost exponent)
    (low : exponent < 1000) (places : Nat) : (value.roundTo places).AtMost exponent := by
  obtain ⟨number, rfl, le⟩ := most
  have one_pos : 0 < one := Nat.two_pow_pos unitPlaces
  have tens : 0 < 10 ^ places := Nat.pow_pos (by decide)
  have digits : number.inPlaces places ≤ 2 ^ exponent * 10 ^ places := by
    have scaled : number.units * 10 ^ places ≤ 2 ^ exponent * 10 ^ places * one := by
      rw [Nat.mul_right_comm]
      exact Nat.mul_le_mul_right _ le
    have rounded := roundDiv_mono scaled one
    rwa [roundDiv_mul _ one_pos] at rounded
  have nonneg : (-places : Int).toNat = 0 := by omega
  have count : (- -places : Int).toNat = places := by omega
  rw [Value.roundTo, ofDecimal, nonneg, count, Nat.pow_zero, Nat.mul_one]
  refine atMost_ofUnits _ low tens ?_
  rw [Nat.mul_right_comm]
  exact Nat.mul_le_mul_right _ digits

theorem Value.AtMost.timesNat {value : Value} {exponent bits factor : Nat}
    (most : value.AtMost exponent) (low : exponent + bits < 1000) (le : factor ≤ 2 ^ bits) :
    (value.timesNat factor).AtMost (exponent + bits) := by
  obtain ⟨number, rfl, units_le⟩ := most
  refine atMost_ofUnits _ low Nat.one_pos ?_
  calc number.units * factor
    _ ≤ 2 ^ exponent * one * 2 ^ bits := Nat.mul_le_mul units_le le
    _ = 2 ^ (exponent + bits) * one * 1 := by rw [Nat.pow_add]; ring

theorem Value.AtMost.exists_truncate? {value : Value} {exponent : Nat}
    (most : value.AtMost exponent) : ∃ whole, value.truncate? = some whole := by
  obtain ⟨number, rfl, -⟩ := most
  exact ⟨_, rfl⟩

/-! ## Percentages -/

/-- The distance of the floats below 1. -/
theorem exists_grain : ∃ grain, 0 < grain ∧ one = 2 ^ 52 * grain := by
  refine ⟨2 ^ (unitPlaces - 52), Nat.two_pow_pos _, ?_⟩
  rw [one, ← Nat.pow_add, unitPlaces_eq]

/-- `round(part / whole * 100, 2)` in hundredths, before it is a float again. -/
theorem inPlaces_percentage {part whole : Nat} (le : part ≤ whole) (positive : 0 < whole) :
    ∃ product, (quotient part whole).timesNat 100 = .finite product ∧ product.negative = false ∧
      product.inPlaces 2 ≤ 10000 ∧
      2 ^ 53 * (product.inPlaces 2 * whole) ≤ 2 ^ 53 * (10000 * part) + (2 ^ 52 + 20000) * whole ∧
      2 ^ 53 * (10000 * part) ≤
        2 ^ 53 * (product.inPlaces 2 * whole) + (2 ^ 52 + 20000) * whole := by
  obtain ⟨grain, grain_pos, one_eq⟩ := exists_grain
  have one_pos : 0 < one := Nat.two_pow_pos unitPlaces
  have part_le : part * one ≤ 1 * 2 ^ unitPlaces * whole := by
    rw [Nat.one_mul, Nat.mul_comm part]
    exact Nat.mul_le_mul_left _ le
  have part_le' : part * one ≤ 2 ^ 52 * grain * whole := by
    rw [← one_eq, Nat.mul_comm part]
    exact Nat.mul_le_mul_left _ le
  have bounded : part * one < 2 ^ 1 * one * whole := by
    have := Nat.mul_pos one_pos positive
    rw [← one_eq] at part_le'
    rw [Nat.mul_assoc]
    omega
  obtain ⟨share, share_eq⟩ := exists_ofUnits false (by decide) bounded
  have quotient_eq : quotient part whole = .finite share := by
    have nonneg : ¬(part : Int) < 0 := by omega
    rw [← share_eq]
    simp [quotient, nonneg]
  have share_le : share.units ≤ one := by
    have le := units_ofUnits_le positive (by decide) part_le share_eq
    rwa [Nat.one_mul] at le
  have share_error := units_ofUnits_error positive grain_pos part_le' share_eq
  have scaled_le : share.units * 100 ≤ 100 * 2 ^ unitPlaces * 1 := by
    change share.units * 100 ≤ 100 * one * 1
    omega
  have scaled_le' : share.units * 100 ≤ 2 ^ 52 * (100 * grain) * 1 := by omega
  have scaled_lt : share.units * 100 < 2 ^ 7 * one * 1 := by omega
  obtain ⟨product, product_eq⟩ := exists_ofUnits false (by decide) scaled_lt
  have product_le := units_ofUnits_le Nat.one_pos (by decide) scaled_le product_eq
  have product_error := units_ofUnits_error Nat.one_pos (by omega) scaled_le' product_eq
  have sign := (units_ofUnits share_eq).1
  refine ⟨product, ?_, (units_ofUnits product_eq).1, ?_, ?_⟩
  · rw [quotient_eq, Value.timesNat, sign, product_eq]
  · have bound : product.units * 10 ^ 2 ≤ 10000 * one := by
      change product.units ≤ 100 * one at product_le
      omega
    have rounded := roundDiv_mono bound one
    rwa [roundDiv_mul _ one_pos] at rounded
  · have error := roundDiv_error (product.units * 10 ^ 2) one_pos
    rw [← Finite.inPlaces] at error
    generalize product.inPlaces 2 = hundredths at error ⊢
    rw [Nat.mul_one, Nat.mul_one] at product_error
    have cancel : ∀ {left right : Nat}, grain * left ≤ grain * right → left ≤ right :=
      fun le => Nat.le_of_mul_le_mul_left le grain_pos
    rw [one_eq] at error share_error
    have upper := Nat.mul_le_mul_right whole error.1
    have lower := Nat.mul_le_mul_right whole error.2
    have product_upper := Nat.mul_le_mul_right whole product_error.1
    have product_lower := Nat.mul_le_mul_right whole product_error.2
    constructor <;> apply cancel <;> nlinarith

end Foundation.Binary64
