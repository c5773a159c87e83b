import Mathlib.Data.Rat.Defs
import Mathlib.Algebra.Order.Field.Rat
import Mathlib.Tactic.FieldSimp
import Mathlib.Tactic.Linarith
import Mathlib.Tactic.NormNum
import Mathlib.Tactic.Positivity
import Lakehouse.Foundation.Rounding

/-!
# Sizes in bytes

The numbers and texts which `metrics.py` makes of a size.  A text shows the size to the nearest unit
of its last place, and a larger size is never shown as a smaller one.
-/

namespace Lakehouse

open Foundation
open Foundation.Binary64 (roundDiv layoutFixed)

def formatBytesMb (sizeBytes : Int) : Binary64.Value :=
  (Binary64.quotient sizeBytes (2 ^ 20)).roundTo 2

def formatBytesGb (sizeBytes : Int) : Binary64.Value :=
  (Binary64.quotient sizeBytes (2 ^ 30)).roundTo 3

def formatBytes (sizeBytes : Int) : String :=
  if sizeBytes ≥ 2 ^ 30 then
    String.ofList ((formatBytesGb sizeBytes).writeFixed 3) ++ " GB"
  else if sizeBytes ≥ 2 ^ 20 then
    String.ofList ((formatBytesMb sizeBytes).writeFixed 2) ++ " MB"
  else if sizeBytes ≥ 2 ^ 10 then
    String.ofList ((Binary64.quotient sizeBytes (2 ^ 10)).writeFixed 2) ++ " KB"
  else
    toString sizeBytes ++ " B"

/-! ## Shown sizes -/

/-- A number of units of the last place which is shown. -/
structure ShownSize where
  digits : Nat
  places : Nat
  /-- The unit is this power of two. -/
  bits : Nat
  unit : String

namespace ShownSize

def text (shown : ShownSize) : String :=
  String.ofList
    (if shown.places = 0 then Nat.toDigits 10 shown.digits
      else layoutFixed shown.places shown.digits) ++ shown.unit

/-- The bytes of one unit of the last place. -/
def lastPlace (shown : ShownSize) : ℚ := 2 ^ shown.bits / 10 ^ shown.places

/-- The size which is shown. -/
def value (shown : ShownSize) : ℚ := shown.digits * shown.lastPlace

/-- A size to the nearest unit of the last place. -/
def nearest (size places bits : Nat) (unit : String) : ShownSize where
  digits := roundDiv (size * 10 ^ places) (2 ^ bits)
  places := places
  bits := bits
  unit := unit

end ShownSize

/-- A size in the largest unit which is not larger. -/
def shownSize (size : Nat) : ShownSize :=
  if size ≥ 2 ^ 30 then .nearest size 3 30 " GB"
  else if size ≥ 2 ^ 20 then .nearest size 2 20 " MB"
  else if size ≥ 2 ^ 10 then .nearest size 2 10 " KB"
  else .nearest size 0 0 " B"

/-! ## Texts -/

/-- A size rounded to the places which are printed. -/
theorem writeFixed_roundTo_eq {size places bits : Nat} (small : size < 2 ^ 53)
    (low : bits ≤ 1074) (few : places ≤ 200) (large : size * 10 ^ places < 2 ^ 50 * 2 ^ bits) :
    ((Binary64.quotient size (2 ^ bits)).roundTo places).writeFixed places =
      layoutFixed places (roundDiv (size * 10 ^ places) (2 ^ bits)) := by
  have bounds := (Binary64.roundDiv_bounds (size * 10 ^ places) (2 ^ bits)).2
  have less := (Nat.div_lt_iff_lt_mul (Nat.two_pow_pos bits)).mpr large
  exact Binary64.writeFixed_roundTo small low (by omega) (Binary64.ten_pow_lt_one few)

theorem formatBytes_eq {size : Nat} (small : size < 2 ^ 53) :
    formatBytes size = (shownSize size).text := by
  have giga_iff : (size : Int) ≥ 2 ^ 30 ↔ size ≥ 2 ^ 30 := by omega
  have mega_iff : (size : Int) ≥ 2 ^ 20 ↔ size ≥ 2 ^ 20 := by omega
  have kilo_iff : (size : Int) ≥ 2 ^ 10 ↔ size ≥ 2 ^ 10 := by omega
  simp only [formatBytes, shownSize, giga_iff, mega_iff, kilo_iff]
  split
  · rw [formatBytesGb, writeFixed_roundTo_eq small (by decide) (by decide) (by omega)]
    simp [ShownSize.text, ShownSize.nearest]
  · split
    · rw [formatBytesMb, writeFixed_roundTo_eq small (by decide) (by decide) (by omega)]
      simp [ShownSize.text, ShownSize.nearest]
    · split
      · rw [Binary64.writeFixed_quotient small (by decide)]
        simp [ShownSize.text, ShownSize.nearest]
      · have whole : roundDiv size 1 = size := by
          simpa using Binary64.roundDiv_mul size Nat.one_pos
        simp only [ShownSize.text, ShownSize.nearest, Nat.pow_zero, Nat.mul_one, whole, if_true]
        rfl

/-! ## Values -/

/-- The shown size is off by half a unit of the last place at most. -/
theorem ShownSize.nearest_error (size places bits : Nat) (unit : String) :
    |(ShownSize.nearest size places bits unit).value - size| ≤
      (ShownSize.nearest size places bits unit).lastPlace / 2 := by
  obtain ⟨upper, lower⟩ := Binary64.roundDiv_error (size * 10 ^ places) (Nat.two_pow_pos bits)
  have upper_cast : (2 : ℚ) * (roundDiv (size * 10 ^ places) (2 ^ bits) * 2 ^ bits) ≤
      2 * (size * 10 ^ places) + 2 ^ bits := by exact_mod_cast upper
  have lower_cast : (2 : ℚ) * (size * 10 ^ places) ≤
      2 * (roundDiv (size * 10 ^ places) (2 ^ bits) * 2 ^ bits) + 2 ^ bits := by
    exact_mod_cast lower
  have tens : (0 : ℚ) < 10 ^ places := by positivity
  have difference : (ShownSize.nearest size places bits unit).value - size =
      (roundDiv (size * 10 ^ places) (2 ^ bits) * 2 ^ bits - size * 10 ^ places) /
        10 ^ places := by
    simp only [ShownSize.nearest, ShownSize.value, ShownSize.lastPlace]
    field_simp
  have half : (ShownSize.nearest size places bits unit).lastPlace / 2 =
      2 ^ bits / 2 / 10 ^ places := by
    simp only [ShownSize.nearest, ShownSize.lastPlace]
    field_simp
  rw [difference, half, abs_div, abs_of_pos tens]
  refine div_le_div_of_nonneg_right (abs_le.mpr ⟨?_, ?_⟩) tens.le <;> linarith

theorem ShownSize.nearest_mono {size larger : Nat} (le : size ≤ larger) (places bits : Nat)
    (unit : String) :
    (ShownSize.nearest size places bits unit).value ≤
      (ShownSize.nearest larger places bits unit).value := by
  have digits : roundDiv (size * 10 ^ places) (2 ^ bits) ≤
      roundDiv (larger * 10 ^ places) (2 ^ bits) :=
    Binary64.roundDiv_mono (Nat.mul_le_mul_right _ le) _
  have positive : (0 : ℚ) ≤ 2 ^ bits / 10 ^ places := by positivity
  exact mul_le_mul_of_nonneg_right (Nat.cast_le.mpr digits) positive

/-- What is shown in a unit stays between two sizes which are shown exactly. -/
theorem ShownSize.nearest_exact (count places bits : Nat) (unit : String) :
    (ShownSize.nearest (count * 2 ^ bits) places bits unit).value = count * 2 ^ bits := by
  have exact_digits :
      roundDiv (count * 2 ^ bits * 10 ^ places) (2 ^ bits) = count * 10 ^ places := by
    rw [Nat.mul_right_comm]
    exact Binary64.roundDiv_mul _ (Nat.two_pow_pos bits)
  simp only [nearest, value, lastPlace, exact_digits]
  push_cast
  field_simp

theorem ShownSize.nearest_le {size count bits : Nat} (le : size ≤ count * 2 ^ bits) (places : Nat)
    (unit : String) : (ShownSize.nearest size places bits unit).value ≤ count * 2 ^ bits :=
  (nearest_mono le places bits unit).trans_eq (nearest_exact count places bits unit)

theorem ShownSize.le_nearest {size bits : Nat} (le : 2 ^ bits ≤ size) (places : Nat)
    (unit : String) : 2 ^ bits ≤ (ShownSize.nearest size places bits unit).value := by
  have unit_exact := nearest_exact 1 places bits unit
  have mono := nearest_mono le places bits unit
  rw [Nat.one_mul, Nat.cast_one, one_mul] at unit_exact
  exact unit_exact.symm.trans_le mono

section Units

variable {size : Nat}

theorem shownSize_giga (least : 2 ^ 30 ≤ size) : shownSize size = .nearest size 3 30 " GB" :=
  if_pos least

theorem shownSize_mega (least : 2 ^ 20 ≤ size) (most : size < 2 ^ 30) :
    shownSize size = .nearest size 2 20 " MB" := by
  rw [shownSize, if_neg (Nat.not_le.mpr most), if_pos least]

theorem shownSize_kilo (least : 2 ^ 10 ≤ size) (most : size < 2 ^ 20) :
    shownSize size = .nearest size 2 10 " KB" := by
  rw [shownSize, if_neg (by omega), if_neg (Nat.not_le.mpr most), if_pos least]

theorem shownSize_bytes (most : size < 2 ^ 10) : shownSize size = .nearest size 0 0 " B" := by
  rw [shownSize, if_neg (by omega), if_neg (by omega), if_neg (Nat.not_le.mpr most)]

/-- Below a unit at most one of these units is shown. -/
theorem shownSize_le_kilo (less : size < 2 ^ 10) : (shownSize size).value ≤ 2 ^ 10 := by
  rw [shownSize_bytes less]
  have shown := @ShownSize.nearest_le size (2 ^ 10) 0 (by omega) 0 " B"
  norm_num at shown ⊢
  exact shown

theorem shownSize_le_mega (less : size < 2 ^ 20) : (shownSize size).value ≤ 2 ^ 20 := by
  by_cases kilo : 2 ^ 10 ≤ size
  · rw [shownSize_kilo kilo less]
    have shown := @ShownSize.nearest_le size (2 ^ 10) 10 (by omega) 2 " KB"
    norm_num at shown ⊢
    exact shown
  · exact (shownSize_le_kilo (by omega)).trans (by norm_num)

theorem shownSize_le_giga (less : size < 2 ^ 30) : (shownSize size).value ≤ 2 ^ 30 := by
  by_cases mega : 2 ^ 20 ≤ size
  · rw [shownSize_mega mega less]
    have shown := @ShownSize.nearest_le size (2 ^ 10) 20 (by omega) 2 " MB"
    norm_num at shown ⊢
    exact shown
  · exact (shownSize_le_mega (by omega)).trans (by norm_num)

end Units

/-- A larger size is never shown as a smaller one, also where the units change. -/
theorem shownSize_mono {size larger : Nat} (le : size ≤ larger) :
    (shownSize size).value ≤ (shownSize larger).value := by
  by_cases giga : 2 ^ 30 ≤ larger
  · rw [shownSize_giga giga]
    by_cases same : 2 ^ 30 ≤ size
    · rw [shownSize_giga same]
      exact ShownSize.nearest_mono le 3 30 " GB"
    · exact (shownSize_le_giga (by omega)).trans (ShownSize.le_nearest giga 3 " GB")
  · by_cases mega : 2 ^ 20 ≤ larger
    · rw [shownSize_mega mega (by omega)]
      by_cases same : 2 ^ 20 ≤ size
      · rw [shownSize_mega same (by omega)]
        exact ShownSize.nearest_mono le 2 20 " MB"
      · exact (shownSize_le_mega (by omega)).trans (ShownSize.le_nearest mega 2 " MB")
    · by_cases kilo : 2 ^ 10 ≤ larger
      · rw [shownSize_kilo kilo (by omega)]
        by_cases same : 2 ^ 10 ≤ size
        · rw [shownSize_kilo same (by omega)]
          exact ShownSize.nearest_mono le 2 10 " KB"
        · exact (shownSize_le_kilo (by omega)).trans (ShownSize.le_nearest kilo 2 " KB")
      · rw [shownSize_bytes (by omega), shownSize_bytes (by omega)]
        exact ShownSize.nearest_mono le 0 0 " B"

theorem shownSize_error (size : Nat) :
    |(shownSize size).value - size| ≤ (shownSize size).lastPlace / 2 := by
  unfold shownSize
  split_ifs <;> exact ShownSize.nearest_error ..

/-- Below 8 PiB, `format_bytes` shows a size in its largest unit to the nearest unit of the last
place, and it never shows a smaller size as a larger one. -/
theorem formatBytes_nearest {size : Nat} (small : size < 2 ^ 53) :
    formatBytes size = (shownSize size).text ∧
      |(shownSize size).value - size| ≤ (shownSize size).lastPlace / 2 ∧
      ∀ smaller ≤ size, formatBytes smaller = (shownSize smaller).text ∧
        (shownSize smaller).value ≤ (shownSize size).value :=
  ⟨formatBytes_eq small, shownSize_error size, fun _ le =>
    ⟨formatBytes_eq (Nat.lt_of_le_of_lt le small), shownSize_mono le⟩⟩

/-- The size just below a unit is shown as 1024 of the unit before. -/
theorem formatBytes_nearest_mega :
    formatBytes 1048575 = "1024.00 KB" ∧
      |(shownSize 1048575).value - 1048575| ≤ (shownSize 1048575).lastPlace / 2 := by
  obtain ⟨text_eq, error, -⟩ := @formatBytes_nearest 1048575 (by decide)
  exact ⟨text_eq.trans (by decide +kernel), error⟩

end Lakehouse
