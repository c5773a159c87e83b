import Lakehouse.Compactor.Exceptions
import Lakehouse.Foundation.FloatRounding

/-!
# Target file sizing

`estimate_output_file_count` divides two integers with `/`.  The quotient is a binary float: the
exact quotient rounded to 53 significant bits, ties to even.
-/

namespace Lakehouse

open Foundation

/-- `dividend / divisor` for positive integers. -/
def trueDivision (dividend divisor : Int) : Except PyException ℚ :=
  let quotient := roundToFloat ((dividend : ℚ) / divisor)
  if quotient < 2 ^ 1024 then .ok quotient
  else
    .error
      { type := .other "OverflowError"
        message := "integer division result too large for a float" }

def estimateOutputFileCount (totalBytes targetFileSizeBytes : Int) : Except PyException Int :=
  if totalBytes ≤ 0 then .ok 1
  else if targetFileSizeBytes ≤ 0 then
    .error (.valueError "target_file_size_bytes must be positive")
  else do
    let quotient ← trueDivision totalBytes targetFileSizeBytes
    return max 1 ⌈quotient⌉

example : estimateOutputFileCount (300 * 1024 * 1024) (128 * 1024 * 1024) = .ok 3 := by
  decide +kernel

/-! ## The count is the exact ceiling -/

/-- **The output count is the exact ceiling**: the least number of files of the target size which
can hold the partition. -/
theorem estimateOutputFileCount_exact {totalBytes targetFileSizeBytes : Int}
    (positive : 1 ≤ totalBytes) (small : totalBytes ≤ 2 ^ 53) (target : 1 ≤ targetFileSizeBytes) :
    ∃ count, estimateOutputFileCount totalBytes targetFileSizeBytes = .ok count ∧
      (count - 1) * targetFileSizeBytes < totalBytes ∧
      totalBytes ≤ count * targetFileSizeBytes ∧
      IsLeast {files : Int | totalBytes ≤ files * targetFileSizeBytes} count := by
  have at_most := fun bound => @roundToFloat_div_le totalBytes targetFileSizeBytes bound target
    positive small
  have more := fun bound => @lt_roundToFloat_div totalBytes targetFileSizeBytes bound target
    positive small
  generalize quotient_eq :
    roundToFloat ((totalBytes : ℚ) / targetFileSizeBytes) = quotient at at_most more
  have finite : quotient < 2 ^ 1024 := by
    have whole : quotient ≤ totalBytes := at_most totalBytes (by nlinarith)
    have small_rat : (totalBytes : ℚ) ≤ 2 ^ 53 := by exact_mod_cast small
    exact (whole.trans small_rat).trans_lt (pow_lt_pow_right₀ (by norm_num) (by norm_num))
  have count_eq : estimateOutputFileCount totalBytes targetFileSizeBytes =
      .ok (max 1 ⌈quotient⌉) := by
    rw [estimateOutputFileCount, if_neg (by omega), if_neg (by omega), trueDivision, quotient_eq,
      if_pos finite]
    rfl
  have lower : (max 1 ⌈quotient⌉ - 1) * targetFileSizeBytes < totalBytes := by
    by_contra le
    have rounded := Int.ceil_le.mpr (at_most (max 1 ⌈quotient⌉ - 1) (not_lt.mp le))
    have one : max 1 ⌈quotient⌉ = 1 := by omega
    rw [one] at le
    omega
  have upper : totalBytes ≤ max 1 ⌈quotient⌉ * targetFileSizeBytes := by
    by_contra lt
    have rounded := Int.lt_ceil.mpr (more (max 1 ⌈quotient⌉) (not_le.mp lt))
    omega
  refine ⟨_, count_eq, lower, upper, upper, fun files enough => ?_⟩
  have strict := lower.trans_le enough
  have counts := lt_of_mul_lt_mul_right strict (by omega)
  omega

/-- One byte over a large multiple of the target needs another file. -/
theorem estimateOutputFileCount_exact_sample :
    ∃ count, estimateOutputFileCount (2 ^ 53 - 1) 3 = .ok count ∧
      (count - 1) * 3 < 2 ^ 53 - 1 ∧ 2 ^ 53 - 1 ≤ count * 3 ∧
      IsLeast {files : Int | 2 ^ 53 - 1 ≤ files * 3} count :=
  estimateOutputFileCount_exact (by decide) (by decide) (by decide)

end Lakehouse
