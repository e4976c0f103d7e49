import Mathlib.Algebra.Field.ZMod
import Mathlib.Algebra.Polynomial.Degree.Lemmas
import Mathlib.Algebra.Polynomial.Degree.Units
import Mathlib.Data.Nat.Bitwise
import Mathlib.Data.Nat.Size

/-!
# Natural numbers as polynomials over GF(2)

Bit `i` of a natural number is the coefficient of `X ^ i`.  Exclusive or is then addition, a left
shift is multiplication by a power of `X`, and the position of the top bit is the degree.
-/

namespace Library
namespace BinaryPolynomial

open Polynomial

/-- The polynomial over GF(2) whose coefficients are the bits of `value`. -/
noncomputable def toPoly (value : ℕ) : (ZMod 2)[X] :=
  ∑ i ∈ Finset.range (value.log2 + 1), if value.testBit i then X ^ i else 0

theorem coeff_toPoly (value i : ℕ) :
    (toPoly value).coeff i = if value.testBit i then 1 else 0 := by
  rw [toPoly, finsetSum_coeff]
  by_cases inside : i < value.log2 + 1
  · rw [Finset.sum_eq_single_of_mem i (Finset.mem_range.mpr inside)]
    · by_cases bit : value.testBit i <;> simp [bit]
    · intro j _ apart
      by_cases bit : value.testBit j <;> simp [bit, coeff_X_pow, apart.symm]
  · have high : value.testBit i = false :=
      Nat.testBit_eq_false_of_lt (Nat.lt_log2_self.trans_le
        (Nat.pow_le_pow_right (by norm_num) (by omega)))
    rw [high]
    apply Finset.sum_eq_zero
    intro j member
    have apart : i ≠ j := by
      have := Finset.mem_range.mp member
      omega
    by_cases bit : value.testBit j <;> simp [bit, coeff_X_pow, apart]

theorem toPoly_injective : Function.Injective toPoly := by
  intro left right equal
  apply Nat.eq_of_testBit_eq
  intro i
  have coefficients := congrArg (fun p => coeff p i) equal
  simp only [coeff_toPoly] at coefficients
  cases leftBit : left.testBit i <;> cases rightBit : right.testBit i <;>
    simp [leftBit, rightBit] at coefficients ⊢

@[simp] theorem toPoly_zero : toPoly 0 = 0 := by
  ext i
  simp [coeff_toPoly]

@[simp] theorem toPoly_one : toPoly 1 = 1 := by
  ext i
  rw [coeff_toPoly, coeff_one]
  by_cases low : i = 0 <;> simp [Nat.testBit_one_eq_true_iff_self_eq_zero, low]

@[simp] theorem toPoly_eq_zero_iff {value : ℕ} : toPoly value = 0 ↔ value = 0 :=
  ⟨fun zero => toPoly_injective (zero.trans toPoly_zero.symm), fun zero => zero ▸ toPoly_zero⟩

@[simp] theorem toPoly_xor (left right : ℕ) :
    toPoly (left ^^^ right) = toPoly left + toPoly right := by
  ext i
  simp only [coeff_toPoly, coeff_add, Nat.testBit_xor]
  cases left.testBit i <;> cases right.testBit i <;> decide

@[simp] theorem toPoly_shiftLeft (value amount : ℕ) :
    toPoly (value <<< amount) = toPoly value * X ^ amount := by
  ext i
  simp only [coeff_toPoly, coeff_mul_X_pow', Nat.testBit_shiftLeft]
  by_cases low : amount ≤ i <;> simp [low]

/-- The low bit and the bits above it. -/
theorem toPoly_eq_low_add (value : ℕ) :
    toPoly value = toPoly (value &&& 1) + toPoly (value >>> 1) * X := by
  ext i
  rw [coeff_add, show (X : (ZMod 2)[X]) = X ^ 1 by rw [pow_one], coeff_mul_X_pow']
  simp only [coeff_toPoly, Nat.testBit_and, Nat.testBit_shiftRight]
  cases i with
  | zero => simp
  | succ i => simp [Nat.testBit_one_eq_true_iff_self_eq_zero, Nat.add_comm]

theorem natDegree_toPoly {value : ℕ} (nonzero : value ≠ 0) :
    (toPoly value).natDegree = value.log2 := by
  apply natDegree_eq_of_le_of_coeff_ne_zero
  · rw [natDegree_le_iff_coeff_eq_zero]
    intro i above
    have high : value.testBit i = false :=
      Nat.testBit_eq_false_of_lt (Nat.lt_log2_self.trans_le
        (Nat.pow_le_pow_right (by norm_num) above))
    simp [coeff_toPoly, high]
  · simp [coeff_toPoly, Nat.testBit_log2 nonzero]

theorem degree_toPoly_lt {value width : ℕ} (below : value < 2 ^ width) :
    (toPoly value).degree < width := by
  rw [degree_lt_iff_coeff_zero]
  intro i above
  have high : value.testBit i = false :=
    Nat.testBit_eq_false_of_lt (below.trans_le (Nat.pow_le_pow_right (by norm_num) above))
  simp [coeff_toPoly, high]

theorem isUnit_toPoly_iff {value : ℕ} : IsUnit (toPoly value) ↔ value = 1 := by
  constructor
  · intro unit
    obtain ⟨scalar, scalarUnit, equal⟩ := isUnit_iff.mp unit
    have one : scalar = 1 := by
      revert scalarUnit
      clear equal
      revert scalar
      decide
    rw [one, C_1] at equal
    exact toPoly_injective (equal.symm.trans toPoly_one.symm)
  · rintro rfl
    rw [toPoly_one]
    exact isUnit_one

/-! ## Cancelling the top bit -/

/-- The top bit of a number that is not zero. -/
theorem testBit_size_sub_one {value : ℕ} (nonzero : value ≠ 0) :
    value.testBit (value.size - 1) = true := by
  have positive : 0 < value.size := Nat.size_pos.mpr (Nat.pos_of_ne_zero nonzero)
  apply Nat.testBit_of_two_pow_le_and_two_pow_add_one_gt
  · exact Nat.lt_size.mp (by omega)
  · exact Nat.size_le.mp (by omega)

/-- A polynomial loses its top bit to a shorter one that is moved under it. -/
theorem size_xor_shiftLeft_lt {value divisor : ℕ} (nonzero : divisor ≠ 0)
    (long : divisor.size ≤ value.size) :
    (value ^^^ divisor <<< (value.size - divisor.size)).size < value.size := by
  have divisor_pos : 0 < divisor.size := Nat.size_pos.mpr (Nat.pos_of_ne_zero nonzero)
  have value_ne : value ≠ 0 := Nat.pos_iff_ne_zero.mp (Nat.size_pos.mp (divisor_pos.trans_le long))
  suffices low : (value ^^^ divisor <<< (value.size - divisor.size)).size ≤ value.size - 1 by
    omega
  rw [Nat.size_le]
  apply Nat.lt_pow_two_of_testBit
  intro i above
  rw [Nat.testBit_xor, Nat.testBit_shiftLeft]
  rcases Nat.eq_or_lt_of_le above with equal | beyond
  · have place : i - (value.size - divisor.size) = divisor.size - 1 := by omega
    have inside : value.size - divisor.size ≤ i := by omega
    rw [place, testBit_size_sub_one nonzero, ← equal, testBit_size_sub_one value_ne]
    simp only [ge_iff_le, Bool.and_true, Bool.true_bne, Bool.not_eq_false', decide_eq_true_eq]
    omega
  · have high : value.testBit i = false :=
      Nat.testBit_eq_false_of_lt (Nat.size_le.mp (by omega))
    have shifted : divisor.testBit (i - (value.size - divisor.size)) = false :=
      Nat.testBit_eq_false_of_lt (Nat.size_le.mp (by omega))
    simp [high, shifted]

end BinaryPolynomial
end Library
