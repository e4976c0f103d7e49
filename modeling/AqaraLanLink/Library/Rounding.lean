import Mathlib.Algebra.Order.Floor.Ring
import Mathlib.Tactic.Linarith
import Mathlib.Tactic.Positivity
import Mathlib.Tactic.FieldSimp
import Mathlib.Tactic.Ring

/-!
# Rounding to the nearest integer

A half goes to the even neighbour.  Rounding is monotone, and what is near an integer is rounded
to it; so a number can come back from its rounded reciprocal.
-/

namespace Library
namespace Rounding

variable {K : Type*} [Field K] [LinearOrder K] [IsStrictOrderedRing K] [FloorRing K]

/-- The nearest integer, the even one of two. -/
def halfEven (value : K) : ℤ :=
  if Int.fract value = 1 / 2 ∧ ⌊value⌋ % 2 = 0 then ⌊value⌋ else ⌊value + 1 / 2⌋

/-- No integer is nearer. -/
theorem abs_sub_halfEven_le (value : K) : |value - halfEven value| ≤ 1 / 2 := by
  rw [halfEven]
  split
  · next half =>
    rw [Int.self_sub_floor, half.1, abs_of_nonneg (by positivity)]
  · have low := Int.floor_le (value + 1 / 2)
    have high := Int.lt_floor_add_one (value + 1 / 2)
    rw [abs_le]
    constructor
    · linarith
    · linarith

theorem halfEven_eq_of_abs_sub_lt {value : K} {whole : ℤ} (near : |value - whole| < 1 / 2) :
    halfEven value = whole := by
  have nearest := abs_sub_halfEven_le value
  rw [abs_lt] at near
  rw [abs_le] at nearest
  have less : ((halfEven value : ℤ) : K) < (whole + 1 : ℤ) := by
    rw [Int.cast_add, Int.cast_one]
    linarith
  have more : ((whole : ℤ) : K) < (halfEven value + 1 : ℤ) := by
    rw [Int.cast_add, Int.cast_one]
    linarith
  have below := Int.cast_lt.mp less
  have above := Int.cast_lt.mp more
  omega

@[simp] theorem halfEven_intCast (whole : ℤ) : halfEven (whole : K) = whole := by
  apply halfEven_eq_of_abs_sub_lt
  rw [sub_self, abs_zero]
  positivity

theorem halfEven_mono {first second : K} (le : first ≤ second) :
    halfEven first ≤ halfEven second := by
  have nearFirst := abs_le.mp (abs_sub_halfEven_le first)
  have nearSecond := abs_le.mp (abs_sub_halfEven_le second)
  by_contra less
  have gap : ((halfEven second + 1 : ℤ) : K) ≤ halfEven first := Int.cast_le.mpr (by omega)
  rw [Int.cast_add, Int.cast_one] at gap
  -- Both lie half-way between the same integers.
  have same : first = second := by linarith
  exact less (same ▸ le_refl _)

/-- A whole number comes back from a finer scale. -/
theorem halfEven_mul_div {ratio : K} (finer : 1 < ratio) (whole : ℤ) :
    halfEven ((halfEven (whole * ratio) : K) / ratio) = whole := by
  have positive : 0 < ratio := lt_trans one_pos finer
  apply halfEven_eq_of_abs_sub_lt
  have distance : (halfEven (whole * ratio) : K) / ratio - whole =
      -((whole * ratio - halfEven (whole * ratio)) / ratio) := by
    field_simp
    ring
  calc |(halfEven (whole * ratio) : K) / ratio - whole|
      = |whole * ratio - halfEven (whole * ratio)| / ratio := by
        rw [distance, abs_neg, abs_div, abs_of_pos positive]
    _ ≤ 1 / 2 / ratio := div_le_div_of_nonneg_right (abs_sub_halfEven_le _) positive.le
    _ < 1 / 2 := div_lt_self (by positivity) finer

/-- On a coarser scale and back, a number moves by half a step of each. -/
theorem abs_halfEven_div_mul_sub_le {ratio : K} (positive : 0 < ratio) (value : K) :
    |(halfEven ((halfEven (value / ratio) : K) * ratio) : K) - value| ≤ (ratio + 1) / 2 := by
  obtain ⟨coarse, rounds⟩ : ∃ coarse, coarse = halfEven (value / ratio) := ⟨_, rfl⟩
  rw [← rounds]
  have fine := abs_sub_halfEven_le ((coarse : K) * ratio)
  have distance : value - coarse * ratio = (value / ratio - coarse) * ratio := by
    field_simp
  have near : |value - coarse * ratio| ≤ 1 / 2 * ratio := by
    rw [distance, abs_mul, abs_of_pos positive]
    have step := abs_sub_halfEven_le (value / ratio)
    rw [← rounds] at step
    exact mul_le_mul_of_nonneg_right step positive.le
  rw [abs_le] at fine near ⊢
  constructor
  · linarith
  · linarith

/-- A whole number comes back from the rounded quotient of a number that is at least its square. -/
theorem halfEven_div_halfEven_div {whole total : ℤ} (positive : 0 < whole)
    (large : whole * whole ≤ total) : halfEven ((total : K) / halfEven ((total : K) / whole)) = whole := by
  have one : (0 : K) < whole := Int.cast_pos.mpr positive
  have square : (whole : K) * whole ≤ total := by exact_mod_cast large
  obtain ⟨quotient, rounds⟩ : ∃ quotient, quotient = halfEven ((total : K) / whole) := ⟨_, rfl⟩
  have near := abs_sub_halfEven_le ((total : K) / whole)
  rw [← rounds] at near ⊢
  have most : whole ≤ quotient := by
    have step : ((whole : ℤ) : K) ≤ total / whole := (le_div_iff₀ one).mpr square
    have rounded := halfEven_mono step
    rwa [halfEven_intCast, ← rounds] at rounded
  have two : (whole : K) ≤ quotient := Int.cast_le.mpr most
  have three : (0 : K) < quotient := lt_of_lt_of_le one two
  rcases most.eq_or_lt with same | less
  · rw [← same, ← same.trans rounds]
  · apply halfEven_eq_of_abs_sub_lt
    have distance : (total : K) / quotient - whole =
        (total / whole - quotient) * (whole / quotient) := by
      field_simp
    have ratio : (whole : K) / quotient < 1 := (div_lt_one three).mpr (Int.cast_lt.mpr less)
    calc |(total : K) / quotient - whole|
        = |(total : K) / whole - quotient| * (whole / quotient) := by
          rw [distance, abs_mul, abs_of_pos (div_pos one three)]
      _ ≤ 1 / 2 * (whole / quotient) := mul_le_mul_of_nonneg_right near (div_pos one three).le
      _ < 1 / 2 := by linarith

end Rounding
end Library
