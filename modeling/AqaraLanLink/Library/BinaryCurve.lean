import Mathlib.AlgebraicGeometry.EllipticCurve.Affine.Point

/-!
# Ordinary elliptic curves in characteristic two

The curve `y² + xy = x³ + ax² + b` with `b ≠ 0`, and the coordinates of its negatives, doubles and
sums in the form in which binary-field implementations compute them.
-/

namespace Library
namespace BinaryCurve

open WeierstrassCurve
open WeierstrassCurve.Affine (Point)

variable {K : Type*} [Field K]

/-- The curve `y² + xy = x³ + ax² + b`. -/
def curve (a b : K) : Affine K := ⟨1, a, 0, 0, b⟩

variable {a b : K}

theorem equation_iff {x y : K} :
    (curve a b).Equation x y ↔ y ^ 2 + x * y = x ^ 3 + a * x ^ 2 + b := by
  simp [Affine.equation_iff, curve]

variable [CharP K 2]

theorem isElliptic (b_ne : b ≠ 0) : (curve a b).IsElliptic := by
  have two : (2 : K) = 0 := CharTwo.two_eq_zero
  have discriminant : (curve a b).Δ = b := by
    simp only [WeierstrassCurve.Δ, b₂, b₄, b₆, b₈, curve]
    linear_combination (-b - 6 * a * b - 24 * a ^ 2 * b - 32 * a ^ 3 * b - 216 * b ^ 2) * two
  refine ⟨?_⟩
  rw [discriminant]
  exact b_ne.isUnit

theorem negY_eq (x y : K) : (curve a b).negY x y = x + y := by
  rw [Affine.negY, curve]
  linear_combination (-x - y) * (CharTwo.two_eq_zero : (2 : K) = 0)

/-- Two points of the curve with one abscissa are equal or opposite. -/
theorem y_eq_or_eq_add {x y y' : K} (on : (curve a b).Equation x y)
    (on' : (curve a b).Equation x y') : y = y' ∨ y = x + y' := by
  have cases := Affine.Y_eq_of_X_eq on on' rfl
  rcases cases with same | opposite
  · exact Or.inl same
  · right
    rwa [negY_eq] at opposite

section

variable [DecidableEq K]

theorem add_of_y_ne {x y y' : K} (on : (curve a b).Nonsingular x y)
    (on' : (curve a b).Nonsingular x y') (apart : y ≠ y') :
    Point.some x y on + Point.some x y' on' = 0 := by
  apply Point.add_of_Y_eq rfl
  rw [negY_eq]
  exact (y_eq_or_eq_add on.1 on'.1).resolve_left apart

theorem two_nsmul_of_x_eq_zero {y : K} (on : (curve a b).Nonsingular 0 y) :
    2 • Point.some 0 y on = 0 := by
  rw [two_nsmul]
  exact Point.add_self_of_Y_eq (by rw [negY_eq, zero_add])

/-- The double of a point off the line `x = 0`. -/
theorem two_nsmul_of_x_ne_zero {x y : K} (on : (curve a b).Nonsingular x y) (x_ne : x ≠ 0)
    {slope x' y' : K} (slope_eq : slope = x + y / x) (x_eq : x' = slope ^ 2 + slope + a)
    (y_eq : y' = x ^ 2 + slope * x' + x') :
    ∃ on' : (curve a b).Nonsingular x' y',
      2 • Point.some x y on = Point.some x' y' on' := by
  have two : (2 : K) = 0 := CharTwo.two_eq_zero
  have y_ne : y ≠ (curve a b).negY x y := by
    rw [negY_eq]
    intro equal
    exact x_ne (by linear_combination -equal)
  have tangent : (curve a b).slope x x y y = slope := by
    rw [Affine.slope_of_Y_ne rfl y_ne, negY_eq, slope_eq, curve]
    have denominator : y - (x + y) = x := by linear_combination (-x) * two
    rw [denominator]
    field_simp
    linear_combination (x ^ 2 + a * x - y) * two
  have x_new : (curve a b).addX x x ((curve a b).slope x x y y) = x' := by
    rw [tangent, Affine.addX, x_eq, curve]
    linear_combination (-a - x) * two
  have y_new : (curve a b).addY x x y ((curve a b).slope x x y y) = y' := by
    rw [Affine.addY, negY_eq, Affine.negAddY, x_new, tangent, y_eq]
    have product : slope * x = x ^ 2 + y := by
      rw [slope_eq]
      field_simp
    linear_combination -product - x ^ 2 * two
  subst x_new y_new
  exact ⟨_, (two_nsmul _).trans (Point.add_self_of_Y_ne y_ne)⟩

/-- The sum of two points with different abscissas. -/
theorem add_of_x_ne {x₁ x₂ y₁ y₂ : K} (on₁ : (curve a b).Nonsingular x₁ y₁)
    (on₂ : (curve a b).Nonsingular x₂ y₂) (apart : x₁ ≠ x₂)
    {slope x' y' : K} (slope_eq : slope = (y₁ + y₂) / (x₁ + x₂))
    (x_eq : x' = slope ^ 2 + slope + (x₁ + x₂) + a)
    (y_eq : y' = slope * (x₁ + x') + x' + y₁) :
    ∃ on' : (curve a b).Nonsingular x' y',
      Point.some x₁ y₁ on₁ + Point.some x₂ y₂ on₂ = Point.some x' y' on' := by
  have two : (2 : K) = 0 := CharTwo.two_eq_zero
  have secant : (curve a b).slope x₁ x₂ y₁ y₂ = slope := by
    rw [Affine.slope_of_X_ne apart, slope_eq]
    simp only [CharTwo.sub_eq_add]
  have x_new : (curve a b).addX x₁ x₂ ((curve a b).slope x₁ x₂ y₁ y₂) = x' := by
    rw [secant, Affine.addX, x_eq, curve]
    linear_combination (-a - x₁ - x₂) * two
  have y_new : (curve a b).addY x₁ x₂ y₁ ((curve a b).slope x₁ x₂ y₁ y₂) = y' := by
    rw [Affine.addY, negY_eq, Affine.negAddY, x_new, secant, y_eq]
    linear_combination (-slope * x₁) * two
  subst x_new y_new
  exact ⟨_, Point.add_of_X_ne apart⟩

end

/-! ## Counting points -/

open Classical in
/-- A point is determined by its abscissa and by whether its ordinate is the one chosen there. -/
private noncomputable def pointCode (a b : K) : (curve a b).Point → Option (K × Bool)
  | .zero => none
  | .some x y _ =>
    some (x, decide (y = Classical.epsilon fun y' => (curve a b).Equation x y'))

private theorem pointCode_injective : Function.Injective (pointCode a b) := by
  intro P Q equal
  cases P with
  | zero =>
      cases Q with
      | zero => rfl
      | some x' y' on' => cases equal
  | some x y on =>
      cases Q with
      | zero => cases equal
      | some x' y' on' =>
          obtain ⟨rfl, decided⟩ := Prod.mk.inj (Option.some.inj equal)
          have chosen := decide_eq_decide.mp decided
          have root : (curve a b).Equation x
              (Classical.epsilon fun y' => (curve a b).Equation x y') :=
            Classical.epsilon_spec ⟨y, on.1⟩
          have same : y = y' := by
            rcases y_eq_or_eq_add on.1 root with here | there
            · exact here.trans (chosen.mp here).symm
            · rcases y_eq_or_eq_add on'.1 root with here' | there'
              · exact (chosen.mpr here').trans here'.symm
              · exact there.trans there'.symm
          subst same
          rfl

instance [Finite K] : Finite (curve a b).Point := Finite.of_injective _ pointCode_injective

/-- Every abscissa carries at most two points, and infinity is one more. -/
theorem card_point_le [Finite K] : Nat.card (curve a b).Point ≤ 2 * Nat.card K + 1 := by
  have bound := Nat.card_le_card_of_injective _ (pointCode_injective (a := a) (b := b))
  have codes : Nat.card (Option (K × Bool)) = 2 * Nat.card K + 1 := by
    rw [Finite.card_option, Nat.card_prod, Nat.card_eq_fintype_card (α := Bool),
      Fintype.card_bool, mul_comm]
  exact bound.trans_eq codes

end BinaryCurve
end Library
