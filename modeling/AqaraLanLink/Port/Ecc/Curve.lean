import AqaraLanLink.Port.Ecc.Field
import AqaraLanLink.Library.BinaryCurve

/-!
# The curve of the port's arithmetic

The pairs of integers that pass `isOnCurve` stand for points of an elliptic curve over GF(2^163).
Doubling and adding such pairs computes in the group of the curve, except that the port compares
and inverts integers where the group compares residues: an unreduced coordinate can send `gfInv`
into a loop without end.
-/

namespace AqaraLanLink
namespace Port
namespace Ecc

open Library Library.BinaryCurve
open WeierstrassCurve.Affine (Nonsingular)

theorem settleCurveA_eq : settleCurveA = .returns 1 := by decide +kernel

@[simp] theorem curveA_eq : curveA = 1 := by
  rw [curveA, settleCurveA_eq]

/-- The curve y^2 + xy = x^3 + x^2 + b over GF(2^163). -/
noncomputable abbrev lanCurve : WeierstrassCurve.Affine BinaryField :=
  BinaryCurve.curve 1 (toField curveB)

theorem toField_curveB_ne_zero : toField curveB ≠ 0 := by
  intro zero
  have equal : curveB = 0 := eq_of_toField_eq (by decide) (by decide) (by rw [zero, toField_zero])
  exact absurd equal (by decide)

instance : lanCurve.IsElliptic := BinaryCurve.isElliptic toField_curveB_ne_zero

noncomputable instance : DecidableEq BinaryField := Classical.decEq _

/-- The group of the curve. -/
abbrev CurveGroup : Type := lanCurve.Point

theorem isOnCurve_iff {x y : ℕ} :
    isOnCurve (.affine x y) curveA = true ↔ Nonsingular lanCurve (toField x) (toField y) := by
  rw [← WeierstrassCurve.Affine.equation_iff_nonsingular, equation_iff]
  have left_lt : gfSqr y ^^^ gfMulMod x y < 2 ^ 163 :=
    Nat.xor_lt_two_pow (gfSqr_lt y) (gfMulMod_lt x y)
  have right_lt : gfMulMod (gfSqr x) x ^^^ gfMulMod curveA (gfSqr x) ^^^ curveB < 2 ^ 163 :=
    Nat.xor_lt_two_pow (Nat.xor_lt_two_pow (gfMulMod_lt _ _) (gfMulMod_lt _ _)) (by decide)
  have residues : toField (gfSqr y ^^^ gfMulMod x y) =
        toField (gfMulMod (gfSqr x) x ^^^ gfMulMod curveA (gfSqr x) ^^^ curveB) ↔
      toField y ^ 2 + toField x * toField y = toField x ^ 3 + 1 * toField x ^ 2 + toField curveB := by
    simp only [toField_xor, toField_gfSqr, toField_gfMulMod, curveA_eq, toField_one]
    rw [pow_succ (toField x) 2]
  rw [isOnCurve, beq_iff_eq, ← residues]
  exact ⟨congrArg toField, eq_of_toField_eq left_lt right_lt⟩

/-! ## What a point of the port stands for -/

/-- The element of the group a point stands for; the coordinates need not be reduced. -/
def Represents : Point → CurveGroup → Prop
  | .infinity, P => P = 0
  | .affine x y, P => ∃ on : Nonsingular lanCurve (toField x) (toField y), P = .some _ _ on

/-- Both coordinates have at most `width` bits; a point is reduced when it is below width 163. -/
def Below (width : ℕ) : Point → Prop
  | .infinity => True
  | .affine x y => x < 2 ^ width ∧ y < 2 ^ width

theorem Represents.ne_zero {x y : ℕ} {P : CurveGroup} (represents : Represents (.affine x y) P) :
    P ≠ 0 := by
  obtain ⟨on, rfl⟩ := represents
  exact WeierstrassCurve.Affine.Point.some_ne_zero on

theorem Represents.eq_infinity {point : Point} (represents : Represents point 0) :
    point = .infinity := by
  cases point with
  | infinity => rfl
  | affine x y => exact absurd rfl represents.ne_zero

/-- A point of the group has one reduced representative. -/
theorem Represents.unique {point point' : Point} {P : CurveGroup}
    (represents : Represents point P) (represents' : Represents point' P)
    (reduced : Below 163 point) (reduced' : Below 163 point') : point = point' := by
  cases point with
  | infinity =>
      have zero : P = 0 := represents
      rw [zero] at represents'
      exact represents'.eq_infinity.symm
  | affine x y =>
      cases point' with
      | infinity => exact absurd represents' represents.ne_zero
      | affine x' y' =>
          obtain ⟨on, rfl⟩ := represents
          obtain ⟨on', equal⟩ := represents'
          rw [WeierstrassCurve.Affine.Point.some.injEq] at equal
          rw [eq_of_toField_eq reduced.1 reduced'.1 equal.1,
            eq_of_toField_eq reduced.2 reduced'.2 equal.2]

/-! ## Doubling -/

/-- The inversion of the abscissa ends, or is not asked for. -/
def Safe : Point → Prop
  | .infinity => True
  | .affine x _ => x = 0 ∨ toField x ≠ 0

theorem Safe.of_reduced {point : Point} (reduced : Below 163 point) : Safe point := by
  cases point with
  | infinity => trivial
  | affine x y =>
      by_cases zero : x = 0
      · exact Or.inl zero
      · refine Or.inr fun residue => zero ?_
        exact eq_of_toField_eq reduced.1 (by norm_num) (by rw [residue, toField_zero])

theorem two_nsmul_eq_zero {x y : ℕ} {P : CurveGroup} (represents : Represents (.affine x y) P)
    (zero : toField x = 0) : 2 • P = 0 := by
  obtain ⟨on, rfl⟩ := represents
  have vanishes : ∀ z (on : Nonsingular lanCurve z (toField y)), z = 0 →
      2 • WeierstrassCurve.Affine.Point.some z (toField y) on = 0 := by
    rintro z on rfl
    exact two_nsmul_of_x_eq_zero on
  exact vanishes _ on zero

theorem Safe.of_two_nsmul_ne_zero {point : Point} {P : CurveGroup}
    (represents : Represents point P) (moved : 2 • P ≠ 0) : Safe point := by
  cases point with
  | infinity => trivial
  | affine x y => exact Or.inr fun zero => moved (two_nsmul_eq_zero represents zero)

section

variable {width fuel : ℕ}

private theorem enough_of_lt {value : ℕ} (below : value < 2 ^ width)
    (enough : width + 164 ≤ fuel) : bitLength value + 164 ≤ fuel :=
  (Nat.add_le_add_right (bitLength_le_iff.mpr below) 164).trans enough

private theorem lt_two_pow {value : ℕ} (wide : 163 ≤ width) (reduced : value < 2 ^ 163) :
    value < 2 ^ width :=
  reduced.trans_le (Nat.pow_le_pow_right (by norm_num) wide)

/-- Doubling a safe point computes in the group and keeps the width. -/
theorem pointDouble_returns {point : Point} {P : CurveGroup} (represents : Represents point P)
    (safe : Safe point) (below : Below width point) (wide : 163 ≤ width)
    (enough : width + 164 ≤ fuel) :
    ∃ doubled, pointDouble fuel point = .returns doubled ∧ Below width doubled ∧
      Represents doubled (2 • P) := by
  cases point with
  | infinity =>
      have zero : P = 0 := represents
      exact ⟨.infinity, rfl, trivial, by rw [zero, nsmul_zero]; rfl⟩
  | affine x y =>
      by_cases zero : x = 0
      · refine ⟨.infinity, by simp [pointDouble, zero], trivial, ?_⟩
        exact two_nsmul_eq_zero represents (by rw [zero, toField_zero])
      · have x_ne := safe.resolve_left zero
        obtain ⟨on, rfl⟩ := represents
        obtain ⟨inverse, -, returned, inverse_eq⟩ :=
          gfInv_returns x_ne (enough_of_lt below.1 enough)
        let lambda := x ^^^ gfMulMod y inverse
        let x' := gfSqr lambda ^^^ lambda ^^^ curveA
        let y' := gfSqr x ^^^ gfMulMod lambda x' ^^^ x'
        have slope : toField lambda = toField x + toField y / toField x := by
          simp only [lambda, toField_xor, toField_gfMulMod, inverse_eq, div_eq_mul_inv]
        have x_eq : toField x' = toField lambda ^ 2 + toField lambda + 1 := by simp [x']
        have y_eq : toField y' = toField x ^ 2 + toField lambda * toField x' + toField x' := by
          simp [y']
        obtain ⟨on', double_eq⟩ := two_nsmul_of_x_ne_zero on x_ne slope x_eq y_eq
        have lambda_lt : lambda < 2 ^ width :=
          Nat.xor_lt_two_pow below.1 (lt_two_pow wide (gfMulMod_lt _ _))
        have x'_lt : x' < 2 ^ width :=
          Nat.xor_lt_two_pow (Nat.xor_lt_two_pow (lt_two_pow wide (gfSqr_lt _)) lambda_lt)
            (lt_two_pow wide (by rw [curveA_eq]; norm_num))
        have y'_lt : y' < 2 ^ width :=
          Nat.xor_lt_two_pow (Nat.xor_lt_two_pow (lt_two_pow wide (gfSqr_lt _))
            (lt_two_pow wide (gfMulMod_lt _ _))) x'_lt
        refine ⟨.affine x' y', ?_, ⟨x'_lt, y'_lt⟩, on', double_eq⟩
        rw [pointDouble, if_neg zero, returned]
        rfl

/-- A nonzero abscissa that is zero in the field is inverted for ever. -/
theorem pointDouble_running {x y : ℕ} (x_ne : x ≠ 0) (zero : toField x = 0) :
    pointDouble fuel (.affine x y) = .running := by
  rw [pointDouble, if_neg x_ne, gfInv_running fuel x_ne zero]
  rfl

/-! ## Adding -/

/-- Comparing coordinates as integers tells what comparing them in the field would. -/
def Comparable : Point → Point → Prop
  | .affine x₁ y₁, .affine x₂ y₂ =>
      toField x₁ = toField x₂ → x₁ = x₂ ∧ (toField y₁ = toField y₂ → y₁ = y₂)
  | _, _ => True

theorem Comparable.of_reduced {p q : Point} (reduced : Below 163 p) (reduced' : Below 163 q) :
    Comparable p q := by
  cases p with
  | infinity => trivial
  | affine x₁ y₁ =>
      cases q with
      | infinity => trivial
      | affine x₂ y₂ =>
          exact fun equal => ⟨eq_of_toField_eq reduced.1 reduced'.1 equal,
            eq_of_toField_eq reduced.2 reduced'.2⟩

/-- Two points with one abscissa in the field are equal or opposite. -/
theorem eq_or_add_eq_zero {x₁ y₁ x₂ y₂ : ℕ} {P Q : CurveGroup}
    (represents : Represents (.affine x₁ y₁) P) (represents' : Represents (.affine x₂ y₂) Q)
    (equal : toField x₁ = toField x₂) :
    toField y₁ = toField y₂ ∧ P = Q ∨ toField y₁ ≠ toField y₂ ∧ P + Q = 0 := by
  obtain ⟨on, rfl⟩ := represents
  obtain ⟨on', rfl⟩ := represents'
  by_cases same : toField y₁ = toField y₂
  · left
    simp [equal, same]
  · right
    refine ⟨same, ?_⟩
    have cancel : ∀ z (on : Nonsingular lanCurve z (toField y₁)), z = toField x₂ →
        WeierstrassCurve.Affine.Point.some z (toField y₁) on +
          WeierstrassCurve.Affine.Point.some _ _ on' = 0 := by
      rintro z on rfl
      exact add_of_y_ne on on' same
    exact cancel _ on equal

theorem Comparable.of_apart {p q : Point} {P Q : CurveGroup} (represents : Represents p P)
    (represents' : Represents q Q) (apart : P ≠ Q) (apart' : P + Q ≠ 0) : Comparable p q := by
  cases p with
  | infinity => trivial
  | affine x₁ y₁ =>
      cases q with
      | infinity => trivial
      | affine x₂ y₂ =>
          intro equal
          rcases eq_or_add_eq_zero represents represents' equal with ⟨-, same⟩ | ⟨-, opposite⟩
          · exact absurd same apart
          · exact absurd opposite apart'

/-- Adding comparable points computes in the group and keeps the width. -/
theorem pointAdd_returns {p q : Point} {P Q : CurveGroup} (represents : Represents p P)
    (represents' : Represents q Q) (comparable : Comparable p q) (safe : P = Q → Safe p)
    (below : Below width p) (below' : Below width q) (wide : 163 ≤ width)
    (enough : width + 164 ≤ fuel) :
    ∃ sum, pointAdd fuel p q = .returns sum ∧ Below width sum ∧ Represents sum (P + Q) := by
  cases p with
  | infinity =>
      have zero : P = 0 := represents
      refine ⟨q, rfl, below', ?_⟩
      rwa [zero, zero_add]
  | affine x₁ y₁ =>
      cases q with
      | infinity =>
          have zero : Q = 0 := represents'
          refine ⟨.affine x₁ y₁, rfl, below, ?_⟩
          rwa [zero, add_zero]
      | affine x₂ y₂ =>
          by_cases equal : toField x₁ = toField x₂
          · obtain ⟨x_eq, y_eq⟩ := comparable equal
            rcases eq_or_add_eq_zero represents represents' equal with ⟨same, rfl⟩ | ⟨apart, zero⟩
            · obtain ⟨doubled, returned, result⟩ :=
                pointDouble_returns represents (safe rfl) below wide enough
              rw [two_nsmul] at result
              refine ⟨doubled, ?_, result⟩
              rw [pointAdd, if_pos x_eq, if_pos (y_eq same), returned]
            · refine ⟨.infinity, ?_, trivial, zero⟩
              have y_ne : y₁ ≠ y₂ := fun y_eq => apart (congrArg toField y_eq)
              rw [pointAdd, if_pos x_eq, if_neg y_ne]
              rfl
          · have x_ne : x₁ ≠ x₂ := fun same => equal (congrArg toField same)
            obtain ⟨on, rfl⟩ := represents
            obtain ⟨on', rfl⟩ := represents'
            have dx_ne : toField (x₁ ^^^ x₂) ≠ 0 := by
              rw [toField_xor]
              exact fun zero => equal (CharTwo.add_eq_zero.mp zero)
            have dx_lt : x₁ ^^^ x₂ < 2 ^ width := Nat.xor_lt_two_pow below.1 below'.1
            obtain ⟨inverse, -, returned, inverse_eq⟩ :=
              gfInv_returns dx_ne (enough_of_lt dx_lt enough)
            let lambda := gfMulMod (y₁ ^^^ y₂) inverse
            let x' := gfSqr lambda ^^^ lambda ^^^ (x₁ ^^^ x₂) ^^^ curveA
            let y' := gfMulMod lambda (x₁ ^^^ x') ^^^ x' ^^^ y₁
            have slope : toField lambda =
                (toField y₁ + toField y₂) / (toField x₁ + toField x₂) := by
              simp only [lambda, toField_gfMulMod, toField_xor, inverse_eq, div_eq_mul_inv]
            have x_eq : toField x' =
                toField lambda ^ 2 + toField lambda + (toField x₁ + toField x₂) + 1 := by
              simp [x']
            have y_eq : toField y' =
                toField lambda * (toField x₁ + toField x') + toField x' + toField y₁ := by
              simp [y']
            obtain ⟨on'', sum_eq⟩ := add_of_x_ne on on' equal slope x_eq y_eq
            have x'_lt : x' < 2 ^ width :=
              Nat.xor_lt_two_pow (Nat.xor_lt_two_pow (Nat.xor_lt_two_pow
                (lt_two_pow wide (gfSqr_lt _)) (lt_two_pow wide (gfMulMod_lt _ _))) dx_lt)
                (lt_two_pow wide (by rw [curveA_eq]; norm_num))
            have y'_lt : y' < 2 ^ width :=
              Nat.xor_lt_two_pow (Nat.xor_lt_two_pow (lt_two_pow wide (gfMulMod_lt _ _)) x'_lt)
                below.2
            refine ⟨.affine x' y', ?_, ⟨x'_lt, y'_lt⟩, on'', sum_eq⟩
            simp only [pointAdd, if_neg x_ne, returned]
            rfl

/-- Different abscissas that are one in the field are told apart for ever. -/
theorem pointAdd_running {x₁ y₁ x₂ y₂ : ℕ} (x_ne : x₁ ≠ x₂) (equal : toField x₁ = toField x₂) :
    pointAdd fuel (.affine x₁ y₁) (.affine x₂ y₂) = .running := by
  have dx_ne : x₁ ^^^ x₂ ≠ 0 := mt Nat.xor_eq_zero_iff.mp x_ne
  have dx_zero : toField (x₁ ^^^ x₂) = 0 := by
    rw [toField_xor, equal, CharTwo.add_self_eq_zero]
  simp only [pointAdd, if_neg x_ne, gfInv_running fuel dx_ne dx_zero]
  rfl

/-- Adding the negative gives infinity or, when the abscissas are different integers, runs on. -/
theorem pointAdd_opposite (fuel : ℕ) {p q : Point} {P Q : CurveGroup}
    (represents : Represents p P) (represents' : Represents q Q) (nonzero : P ≠ 0)
    (apart : P ≠ Q) (opposite : P + Q = 0) :
    pointAdd fuel p q = .returns .infinity ∨ pointAdd fuel p q = .running := by
  cases p with
  | infinity => exact absurd represents nonzero
  | affine x₁ y₁ =>
      cases q with
      | infinity =>
          have zero : Q = 0 := represents'
          rw [zero, add_zero] at opposite
          exact absurd opposite nonzero
      | affine x₂ y₂ =>
          have residues : toField x₁ = toField x₂ := by
            by_contra different
            obtain ⟨on, rfl⟩ := represents
            obtain ⟨on', rfl⟩ := represents'
            obtain ⟨on'', sum_eq⟩ := add_of_x_ne on on' different rfl rfl rfl
            rw [sum_eq] at opposite
            exact WeierstrassCurve.Affine.Point.some_ne_zero on'' opposite
          by_cases x_eq : x₁ = x₂
          · left
            rcases eq_or_add_eq_zero represents represents' residues with
              ⟨-, same⟩ | ⟨different, -⟩
            · exact absurd same apart
            · have y_ne : y₁ ≠ y₂ := fun y_eq => different (congrArg toField y_eq)
              rw [pointAdd, if_pos x_eq, if_neg y_ne]
              rfl
          · exact Or.inr (pointAdd_running x_eq residues)

end

end Ecc
end Port
end AqaraLanLink
