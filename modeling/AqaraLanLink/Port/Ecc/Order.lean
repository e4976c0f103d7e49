import AqaraLanLink.Port.Ecc.Curve
import AqaraLanLink.Library.CofactorTwo
import AqaraLanLink.Library.RootCertificate

/-!
# The order of the curve

The generator has prime order `curveOrder`, and the curve has twice as many points.  The multiple
by `curveOrder - 1` is computed in projective coordinates, one coefficient to an octet, so that the
kernel does the field arithmetic with its own multiplication.
-/

namespace AqaraLanLink
namespace Port
namespace Ecc

open Library Library.OctetProduct
open WeierstrassCurve.Affine (Nonsingular)

/-! ## The order is prime -/

/-- The primitive roots and the prime factors, checked at once. -/
private theorem certificates :
    RootCertificate.check 3026864881 14 [2, 2, 2, 2, 3, 3, 5, 13, 323383] ∧
    RootCertificate.check 48429838097 3 [2, 2, 2, 2, 3026864881] ∧
    RootCertificate.check 9975447143 5 [2, 2647, 1884293] ∧
    RootCertificate.check 62317571831 13 [2, 5, 2293, 2717731] ∧
    RootCertificate.check 3729873863281477372999 3 [2, 3, 9975447143, 62317571831] ∧
    RootCertificate.check 6799065232765820831739327781612099975633 10
      [2, 2, 2, 2, 3, 784153, 48429838097, 3729873863281477372999] ∧
    RootCertificate.check curveOrder 2
      [2, 53, 383, 21179, 6799065232765820831739327781612099975633] := by
  decide +kernel

private theorem prime_3026864881 : Nat.Prime 3026864881 :=
  RootCertificate.prime 14 [2, 2, 2, 2, 3, 3, 5, 13, 323383] (by norm_num) certificates.1

private theorem prime_48429838097 : Nat.Prime 48429838097 := by
  refine RootCertificate.prime 3 [2, 2, 2, 2, 3026864881] ?_ certificates.2.1
  simp only [List.forall_mem_cons, List.not_mem_nil, false_implies, implies_true, and_true]
  exact ⟨by norm_num, by norm_num, by norm_num, by norm_num, prime_3026864881⟩

private theorem prime_9975447143 : Nat.Prime 9975447143 :=
  RootCertificate.prime 5 [2, 2647, 1884293] (by norm_num) certificates.2.2.1

private theorem prime_62317571831 : Nat.Prime 62317571831 :=
  RootCertificate.prime 13 [2, 5, 2293, 2717731] (by norm_num) certificates.2.2.2.1

private theorem prime_3729873863281477372999 : Nat.Prime 3729873863281477372999 := by
  refine RootCertificate.prime 3 [2, 3, 9975447143, 62317571831] ?_ certificates.2.2.2.2.1
  simp only [List.forall_mem_cons, List.not_mem_nil, false_implies, implies_true, and_true]
  exact ⟨by norm_num, by norm_num, prime_9975447143, prime_62317571831⟩

private theorem prime_6799065232765820831739327781612099975633 :
    Nat.Prime 6799065232765820831739327781612099975633 := by
  refine RootCertificate.prime 10
    [2, 2, 2, 2, 3, 784153, 48429838097, 3729873863281477372999] ?_ certificates.2.2.2.2.2.1
  simp only [List.forall_mem_cons, List.not_mem_nil, false_implies, implies_true, and_true]
  exact ⟨by norm_num, by norm_num, by norm_num, by norm_num, by norm_num, by norm_num,
    prime_48429838097, prime_3729873863281477372999⟩

theorem curveOrder_prime : curveOrder.Prime := by
  refine RootCertificate.prime 2
    [2, 53, 383, 21179, 6799065232765820831739327781612099975633] ?_ certificates.2.2.2.2.2.2
  simp only [List.forall_mem_cons, List.not_mem_nil, false_implies, implies_true, and_true]
  exact ⟨by norm_num, by norm_num, by norm_num, by norm_num,
    prime_6799065232765820831739327781612099975633⟩

theorem curveOrder_odd : Odd curveOrder := Nat.odd_iff.mpr rfl

theorem three_le_curveOrder : 3 ≤ curveOrder := by norm_num [curveOrder]

/-! ## Words as field elements -/

/-- A word that stores a polynomial of the field, one coefficient to an octet. -/
structure Word where
  /-- The octets. -/
  octets : ℕ
  /-- They are single coefficients, and few enough to be multiplied. -/
  isWord : IsWord octets

namespace Word

/-- The word of a field element. -/
def ofNat (value : ℕ) : Word :=
  ⟨spread 163 value, spread_isWord (by norm_num) value⟩

instance : Add Word :=
  ⟨fun left right => ⟨left.octets ^^^ right.octets, left.isWord.xor right.isWord⟩⟩

instance : Mul Word :=
  ⟨fun left right => ⟨mulMod 163 fieldTaps left.octets right.octets,
    mulMod_isWord fieldTaps_foldable left.isWord right.isWord⟩⟩

/-- The field element of a word. -/
noncomputable def toField (word : Word) : BinaryField :=
  AdjoinRoot.mk fieldModulus (octetPoly word.octets)

@[simp] theorem toField_add (left right : Word) :
    (left + right).toField = left.toField + right.toField := by
  rw [toField, toField, toField, ← map_add, ← octetPoly_xor]
  rfl

@[simp] theorem toField_mul (left right : Word) :
    (left * right).toField = left.toField * right.toField := by
  rw [toField, toField, toField, ← map_mul]
  exact (AdjoinRoot.mk_eq_mk.mpr (fieldModulus_dvd_mulMod_sub left.isWord right.isWord)).symm

theorem toField_ofNat {value : ℕ} (reduced : value < 2 ^ 163) :
    (ofNat value).toField = Ecc.toField value := by
  rw [toField, ofNat, octetPoly_spread reduced, Ecc.toField]

/-- A word with at most 163 octets, not all zero, is not zero in the field. -/
theorem toField_ne_zero {word : Word} (nonzero : word.octets ≠ 0)
    (short : word.octets < 256 ^ 163) : word.toField ≠ 0 := by
  rw [toField, Ne, AdjoinRoot.mk_eq_zero]
  intro divides
  have small : (octetPoly word.octets).degree < fieldModulus.degree := by
    rw [(Polynomial.degree_eq_iff_natDegree_eq fieldModulus_irreducible.ne_zero).mpr
      natDegree_fieldModulus, Polynomial.degree_lt_iff_coeff_zero]
    intro k above
    rw [coeff_octetPoly, octet_eq_zero_of_lt, Nat.cast_zero]
    exact short.trans_le (Nat.pow_le_pow_right (by norm_num) above)
  have zero := Polynomial.eq_zero_of_dvd_of_degree_lt divides small
  exact nonzero (word.isWord.sparse.eq_zero_of_octetPoly zero)

end Word

/-! ## The multiple of the generator -/

/-- A point in projective coordinates. -/
structure WordPoint where
  /-- Numerator of the abscissa. -/
  x : Word
  /-- Numerator of the ordinate. -/
  y : Word
  /-- Common denominator. -/
  z : Word

namespace WordPoint

/-- The point stands for `P`, unless its denominator vanishes. -/
def StandsFor (point : WordPoint) (P : CurveGroup) : Prop :=
  point.z.toField ≠ 0 →
    ∃ on : Nonsingular lanCurve (point.x.toField / point.z.toField)
        (point.y.toField / point.z.toField),
      P = .some _ _ on

/-- The double; its denominator is that of the tangent, cubed. -/
def double (point : WordPoint) : WordPoint :=
  let square := point.x * point.x
  let D := point.x * point.z
  let N := square + point.y * point.z
  let D2 := D * D
  let A := N * N + N * D + D2
  { x := D * A
    y := square * square * D + (N + D) * A
    z := D * D2 }

/-- The sum with an affine point; its denominator is that of the secant, cubed. -/
def add (gx gy : Word) (point : WordPoint) : WordPoint :=
  let N := point.y + gy * point.z
  let D := point.x + gx * point.z
  let D2 := D * D
  let D3 := D2 * D
  let A := point.z * (N * N + N * D + D2) + D3
  { x := D * A
    y := N * (point.x * D2 + A) + D * A + point.y * D3
    z := D3 * point.z }

/-- Double and add for the low `bits` bits of `k`. -/
def ladder (gx gy : Word) (k : ℕ) : ℕ → WordPoint → WordPoint
  | 0, point => point
  | bits + 1, point =>
      ladder gx gy k bits (if k.testBit bits then add gx gy (double point) else double point)

theorem StandsFor.double {point : WordPoint} {P : CurveGroup} (stands : point.StandsFor P) :
    point.double.StandsFor (2 • P) := by
  intro z_ne
  simp only [WordPoint.double, Word.toField_add, Word.toField_mul] at z_ne ⊢
  have denominator_ne := left_ne_zero_of_mul z_ne
  have x_ne := left_ne_zero_of_mul denominator_ne
  have pointZ_ne := right_ne_zero_of_mul denominator_ne
  obtain ⟨on, rfl⟩ := stands pointZ_ne
  apply BinaryCurve.two_nsmul_of_x_ne_zero on (div_ne_zero x_ne pointZ_ne) rfl
  · field_simp
  · field_simp
    ring

theorem StandsFor.add {gx gy : Word} {G : CurveGroup}
    (onG : Nonsingular lanCurve gx.toField gy.toField) (G_eq : G = .some _ _ onG)
    {point : WordPoint} {P : CurveGroup} (stands : point.StandsFor P) :
    (point.add gx gy).StandsFor (P + G) := by
  intro z_ne
  simp only [WordPoint.add, Word.toField_add, Word.toField_mul] at z_ne ⊢
  have pointZ_ne := right_ne_zero_of_mul z_ne
  have D_ne := right_ne_zero_of_mul (left_ne_zero_of_mul z_ne)
  obtain ⟨on, rfl⟩ := stands pointZ_ne
  subst G_eq
  have dx_eq : point.x.toField / point.z.toField + gx.toField =
      (point.x.toField + gx.toField * point.z.toField) / point.z.toField := by
    field_simp
  have apart : point.x.toField / point.z.toField ≠ gx.toField := by
    intro equal
    rw [equal, CharTwo.add_self_eq_zero, eq_comm, div_eq_zero_iff] at dx_eq
    exact dx_eq.elim D_ne pointZ_ne
  have slope_eq : (point.y.toField + gy.toField * point.z.toField) /
        (point.x.toField + gx.toField * point.z.toField) =
      (point.y.toField / point.z.toField + gy.toField) /
        (point.x.toField / point.z.toField + gx.toField) := by
    rw [dx_eq]
    field_simp
  apply BinaryCurve.add_of_x_ne on onG apart slope_eq
  · rw [dx_eq]
    field_simp
    ring
  · generalize point.x.toField + gx.toField * point.z.toField = D at D_ne
    field_simp

theorem StandsFor.ladder {gx gy : Word} {G : CurveGroup}
    (onG : Nonsingular lanCurve gx.toField gy.toField) (G_eq : G = .some _ _ onG) {k bits : ℕ}
    {point : WordPoint} (stands : point.StandsFor ((k >>> bits) • G)) :
    (ladder gx gy k bits point).StandsFor (k • G) := by
  induction bits generalizing point with
  | zero => exact stands
  | succ bits induction =>
      rw [WordPoint.ladder]
      apply induction
      have half : k >>> (bits + 1) = (k >>> bits) / 2 := Nat.shiftRight_succ k bits
      have low : k.testBit bits = decide ((k >>> bits) % 2 = 1) := by
        rw [← Nat.testBit_zero, Nat.testBit_shiftRight, Nat.add_zero]
      rw [half] at stands
      rw [low]
      have doubled := stands.double
      rw [← mul_nsmul'] at doubled
      by_cases odd : (k >>> bits) % 2 = 1
      · have sum := doubled.add onG G_eq
        rw [← succ_nsmul] at sum
        have split : 2 * ((k >>> bits) / 2) + 1 = k >>> bits := by omega
        rw [split] at sum
        rwa [if_pos (decide_eq_true odd)]
      · have split : 2 * ((k >>> bits) / 2) = k >>> bits := by omega
        rw [split] at doubled
        rwa [if_neg (decide_eq_true_iff.not.mpr odd)]

end WordPoint

/-- The generator as a point of the group. -/
theorem generator_nonsingular : Nonsingular lanCurve (toField genX) (toField genY) :=
  isOnCurve_iff.mp (by decide +kernel)

/-- The element of the group that the generator stands for. -/
noncomputable def generatorPoint : CurveGroup :=
  .some _ _ generator_nonsingular

theorem generator_represents : Represents (.affine genX genY) generatorPoint :=
  ⟨generator_nonsingular, rfl⟩

theorem generatorPoint_ne_zero : generatorPoint ≠ 0 :=
  generator_represents.ne_zero

/-- The ladder over all the bits of `curveOrder - 1`, started from the generator. -/
def orderLadder : WordPoint :=
  WordPoint.ladder (.ofNat genX) (.ofNat genY) (curveOrder - 1) 162
    ⟨.ofNat genX, .ofNat genY, .ofNat 1⟩

/-- What the ladder arrives at: the negative of the generator, on a short denominator. -/
theorem orderLadder_eq :
    orderLadder.x.octets = (Word.ofNat genX * orderLadder.z).octets ∧
      orderLadder.y.octets = ((Word.ofNat genX + Word.ofNat genY) * orderLadder.z).octets ∧
      orderLadder.z.octets ≠ 0 ∧ orderLadder.z.octets < 256 ^ 163 := by
  decide +kernel

theorem curveOrder_nsmul_generatorPoint : curveOrder • generatorPoint = 0 := by
  obtain ⟨x_eq, y_eq, z_ne, z_short⟩ := orderLadder_eq
  have z_unit := Word.toField_ne_zero z_ne z_short
  have x_word : (Word.ofNat genX).toField = toField genX := Word.toField_ofNat (by decide)
  have y_word : (Word.ofNat genY).toField = toField genY := Word.toField_ofNat (by decide)
  have one_word : (Word.ofNat 1).toField = 1 := by
    rw [Word.toField_ofNat (by norm_num), toField_one]
  have onG : Nonsingular lanCurve (Word.ofNat genX).toField (Word.ofNat genY).toField := by
    rw [x_word, y_word]
    exact generator_nonsingular
  have G_eq : generatorPoint = .some _ _ onG := by
    simp only [generatorPoint, x_word, y_word]
  have start : WordPoint.StandsFor ⟨.ofNat genX, .ofNat genY, .ofNat 1⟩
      (((curveOrder - 1) >>> 162) • generatorPoint) := by
    intro _
    rw [show (curveOrder - 1) >>> 162 = 1 from rfl, one_nsmul, one_word, div_one, div_one]
    exact ⟨onG, G_eq⟩
  obtain ⟨on, multiple⟩ := start.ladder onG G_eq z_unit
  have x_final : orderLadder.x.toField / orderLadder.z.toField = toField genX := by
    rw [div_eq_iff z_unit, ← x_word, ← Word.toField_mul, Word.toField, x_eq, Word.toField]
  have y_final : orderLadder.y.toField / orderLadder.z.toField =
      toField genX + toField genY := by
    rw [div_eq_iff z_unit, ← x_word, ← y_word, ← Word.toField_add, ← Word.toField_mul,
      Word.toField, y_eq, Word.toField]
  have opposite : (curveOrder - 1) • generatorPoint = -generatorPoint := by
    rw [multiple, generatorPoint, WeierstrassCurve.Affine.Point.neg_some]
    simp only [WeierstrassCurve.Affine.Point.some.injEq, BinaryCurve.negY_eq]
    exact ⟨x_final, y_final⟩
  have split : curveOrder = (curveOrder - 1) + 1 :=
    (Nat.sub_add_cancel curveOrder_prime.one_le).symm
  rw [split, succ_nsmul, opposite, neg_add_cancel]

/-! ## The number of points -/

/-- The point with abscissa zero, which every subgroup of even order contains. -/
theorem exists_involution : ∃ T : CurveGroup, 2 • T = 0 ∧ T ≠ 0 := by
  have square : (toField curveB ^ 2 ^ 162) ^ 2 = toField curveB := by
    have := Fintype.ofFinite BinaryField
    rw [← pow_mul, ← pow_succ, ← card_binaryField, Nat.card_eq_fintype_card, FiniteField.pow_card]
  have on : Nonsingular lanCurve 0 (toField curveB ^ 2 ^ 162) := by
    rw [← WeierstrassCurve.Affine.equation_iff_nonsingular, BinaryCurve.equation_iff, square]
    ring
  exact ⟨.some _ _ on, BinaryCurve.two_nsmul_of_x_eq_zero on,
    WeierstrassCurve.Affine.Point.some_ne_zero on⟩

theorem card_curveGroup : Nat.card CurveGroup = 2 * curveOrder := by
  obtain ⟨T, involution, T_ne⟩ := exists_involution
  apply CofactorTwo.card_eq curveOrder_prime curveOrder_odd curveOrder_nsmul_generatorPoint
    generatorPoint_ne_zero involution T_ne
  calc
    Nat.card CurveGroup ≤ 2 * Nat.card BinaryField + 1 := BinaryCurve.card_point_le
    _ = 2 * 2 ^ 163 + 1 := by rw [card_binaryField]
    _ < 4 * curveOrder := by norm_num [curveOrder]

/-- The subgroup that the generator spans. -/
noncomputable def primeSubgroup : AddSubgroup CurveGroup :=
  AddSubgroup.zmultiples generatorPoint

theorem mem_primeSubgroup_iff {P : CurveGroup} : P ∈ primeSubgroup ↔ curveOrder • P = 0 :=
  CofactorTwo.mem_zmultiples_iff card_curveGroup curveOrder_prime curveOrder_odd
    curveOrder_nsmul_generatorPoint generatorPoint_ne_zero P

/-- The small multiples of a point of the subgroup. -/
theorem nsmul_ne_zero_of_mem {P : CurveGroup} (member : P ∈ primeSubgroup) (P_ne : P ≠ 0)
    {k : ℕ} (indivisible : ¬ curveOrder ∣ k) : k • P ≠ 0 :=
  mt (CofactorTwo.nsmul_eq_zero_iff_dvd curveOrder_prime (mem_primeSubgroup_iff.mp member)
    P_ne).mp indivisible

/-- The small multiples of a point outside the subgroup that is no involution. -/
theorem nsmul_ne_zero_of_not_mem {P : CurveGroup} (outside : P ∉ primeSubgroup)
    (moved : 2 • P ≠ 0) {k : ℕ} (indivisible : ¬ 2 * curveOrder ∣ k) : k • P ≠ 0 :=
  mt (CofactorTwo.nsmul_eq_zero_iff_two_mul_dvd card_curveGroup curveOrder_prime curveOrder_odd
    (mt mem_primeSubgroup_iff.mpr outside) moved).mp indivisible

end Ecc
end Port
end AqaraLanLink
