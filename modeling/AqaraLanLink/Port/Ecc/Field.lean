import AqaraLanLink.Port.Ecc
import AqaraLanLink.Library.OctetProduct
import AqaraLanLink.Library.IrreducibilityTest
import Mathlib.Tactic.NormNum.Prime

/-!
# The field of the port's arithmetic

The polynomials that the integers of `ecc.js` stand for, taken modulo the field polynomial, are a
field of 2^163 elements, and the field calls of the port compute in it.  Every statement is about
arbitrary integers: the port never reduces what it reads from the wire.
-/

namespace AqaraLanLink
namespace Port
namespace Ecc

open Polynomial Library BinaryPolynomial

/-! ## Loops as polynomial operations -/

theorem toPoly_gfMulLoop (result left right : ℕ) :
    toPoly (gfMulLoop result left right) = toPoly result + toPoly left * toPoly right := by
  induction result, left, right using gfMulLoop.induct with
  | case1 result left => simp [gfMulLoop]
  | case2 result left right nonzero induction =>
      simp only [dite_eq_ite] at induction
      rw [gfMulLoop, if_neg nonzero, induction, toPoly_eq_low_add right, toPoly_shiftLeft]
      rw [Nat.and_one_is_mod]
      rcases Nat.mod_two_eq_zero_or_one right with even | odd
      · simp only [even, ne_eq, not_true_eq_false, if_false, toPoly_zero, pow_one]
        ring
      · simp only [odd, ne_eq, one_ne_zero, not_false_eq_true, if_true, toPoly_xor, toPoly_one,
          pow_one]
        ring

theorem toPoly_gfMul (a b : ℕ) : toPoly (gfMul a b) = toPoly a * toPoly b := by
  rw [gfMul, toPoly_gfMulLoop, toPoly_zero, zero_add]

private theorem lor_eq_xor_of_lt {low place : ℕ} (below : low < 2 ^ place) :
    low ||| 1 <<< place = low ^^^ 1 <<< place := by
  apply Nat.eq_of_testBit_eq
  intro i
  simp only [Nat.testBit_or, Nat.testBit_xor, Nat.testBit_shiftLeft]
  by_cases under : i < place
  · simp [Nat.not_le.mpr under]
  · have high : low.testBit i = false :=
      Nat.testBit_eq_false_of_lt (below.trans_le
        (Nat.pow_le_pow_right (by norm_num) (Nat.le_of_not_lt under)))
    simp [high]

theorem toPoly_gfSqrLoop {result rest i : ℕ} (below : result < 2 ^ (2 * i)) :
    toPoly (gfSqrLoop result rest i) = toPoly result + toPoly rest ^ 2 * X ^ (2 * i) := by
  induction result, rest, i using gfSqrLoop.induct with
  | case1 result i => simp [gfSqrLoop]
  | case2 result rest i nonzero induction =>
      have two : (2 : (ZMod 2)[X]) = 0 := CharTwo.two_eq_zero
      have wider : 2 ^ (2 * i) < 2 ^ (2 * (i + 1)) := Nat.pow_lt_pow_right (by norm_num) (by omega)
      have split := toPoly_eq_low_add rest
      rw [Nat.and_one_is_mod] at split
      simp only [dite_eq_ite] at induction
      rw [gfSqrLoop, if_neg nonzero]
      rw [Nat.and_one_is_mod] at induction ⊢
      rcases Nat.mod_two_eq_zero_or_one rest with even | odd
      · simp only [even, ne_eq, not_true_eq_false, if_false, toPoly_zero, zero_add]
          at induction split ⊢
        rw [induction (below.trans wider), split]
        ring
      · simp only [odd, ne_eq, one_ne_zero, not_false_eq_true, if_true, toPoly_one]
          at induction split ⊢
        have fits : result ||| 1 <<< (2 * i) < 2 ^ (2 * (i + 1)) := by
          apply Nat.or_lt_two_pow (below.trans wider)
          rwa [Nat.one_shiftLeft]
        rw [induction fits, lor_eq_xor_of_lt below, split, toPoly_xor, toPoly_shiftLeft, toPoly_one]
        linear_combination (-toPoly (rest >>> 1) * X ^ (2 * i + 1)) * two

theorem toPoly_gfSqrLoop_zero (value : ℕ) : toPoly (gfSqrLoop 0 value 0) = toPoly value ^ 2 := by
  rw [toPoly_gfSqrLoop (by norm_num)]
  simp

/-! ## Reduction -/

/-- The field polynomial as a polynomial over GF(2). -/
noncomputable def fieldModulus : (ZMod 2)[X] := toPoly fieldPoly

theorem fieldModulus_dvd_gfMod_sub (value : ℕ) :
    fieldModulus ∣ toPoly value - toPoly (gfMod value) := by
  induction value using gfMod.induct with
  | case1 value long induction =>
      have two : (2 : (ZMod 2)[X]) = 0 := CharTwo.two_eq_zero
      rw [gfMod, if_pos long]
      rw [toPoly_xor, toPoly_shiftLeft] at induction
      have step := dvd_mul_right fieldModulus (X ^ (bitLength value - bitLength fieldPoly))
      have total := dvd_sub induction step
      rw [fieldModulus] at total ⊢
      convert total using 1
      ring
  | case2 value short =>
      rw [gfMod, if_neg short, sub_self]
      exact dvd_zero _

/-- A reduced element has at most 163 bits. -/
theorem gfMod_lt (value : ℕ) : gfMod value < 2 ^ 163 := by
  induction value using gfMod.induct with
  | case1 value long induction => rwa [gfMod, if_pos long]
  | case2 value short =>
      rw [gfMod, if_neg short]
      rw [bitLength_fieldPoly] at short
      exact bitLength_le_iff.mp (by omega)

theorem gfMod_eq_self {value : ℕ} (reduced : value < 2 ^ 163) : gfMod value = value := by
  have short : bitLength value ≤ 163 := bitLength_le_iff.mpr reduced
  rw [gfMod, if_neg]
  rw [bitLength_fieldPoly]
  omega

theorem gfMulMod_lt (a b : ℕ) : gfMulMod a b < 2 ^ 163 := gfMod_lt _

theorem gfSqr_lt (value : ℕ) : gfSqr value < 2 ^ 163 := gfMod_lt _

/-! ## Irreducibility -/

/-- The powers of `X` under the top one. -/
def fieldTaps : List ℕ := [0, 3, 6, 7]

theorem fieldTaps_foldable : OctetProduct.Foldable 163 7 fieldTaps where
  tap_le := by decide
  degree_fits := by decide
  room := by decide

theorem fieldModulus_eq : fieldModulus = OctetProduct.modulus 163 fieldTaps := by
  ext i
  rw [fieldModulus, coeff_toPoly, OctetProduct.modulus]
  simp only [fieldTaps, List.map_cons, List.map_nil, List.sum_cons, List.sum_nil, coeff_add,
    coeff_X_pow, add_zero, fieldPoly, Nat.one_shiftLeft, Nat.testBit_or,
    Nat.testBit_two_pow, Nat.testBit_one_eq_true_iff_self_eq_zero, Bool.or_eq_true,
    decide_eq_true_eq]
  by_cases i = 163 <;> by_cases i = 7 <;> by_cases i = 6 <;> by_cases i = 3 <;> by_cases i = 0 <;>
    first | omega | simp_all [eq_comm]

theorem fieldModulus_dvd_mulMod_sub {left right : ℕ} (word : OctetProduct.IsWord left)
    (word' : OctetProduct.IsWord right) :
    fieldModulus ∣ OctetProduct.octetPoly left * OctetProduct.octetPoly right -
      OctetProduct.octetPoly (OctetProduct.mulMod 163 fieldTaps left right) :=
  fieldModulus_eq ▸ OctetProduct.modulus_dvd_mulMod_sub word word'

/-- Square a word `turns` times. -/
def squareTimes : ℕ → ℕ → ℕ
  | 0, word => word
  | turns + 1, word => squareTimes turns (OctetProduct.mulMod 163 fieldTaps word word)

theorem squareTimes_dvd (turns : ℕ) {word : ℕ} (isWord : OctetProduct.IsWord word) :
    fieldModulus ∣ OctetProduct.octetPoly word ^ 2 ^ turns -
      OctetProduct.octetPoly (squareTimes turns word) := by
  induction turns generalizing word with
  | zero => simp [squareTimes]
  | succ turns induction =>
      have square := fieldModulus_dvd_mulMod_sub isWord isWord
      have powers := square.trans (sub_dvd_pow_sub_pow _ _ (2 ^ turns))
      have rest := induction (OctetProduct.mulMod_isWord fieldTaps_foldable isWord isWord)
      have total := dvd_add powers rest
      rw [squareTimes, pow_succ', pow_mul, sq]
      rwa [sub_add_sub_cancel] at total

theorem natDegree_fieldModulus : fieldModulus.natDegree = 163 := by
  rw [fieldModulus, natDegree_toPoly fieldPoly_ne_zero]
  decide +kernel

/-- The field polynomial is irreducible, so its residues are a field. -/
theorem fieldModulus_irreducible : Irreducible fieldModulus := by
  apply irreducible_of_prime_natDegree
  · rw [natDegree_fieldModulus]
    norm_num
  · have word : OctetProduct.IsWord 256 := ⟨OctetProduct.spread_sparse 2 2, by norm_num⟩
    have frobenius := squareTimes_dvd 163 word
    have fixed : squareTimes 163 256 = 256 := by decide +kernel
    have generator_eq : OctetProduct.octetPoly 256 = X := by
      have spread : OctetProduct.octetPoly (OctetProduct.spread 2 2) = toPoly 2 :=
        OctetProduct.octetPoly_spread (by norm_num)
      have two : toPoly 2 = X := by
        have shifted := toPoly_shiftLeft 1 1
        rwa [toPoly_one, one_mul, pow_one] at shifted
      exact spread.trans two
    rw [fixed, generator_eq] at frobenius
    rwa [natDegree_fieldModulus, Nat.card_zmod]
  · intro a
    rw [fieldModulus_eq, OctetProduct.modulus]
    simp only [fieldTaps, List.map_cons, List.map_nil, List.sum_cons, List.sum_nil, eval_add,
      eval_pow, eval_X, eval_zero]
    have bit : a = 0 ∨ a = 1 := by
      revert a
      decide
    rcases bit with rfl | rfl
    · simp
    · simp only [one_pow]
      decide

/-! ## The residues -/

instance : Fact (Irreducible fieldModulus) := ⟨fieldModulus_irreducible⟩

/-- GF(2^163). -/
abbrev BinaryField : Type := AdjoinRoot fieldModulus

instance : CharP BinaryField 2 :=
  charP_of_injective_algebraMap (algebraMap (ZMod 2) BinaryField).injective 2

private noncomputable def basis : PowerBasis (ZMod 2) BinaryField :=
  AdjoinRoot.powerBasis fieldModulus_irreducible.ne_zero

instance : Module.Finite (ZMod 2) BinaryField := basis.finite

instance : Finite BinaryField := Module.finite_of_finite (ZMod 2)

theorem card_binaryField : Nat.card BinaryField = 2 ^ 163 := by
  rw [Module.natCard_eq_pow_finrank (K := ZMod 2), Nat.card_zmod, basis.finrank, basis,
    AdjoinRoot.powerBasis_dim, natDegree_fieldModulus]

/-- The field element an integer stands for, reduced or not. -/
noncomputable def toField (value : ℕ) : BinaryField :=
  AdjoinRoot.mk fieldModulus (toPoly value)

theorem toField_eq_iff_dvd {left right : ℕ} :
    toField left = toField right ↔ fieldModulus ∣ toPoly left - toPoly right :=
  AdjoinRoot.mk_eq_mk

theorem toField_eq_zero_iff_dvd {value : ℕ} : toField value = 0 ↔ fieldModulus ∣ toPoly value :=
  AdjoinRoot.mk_eq_zero

@[simp] theorem toField_zero : toField 0 = 0 := by
  rw [toField, toPoly_zero, map_zero]

@[simp] theorem toField_one : toField 1 = 1 := by
  rw [toField, toPoly_one, map_one]

@[simp] theorem toField_xor (left right : ℕ) :
    toField (left ^^^ right) = toField left + toField right := by
  rw [toField, toPoly_xor, map_add, toField, toField]

@[simp] theorem toField_gfMod (value : ℕ) : toField (gfMod value) = toField value :=
  (toField_eq_iff_dvd.mpr (fieldModulus_dvd_gfMod_sub value)).symm

@[simp] theorem toField_gfMulMod (a b : ℕ) : toField (gfMulMod a b) = toField a * toField b := by
  rw [gfMulMod, toField_gfMod, toField, toPoly_gfMul, map_mul, toField, toField]

@[simp] theorem toField_gfSqr (value : ℕ) : toField (gfSqr value) = toField value ^ 2 := by
  rw [gfSqr, toField_gfMod, toField, toPoly_gfSqrLoop_zero, map_pow, toField]

@[simp] theorem toField_fieldPoly : toField fieldPoly = 0 :=
  toField_eq_zero_iff_dvd.mpr dvd_rfl

/-- Reduced elements are equal as integers when they are equal in the field. -/
theorem eq_of_toField_eq {left right : ℕ} (reduced : left < 2 ^ 163) (reduced' : right < 2 ^ 163)
    (equal : toField left = toField right) : left = right := by
  have divides := toField_eq_iff_dvd.mp equal
  rw [CharTwo.sub_eq_add, ← toPoly_xor] at divides
  have small := degree_toPoly_lt (Nat.xor_lt_two_pow reduced reduced')
  have whole : fieldModulus.degree = (163 : ℕ) :=
    (degree_eq_iff_natDegree_eq fieldModulus_irreducible.ne_zero).mpr natDegree_fieldModulus
  have zero := eq_zero_of_dvd_of_degree_lt divides (small.trans_eq whole.symm)
  exact Nat.xor_eq_zero_iff.mp (toPoly_eq_zero_iff.mp zero)

theorem gfMod_eq_iff {left right : ℕ} : gfMod left = gfMod right ↔ toField left = toField right := by
  constructor
  · intro equal
    rw [← toField_gfMod left, equal, toField_gfMod]
  · intro equal
    apply eq_of_toField_eq (gfMod_lt left) (gfMod_lt right)
    simpa using equal

/-! ## Inversion -/

/-- What every turn of the loop of `gfInv` keeps for an invertible value. -/
structure InvLoop (value u v g1 g2 : ℕ) : Prop where
  /-- `g1` is the cofactor of `u`. -/
  left : toField u = toField g1 * toField value
  /-- `g2` is the cofactor of `v`. -/
  right : toField v = toField g2 * toField value
  /-- The two sides have no common factor. -/
  coprime : IsCoprime (toPoly u) (toPoly v)
  /-- The right side is never the answer. -/
  right_ne : v ≠ 1

theorem toField_xor_shiftLeft (u v amount : ℕ) :
    toField (u ^^^ v <<< amount) = toField u + toField v * AdjoinRoot.root fieldModulus ^ amount := by
  rw [toField_xor, toField, toField, toField, toPoly_shiftLeft, map_mul, map_pow,
    AdjoinRoot.mk_X]

theorem coprime_xor_shiftLeft_iff {u v amount : ℕ} :
    IsCoprime (toPoly (u ^^^ v <<< amount)) (toPoly v) ↔ IsCoprime (toPoly u) (toPoly v) := by
  rw [toPoly_xor, toPoly_shiftLeft]
  exact IsCoprime.add_mul_left_left_iff

namespace InvLoop

variable {value u v g1 g2 : ℕ}

theorem swap (loop : InvLoop value u v g1 g2) (u_ne : u ≠ 1) : InvLoop value v u g2 g1 where
  left := loop.right
  right := loop.left
  coprime := loop.coprime.symm
  right_ne := u_ne

theorem step (loop : InvLoop value u v g1 g2) (amount : ℕ) :
    InvLoop value (u ^^^ v <<< amount) v (g1 ^^^ g2 <<< amount) g2 where
  left := by
    rw [toField_xor_shiftLeft, toField_xor_shiftLeft, loop.left, loop.right]
    ring
  right := loop.right
  coprime := coprime_xor_shiftLeft_iff.mpr loop.coprime
  right_ne := loop.right_ne

theorem left_ne_zero (loop : InvLoop value u v g1 g2) : u ≠ 0 := by
  rintro rfl
  have coprime := loop.coprime
  rw [toPoly_zero, isCoprime_zero_left, isUnit_toPoly_iff] at coprime
  exact loop.right_ne coprime

theorem right_ne_zero (loop : InvLoop value u v g1 g2) (u_ne : u ≠ 1) : v ≠ 0 :=
  (loop.swap u_ne).left_ne_zero

/-- One turn: the sides change places when the left one is shorter, then the longer one loses
its top bit. -/
theorem gfInvLoop_returns {fuel : ℕ} (loop : InvLoop value u v g1 g2)
    (enough : bitLength u + bitLength v ≤ fuel) :
    ∃ inverse, inverse < 2 ^ 163 ∧ gfInvLoop fuel u v g1 g2 = .returns inverse ∧
      toField inverse * toField value = 1 := by
  induction fuel generalizing u v g1 g2 with
  | zero =>
      have zero : u = 0 := bitLength_eq_zero_iff.mp (by omega)
      exact absurd zero loop.left_ne_zero
  | succ fuel induction =>
      by_cases done : u = 1
      · refine ⟨gfMod g1, gfMod_lt g1, ?_, ?_⟩
        · rw [gfInvLoop, if_pos done]
        · rw [toField_gfMod, ← loop.left, done, toField_one]
      · by_cases shorter : bitLength u < bitLength v
        · have lower := bitLength_xor_shiftLeft_lt loop.left_ne_zero shorter.le
          rw [gfInvLoop, if_neg done, if_pos shorter]
          exact induction ((loop.swap done).step _) (by omega)
        · have lower := bitLength_xor_shiftLeft_lt (loop.right_ne_zero done)
            (Nat.le_of_not_lt shorter)
          rw [gfInvLoop, if_neg done, if_neg shorter]
          exact induction (loop.step _) (by omega)

end InvLoop

/-- With a common factor no turn ever reaches one. -/
theorem gfInvLoop_running (fuel : ℕ) {u v g1 g2 : ℕ}
    (common : ¬ IsCoprime (toPoly u) (toPoly v)) : gfInvLoop fuel u v g1 g2 = .running := by
  induction fuel generalizing u v g1 g2 with
  | zero => rfl
  | succ fuel induction =>
      have u_ne : u ≠ 1 := by
        rintro rfl
        apply common
        rw [toPoly_one]
        exact isCoprime_one_left
      have swapped : ¬ IsCoprime (toPoly v) (toPoly u) := fun coprime => common coprime.symm
      rw [gfInvLoop, if_neg u_ne]
      split
      · exact induction (mt coprime_xor_shiftLeft_iff.mp swapped)
      · exact induction (mt coprime_xor_shiftLeft_iff.mp common)

/-- Every value that is not a multiple of the field polynomial is inverted. -/
theorem gfInv_returns {fuel value : ℕ} (nonzero : toField value ≠ 0)
    (enough : bitLength value + 164 ≤ fuel) :
    ∃ inverse, inverse < 2 ^ 163 ∧ gfInv fuel value = .returns inverse ∧
      toField inverse = (toField value)⁻¹ := by
  have value_ne : value ≠ 0 := by
    rintro rfl
    exact nonzero toField_zero
  have start : InvLoop value value fieldPoly 1 0 := by
    refine ⟨by simp, by simp, ?_, by decide⟩
    have apart : ¬ fieldModulus ∣ toPoly value := mt toField_eq_zero_iff_dvd.mpr nonzero
    exact (fieldModulus_irreducible.coprime_iff_not_dvd.mpr apart).symm
  have bits : bitLength value + bitLength fieldPoly ≤ fuel := by rwa [bitLength_fieldPoly]
  obtain ⟨inverse, reduced, returned, product⟩ := start.gfInvLoop_returns bits
  refine ⟨inverse, reduced, ?_, eq_inv_of_mul_eq_one_left product⟩
  rw [gfInv, if_neg value_ne, returned]

/-- A multiple of the field polynomial other than zero is inverted for ever. -/
theorem gfInv_running (fuel : ℕ) {value : ℕ} (value_ne : value ≠ 0) (zero : toField value = 0) :
    gfInv fuel value = .running := by
  rw [gfInv, if_neg value_ne]
  apply gfInvLoop_running
  intro coprime
  have unit : IsUnit fieldModulus :=
    coprime.isUnit_of_dvd' (toField_eq_zero_iff_dvd.mp zero) dvd_rfl
  exact fieldModulus_irreducible.not_isUnit unit

/-! ## The field calls -/

/-- Squaring is multiplying a value by itself. -/
theorem gfSqr_eq (value : ℕ) : gfSqr value = gfMulMod value value := by
  apply eq_of_toField_eq (gfSqr_lt value) (gfMulMod_lt value value)
  rw [toField_gfSqr, toField_gfMulMod, pow_two]

/-- The only reduced value that stands for zero is zero. -/
theorem toField_ne_zero {value : ℕ} (nonzero : value ≠ 0) (reduced : value < 2 ^ 163) :
    toField value ≠ 0 := by
  intro zero
  apply nonzero
  apply eq_of_toField_eq reduced (by norm_num)
  rw [zero, toField_zero]

/-- The inversion of a reduced value comes to an end, and with its inverse. -/
theorem exists_gfInv {value : ℕ} (nonzero : value ≠ 0) (reduced : value < 2 ^ 163) :
    ∃ inverse, inverse < 2 ^ 163 ∧ gfMulMod value inverse = 1 ∧
      ∃ enough, ∀ fuel, enough ≤ fuel → gfInv fuel value = .returns inverse := by
  have invertible := toField_ne_zero nonzero reduced
  obtain ⟨inverse, below, -, inverts⟩ := gfInv_returns invertible le_rfl
  refine ⟨inverse, below, ?_, bitLength value + 164, ?_⟩
  · apply eq_of_toField_eq (gfMulMod_lt value inverse) (by norm_num)
    rw [toField_gfMulMod, inverts, mul_inv_cancel₀ invertible, toField_one]
  · intro fuel enough
    obtain ⟨other, below', returned, inverts'⟩ := gfInv_returns invertible enough
    have same : other = inverse := by
      apply eq_of_toField_eq below' below
      rw [inverts', inverts]
    rw [returned, same]

/-- What the field calls compute. -/
theorem field_arithmetic (v : ℕ) :
    gfMod v < 2 ^ 163 ∧
    fieldModulus ∣ toPoly v - toPoly (gfMod v) ∧
    gfSqr v = gfMulMod v v ∧
    (v ≠ 0 → v < 2 ^ 163 →
      ∃ inverse, inverse < 2 ^ 163 ∧ gfMulMod v inverse = 1 ∧
        ∃ enough, ∀ fuel, enough ≤ fuel → gfInv fuel v = .returns inverse) := by
  refine ⟨gfMod_lt v, fieldModulus_dvd_gfMod_sub v, gfSqr_eq v, ?_⟩
  intro nonzero reduced
  exact exists_gfInv nonzero reduced

/-- The inverse of the polynomial `X`. -/
theorem field_arithmetic_two :
    ∃ inverse, inverse < 2 ^ 163 ∧ gfMulMod 2 inverse = 1 ∧
      ∃ enough, ∀ fuel, enough ≤ fuel → gfInv fuel 2 = .returns inverse :=
  (field_arithmetic 2).2.2.2 (by norm_num) (by norm_num)

end Ecc
end Port
end AqaraLanLink
