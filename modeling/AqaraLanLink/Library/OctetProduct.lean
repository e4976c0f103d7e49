import AqaraLanLink.Library.BinaryPolynomial
import Mathlib.Tactic.IntervalCases
import Mathlib.Tactic.LinearCombination

/-!
# Carry-less products by one integer multiplication

A polynomial over GF(2) is stored one coefficient to an octet.  As long as no octet of an integer
product overflows, its low bits are the coefficients of the carry-less product, so the kernel can
multiply such words with its own arithmetic.
-/

namespace Library
namespace OctetProduct

open Polynomial BinaryPolynomial

theorem pow_octets (count : ℕ) : (256 : ℕ) ^ count = 2 ^ (8 * count) := by
  rw [pow_mul]
  norm_num

theorem xor_lt_octets {count left right : ℕ} (fits : left < 256 ^ count)
    (fits' : right < 256 ^ count) : left ^^^ right < 256 ^ count := by
  rw [pow_octets] at fits fits' ⊢
  exact Nat.xor_lt_two_pow fits fits'

/-- Octet `k` of a natural number. -/
def octet (value k : ℕ) : ℕ := value / 256 ^ k % 256

@[simp] theorem octet_zero_right (value : ℕ) : octet value 0 = value % 256 := by
  simp [octet]

@[simp] theorem octet_succ (value k : ℕ) : octet value (k + 1) = octet (value / 256) k := by
  rw [octet, octet, pow_succ', Nat.div_div_eq_div_mul]

theorem octet_eq_zero_of_lt {value k : ℕ} (small : value < 256 ^ k) : octet value k = 0 := by
  rw [octet, Nat.div_eq_of_lt small]

theorem octet_succ_of_lt {value : ℕ} (single : value < 256) (k : ℕ) : octet value (k + 1) = 0 :=
  octet_eq_zero_of_lt (single.trans_le (Nat.le_self_pow (Nat.succ_ne_zero k) 256))

theorem octet_testBit (value k i : ℕ) :
    (octet value k).testBit i = (decide (i < 8) && value.testBit (8 * k + i)) := by
  rw [octet, pow_octets, show (256 : ℕ) = 2 ^ 8 by norm_num, Nat.testBit_mod_two_pow,
    ← Nat.shiftRight_eq_div_pow, Nat.testBit_shiftRight]

theorem octet_xor (left right k : ℕ) :
    octet (left ^^^ right) k = octet left k ^^^ octet right k := by
  apply Nat.eq_of_testBit_eq
  intro i
  simp only [octet_testBit, Nat.testBit_xor]
  cases decide (i < 8) <;> simp

theorem octet_land (left right k : ℕ) :
    octet (left &&& right) k = octet left k &&& octet right k := by
  apply Nat.eq_of_testBit_eq
  intro i
  simp only [octet_testBit, Nat.testBit_and]
  cases decide (i < 8) <;> simp

theorem octet_shiftLeft (value amount k : ℕ) :
    octet (value <<< (8 * amount)) k = if amount ≤ k then octet value (k - amount) else 0 := by
  apply Nat.eq_of_testBit_eq
  intro i
  by_cases inside : i < 8
  · by_cases low : amount ≤ k
    · have place : 8 * amount ≤ 8 * k + i := by omega
      have offset : 8 * k + i - 8 * amount = 8 * (k - amount) + i := by omega
      simp [octet_testBit, Nat.testBit_shiftLeft, inside, low, place, offset]
    · have place : ¬ 8 * amount ≤ 8 * k + i := by omega
      simp [octet_testBit, Nat.testBit_shiftLeft, low, place]
  · by_cases low : amount ≤ k <;> simp [octet_testBit, inside, low]

theorem octet_shiftRight (value amount k : ℕ) :
    octet (value >>> (8 * amount)) k = octet value (k + amount) := by
  apply Nat.eq_of_testBit_eq
  intro i
  simp only [octet_testBit, Nat.testBit_shiftRight]
  rw [show 8 * amount + (8 * k + i) = 8 * (k + amount) + i by ring]

theorem octet_mod (value count k : ℕ) :
    octet (value % 256 ^ count) k = if k < count then octet value k else 0 := by
  rw [pow_octets]
  apply Nat.eq_of_testBit_eq
  intro i
  by_cases inside : i < 8
  · by_cases low : k < count
    · have place : 8 * k + i < 8 * count := by omega
      simp [octet_testBit, Nat.testBit_mod_two_pow, inside, low, place]
    · have place : ¬ 8 * k + i < 8 * count := by omega
      simp [octet_testBit, Nat.testBit_mod_two_pow, low, place]
  · by_cases low : k < count <;> simp [octet_testBit, inside, low]

/-! ## Words with small octets -/

/-- No octet of the word exceeds `bound`. -/
def Sparse (bound value : ℕ) : Prop := ∀ k, octet value k ≤ bound

theorem Sparse.div {bound value : ℕ} (sparse : Sparse bound value) :
    Sparse bound (value / 256) := fun k => by
  simpa using sparse (k + 1)

/-- Two words whose octets cannot overflow are added octet by octet. -/
theorem octet_add {bound bound' left right : ℕ} (sparse : Sparse bound left)
    (sparse' : Sparse bound' right) (room : bound + bound' < 256) (k : ℕ) :
    octet (left + right) k = octet left k + octet right k := by
  induction k generalizing left right with
  | zero =>
      have low := sparse 0
      have low' := sparse' 0
      simp only [octet_zero_right] at low low' ⊢
      omega
  | succ k induction =>
      have low := sparse 0
      have low' := sparse' 0
      simp only [octet_zero_right] at low low'
      have split : (left + right) / 256 = left / 256 + right / 256 := by omega
      simp only [octet_succ, split]
      exact induction sparse.div sparse'.div

theorem Sparse.add {bound bound' left right : ℕ} (sparse : Sparse bound left)
    (sparse' : Sparse bound' right) (room : bound + bound' < 256) :
    Sparse (bound + bound') (left + right) := fun k => by
  rw [octet_add sparse sparse' room]
  exact Nat.add_le_add (sparse k) (sparse' k)

theorem Sparse.mul_octet {bound value : ℕ} (sparse : Sparse bound value) :
    Sparse bound (256 * value) := fun k => by
  cases k with
  | zero => simp
  | succ k => simpa using sparse k

theorem Sparse.xor {left right : ℕ} (sparse : Sparse 1 left) (sparse' : Sparse 1 right) :
    Sparse 1 (left ^^^ right) := fun k => by
  rw [octet_xor]
  have low := sparse k
  have low' := sparse' k
  interval_cases octet left k <;> interval_cases octet right k <;> decide

theorem Sparse.shiftLeft {bound value : ℕ} (sparse : Sparse bound value) (amount : ℕ) :
    Sparse bound (value <<< (8 * amount)) := fun k => by
  rw [octet_shiftLeft]
  split
  · exact sparse _
  · exact Nat.zero_le _

theorem Sparse.shiftRight {bound value : ℕ} (sparse : Sparse bound value) (amount : ℕ) :
    Sparse bound (value >>> (8 * amount)) := fun k => by
  rw [octet_shiftRight]
  exact sparse _

theorem Sparse.mod {bound value : ℕ} (sparse : Sparse bound value) (count : ℕ) :
    Sparse bound (value % 256 ^ count) := fun k => by
  rw [octet_mod]
  split
  · exact sparse k
  · exact Nat.zero_le _

/-! ## The polynomial of a word -/

/-- The polynomial whose coefficients are the parities of the octets. -/
noncomputable def octetPoly (value : ℕ) : (ZMod 2)[X] :=
  ∑ k ∈ Finset.range value, C (octet value k : ZMod 2) * X ^ k

theorem coeff_octetPoly (value k : ℕ) : (octetPoly value).coeff k = (octet value k : ZMod 2) := by
  rw [octetPoly, finsetSum_coeff]
  simp only [coeff_C_mul, coeff_X_pow, mul_ite, mul_one, mul_zero]
  rw [Finset.sum_ite_eq]
  split
  · rfl
  · rename_i outside
    have above : value ≤ k := by simpa using outside
    have small : value < 256 ^ k :=
      (Nat.lt_pow_self (by norm_num)).trans_le (Nat.pow_le_pow_right (by norm_num) above)
    rw [octet_eq_zero_of_lt small, Nat.cast_zero]

@[simp] theorem octetPoly_zero : octetPoly 0 = 0 := by
  simp [octetPoly]

/-- A word of unit octets is determined by its polynomial; in particular it vanishes with it. -/
theorem Sparse.eq_zero_of_octetPoly {value : ℕ} (sparse : Sparse 1 value)
    (zero : octetPoly value = 0) : value = 0 := by
  have octets : ∀ k, octet value k = 0 := by
    intro k
    have coefficient := coeff_octetPoly value k
    rw [zero, coeff_zero, eq_comm, ZMod.natCast_eq_zero_iff] at coefficient
    have small := sparse k
    omega
  apply Nat.eq_of_testBit_eq
  intro i
  have bit := octet_testBit value (i / 8) (i % 8)
  rw [octets, Nat.div_add_mod] at bit
  simpa [Nat.mod_lt] using bit.symm

theorem octetPoly_add {bound bound' left right : ℕ} (sparse : Sparse bound left)
    (sparse' : Sparse bound' right) (room : bound + bound' < 256) :
    octetPoly (left + right) = octetPoly left + octetPoly right := by
  ext k
  simp only [coeff_octetPoly, coeff_add, octet_add sparse sparse' room k, Nat.cast_add]

theorem octetPoly_mul_octet (value : ℕ) : octetPoly (256 * value) = X * octetPoly value := by
  ext k
  cases k with
  | zero => simp [coeff_octetPoly]
  | succ k => simp [coeff_octetPoly, coeff_X_mul]

private theorem natCast_xor_zmod_two (left right : ℕ) :
    ((left ^^^ right : ℕ) : ZMod 2) = left + right := by
  rw [← Nat.cast_add, ZMod.natCast_eq_natCast_iff']
  have low : (left ^^^ right) % 2 = (left % 2) ^^^ (right % 2) := by
    simpa using Nat.xor_mod_two_pow (a := left) (b := right) (n := 1)
  rw [low, Nat.add_mod]
  rcases Nat.mod_two_eq_zero_or_one left with even | odd <;>
    rcases Nat.mod_two_eq_zero_or_one right with even' | odd' <;> simp [*]

theorem octetPoly_xor (left right : ℕ) :
    octetPoly (left ^^^ right) = octetPoly left + octetPoly right := by
  ext k
  simp only [coeff_octetPoly, coeff_add, octet_xor, natCast_xor_zmod_two]

theorem octetPoly_shiftLeft (value amount : ℕ) :
    octetPoly (value <<< (8 * amount)) = octetPoly value * X ^ amount := by
  ext k
  simp only [coeff_octetPoly, octet_shiftLeft, coeff_mul_X_pow']
  split <;> simp

/-- A word is its low octets and the octets shifted out above them. -/
theorem octetPoly_split (value count : ℕ) :
    octetPoly value =
      octetPoly (value % 256 ^ count) + octetPoly (value >>> (8 * count)) * X ^ count := by
  ext k
  simp only [coeff_octetPoly, coeff_add, coeff_mul_X_pow', octet_mod, octet_shiftRight]
  by_cases low : k < count
  · simp [low, Nat.not_le.mpr low]
  · have above : count ≤ k := Nat.le_of_not_lt low
    simp [low, above]

/-- The word that stores the low `count` bits of `value`, one to an octet. -/
def spread : ℕ → ℕ → ℕ
  | 0, _ => 0
  | count + 1, value => value % 2 + 256 * spread count (value / 2)

theorem spread_sparse (count value : ℕ) : Sparse 1 (spread count value) := by
  induction count generalizing value with
  | zero =>
      intro k
      simp [spread, octet]
  | succ count induction =>
      intro k
      cases k with
      | zero =>
          simp only [spread, octet_zero_right]
          omega
      | succ k =>
          have shifted : (value % 2 + 256 * spread count (value / 2)) / 256 =
              spread count (value / 2) := by omega
          simpa [spread, shifted] using induction (value / 2) k

theorem spread_lt (count value : ℕ) : spread count value < 256 ^ count := by
  induction count generalizing value with
  | zero => simp [spread]
  | succ count induction =>
      have rest := induction (value / 2)
      rw [spread, pow_succ]
      omega

theorem octetPoly_spread {count value : ℕ} (fits : value < 2 ^ count) :
    octetPoly (spread count value) = toPoly value := by
  induction count generalizing value with
  | zero =>
      have zero : value = 0 := by simpa using fits
      simp [spread, zero]
  | succ count induction =>
      have rest : value / 2 < 2 ^ count := by
        rw [pow_succ] at fits
        omega
      have low : Sparse 1 (value % 2) := fun k => by
        cases k with
        | zero =>
            simp only [octet_zero_right]
            omega
        | succ k =>
            rw [octet_succ_of_lt (by omega)]
            omega
      have bit : octetPoly (value % 2) = toPoly (value &&& 1) := by
        rw [Nat.and_one_is_mod]
        rcases Nat.mod_two_eq_zero_or_one value with even | odd
        · simp [even]
        · rw [odd]
          ext k
          cases k with
          | zero => simp [coeff_octetPoly]
          | succ k => simp [coeff_octetPoly, octet_succ_of_lt, coeff_one, -octet_succ]
      rw [spread, octetPoly_add low (spread_sparse count (value / 2)).mul_octet (by norm_num),
        octetPoly_mul_octet, induction rest, bit, toPoly_eq_low_add value,
        Nat.shiftRight_one, mul_comm X]

/-! ## Multiplication modulo a sparse polynomial -/

/-- One in each of `count` octets. -/
def unitMask : ℕ → ℕ
  | 0 => 0
  | count + 1 => 256 * unitMask count + 1

theorem octet_unitMask (count k : ℕ) : octet (unitMask count) k = if k < count then 1 else 0 := by
  induction count generalizing k with
  | zero => simp [unitMask, octet]
  | succ count induction =>
      cases k with
      | zero =>
          simp only [unitMask, octet_zero_right, Nat.zero_lt_succ, if_true]
          omega
      | succ k =>
          have shifted : (256 * unitMask count + 1) / 256 = unitMask count := by omega
          simp [unitMask, shifted, induction]

theorem land_unitMask_sparse (value count : ℕ) : Sparse 1 (value &&& unitMask count) := fun k => by
  rw [octet_land, octet_unitMask]
  split
  · exact Nat.and_le_right
  · simp

theorem octetPoly_land_unitMask {value count : ℕ} (fits : value < 256 ^ count) :
    octetPoly (value &&& unitMask count) = octetPoly value := by
  ext k
  simp only [coeff_octetPoly, octet_land, octet_unitMask]
  split
  · rw [Nat.and_one_is_mod, ZMod.natCast_mod]
  · rename_i above
    have small : value < 256 ^ k :=
      fits.trans_le (Nat.pow_le_pow_right (by norm_num) (Nat.le_of_not_lt above))
    rw [octet_eq_zero_of_lt small]
    simp

/-- The product of two words of unit octets, before any reduction. -/
theorem octetPoly_mul {left right count : ℕ} (sparse : Sparse 1 left) (sparse' : Sparse 1 right)
    (fits : right < 256 ^ count) (room : count < 256) :
    Sparse count (left * right) ∧ octetPoly (left * right) = octetPoly left * octetPoly right := by
  induction count generalizing right with
  | zero =>
      have zero : right = 0 := by simpa using fits
      subst zero
      simp [Sparse, octet]
  | succ count induction =>
      have rest : right / 256 < 256 ^ count := by
        rw [pow_succ] at fits
        omega
      obtain ⟨tailSparse, tailPoly⟩ := induction sparse'.div rest (by omega)
      have expand : left * right = left * (right % 256) + 256 * (left * (right / 256)) := by
        conv_lhs => rw [← Nat.mod_add_div right 256]
        ring
      have bit : right % 256 = 0 ∨ right % 256 = 1 := by
        have low := sparse' 0
        rw [octet_zero_right] at low
        omega
      have headSparse : Sparse 1 (left * (right % 256)) := by
        rcases bit with zero | one
        · simp [zero, Sparse, octet]
        · simpa [one] using sparse
      have headPoly : octetPoly (left * (right % 256)) =
          octetPoly left * C ((right % 256 : ℕ) : ZMod 2) := by
        rcases bit with zero | one
        · simp [zero]
        · simp [one]
      have rightPoly : octetPoly right =
          C ((right % 256 : ℕ) : ZMod 2) + X * octetPoly (right / 256) := by
        ext k
        cases k with
        | zero => simp [coeff_octetPoly]
        | succ k => simp [coeff_octetPoly, coeff_X_mul]
      rw [expand]
      constructor
      · rw [Nat.add_comm count 1]
        exact headSparse.add tailSparse.mul_octet (by omega)
      · rw [octetPoly_add headSparse tailSparse.mul_octet (by omega), octetPoly_mul_octet,
          tailPoly, headPoly, rightPoly]
        ring

/-- A word that `mulMod` takes: unit octets, and short enough that no product overflows. -/
structure IsWord (value : ℕ) : Prop where
  /-- Every octet is a single coefficient. -/
  sparse : Sparse 1 value
  /-- The word has at most 255 octets. -/
  fits : value < 256 ^ 255

/-- Replace the octets above `degree` by the lower terms of the modulus. -/
def fold (degree : ℕ) (taps : List ℕ) (value : ℕ) : ℕ :=
  taps.foldl (fun word tap => word ^^^ (value >>> (8 * degree)) <<< (8 * tap))
    (value % 256 ^ degree)

/-- The modulus `X ^ degree` plus one power for each tap. -/
noncomputable def modulus (degree : ℕ) (taps : List ℕ) : (ZMod 2)[X] :=
  X ^ degree + (taps.map fun tap => X ^ tap).sum

private theorem foldl_octetPoly (high : ℕ) (taps : List ℕ) (word : ℕ) :
    octetPoly (taps.foldl (fun word tap => word ^^^ high <<< (8 * tap)) word) =
      octetPoly word + octetPoly high * (taps.map fun tap => (X : (ZMod 2)[X]) ^ tap).sum := by
  induction taps generalizing word with
  | nil => simp
  | cons tap taps induction =>
      rw [List.foldl_cons, induction, octetPoly_xor, octetPoly_shiftLeft, List.map_cons,
        List.sum_cons]
      ring

private theorem foldl_sparse {high : ℕ} (highSparse : Sparse 1 high) (taps : List ℕ) {word : ℕ}
    (sparse : Sparse 1 word) :
    Sparse 1 (taps.foldl (fun word tap => word ^^^ high <<< (8 * tap)) word) := by
  induction taps generalizing word with
  | nil => exact sparse
  | cons tap taps induction => exact induction (sparse.xor (highSparse.shiftLeft tap))

private theorem foldl_lt {high room : ℕ} (taps : List ℕ) {word : ℕ}
    (tapsFit : ∀ tap ∈ taps, high <<< (8 * tap) < 256 ^ room) (fits : word < 256 ^ room) :
    taps.foldl (fun word tap => word ^^^ high <<< (8 * tap)) word < 256 ^ room := by
  induction taps generalizing word with
  | nil => exact fits
  | cons tap taps induction =>
      apply induction
      · intro other member
        exact tapsFit other (List.mem_cons_of_mem tap member)
      · exact xor_lt_octets fits (tapsFit tap List.mem_cons_self)

theorem fold_sparse {degree : ℕ} {taps : List ℕ} {value : ℕ} (sparse : Sparse 1 value) :
    Sparse 1 (fold degree taps value) :=
  foldl_sparse (sparse.shiftRight degree) taps (sparse.mod degree)

/-- Folding changes a word by a multiple of the modulus. -/
theorem modulus_dvd_fold_sub (degree : ℕ) (taps : List ℕ) (value : ℕ) :
    modulus degree taps ∣ octetPoly value - octetPoly (fold degree taps value) := by
  refine ⟨octetPoly (value >>> (8 * degree)), ?_⟩
  have doubled : ∀ p : (ZMod 2)[X], -p = p := fun p => CharTwo.neg_eq p
  rw [fold, foldl_octetPoly, octetPoly_split value degree, modulus, sub_eq_add_neg, doubled]
  have cancel : octetPoly (value % 256 ^ degree) + octetPoly (value % 256 ^ degree) = 0 :=
    CharTwo.add_self_eq_zero _
  linear_combination cancel

private theorem shift_lt {value degree tap size : ℕ} (fits : value < 256 ^ (degree + size)) :
    (value >>> (8 * degree)) <<< (8 * tap) < 256 ^ (size + tap) := by
  have high : value >>> (8 * degree) < 256 ^ size := by
    rw [Nat.shiftRight_eq_div_pow, ← pow_octets]
    apply Nat.div_lt_of_lt_mul
    rwa [← pow_add]
  rw [Nat.shiftLeft_eq, ← pow_octets, pow_add]
  exact (Nat.mul_lt_mul_right (by positivity)).mpr high

theorem fold_lt {degree size room : ℕ} {taps : List ℕ} {value : ℕ}
    (fits : value < 256 ^ (degree + size)) (base : degree ≤ room)
    (tapsFit : ∀ tap ∈ taps, size + tap ≤ room) : fold degree taps value < 256 ^ room := by
  apply foldl_lt
  · intro tap member
    exact (shift_lt fits).trans_le (Nat.pow_le_pow_right (by norm_num) (tapsFit tap member))
  · exact (Nat.mod_lt _ (by positivity)).trans_le (Nat.pow_le_pow_right (by norm_num) base)

/-- The product of two words, folded twice. -/
def mulMod (degree : ℕ) (taps : List ℕ) (left right : ℕ) : ℕ :=
  fold degree taps (fold degree taps ((left * right) &&& unitMask 510))

/-- A modulus whose lower terms, at most `X ^ top`, are so low that two folds bring a product
back to a word. -/
structure Foldable (degree top : ℕ) (taps : List ℕ) : Prop where
  /-- No lower term is above `top`. -/
  tap_le : ∀ tap ∈ taps, tap ≤ top
  /-- The degree is that of a word. -/
  degree_fits : degree ≤ 255
  /-- Two folds are enough. -/
  room : 510 + 2 * top ≤ 2 * degree + 255

section

variable {degree top : ℕ} {taps : List ℕ} {left right : ℕ}

private theorem product_lt (word : IsWord left) (word' : IsWord right) :
    left * right < 256 ^ 510 := by
  rw [show (510 : ℕ) = 255 + 255 by norm_num, pow_add]
  exact Nat.mul_lt_mul'' word.fits word'.fits

/-- `mulMod` multiplies the polynomials up to a multiple of the modulus. -/
theorem modulus_dvd_mulMod_sub (word : IsWord left) (word' : IsWord right) :
    modulus degree taps ∣
      octetPoly left * octetPoly right - octetPoly (mulMod degree taps left right) := by
  have product := (octetPoly_mul word.sparse word'.sparse word'.fits (by norm_num)).2
  have masked := octetPoly_land_unitMask (product_lt word word')
  have first := modulus_dvd_fold_sub degree taps ((left * right) &&& unitMask 510)
  have second := modulus_dvd_fold_sub degree taps
    (fold degree taps ((left * right) &&& unitMask 510))
  rw [masked, product] at first
  simpa only [mulMod, sub_add_sub_cancel] using dvd_add first second

theorem mulMod_isWord (foldable : Foldable degree top taps) (word : IsWord left)
    (word' : IsWord right) : IsWord (mulMod degree taps left right) := by
  have degree_fits := foldable.degree_fits
  have room := foldable.room
  have product : (left * right) &&& unitMask 510 < 256 ^ (degree + (510 - degree)) := by
    rw [show degree + (510 - degree) = 510 by omega]
    exact Nat.and_le_left.trans_lt (product_lt word word')
  have once : fold degree taps ((left * right) &&& unitMask 510) <
      256 ^ (degree + (510 - degree + top - degree)) := by
    apply fold_lt product
    · omega
    · intro tap member
      have := foldable.tap_le tap member
      omega
  constructor
  · exact fold_sparse (fold_sparse (land_unitMask_sparse _ _))
  · apply fold_lt once
    · exact degree_fits
    · intro tap member
      have := foldable.tap_le tap member
      omega

theorem IsWord.xor (word : IsWord left) (word' : IsWord right) : IsWord (left ^^^ right) :=
  ⟨word.sparse.xor word'.sparse, xor_lt_octets word.fits word'.fits⟩

theorem spread_isWord {count : ℕ} (small : count ≤ 255) (value : ℕ) :
    IsWord (spread count value) :=
  ⟨spread_sparse count value,
    (spread_lt count value).trans_le (Nat.pow_le_pow_right (by norm_num) small)⟩

end

end OctetProduct
end Library
