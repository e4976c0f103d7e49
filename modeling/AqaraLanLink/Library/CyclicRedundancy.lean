import AqaraLanLink.Library.BinaryPolynomial
import Mathlib.RingTheory.AdjoinRoot

/-!
# Cyclic redundancy checks

A message is the polynomial over GF(2) whose coefficients are its bits, the first bit highest.  The
shift register of a cyclic redundancy check holds the remainder of that polynomial by the generator,
so an error goes unseen exactly when the generator divides it.
-/

namespace Library
namespace CyclicRedundancy

open Polynomial BinaryPolynomial

/-! ## Messages -/

/-- The polynomial of a message. -/
noncomputable def poly (message : List Bool) : (ZMod 2)[X] :=
  message.foldl (fun sum bit => sum * X + if bit then 1 else 0) 0

@[simp] theorem poly_nil : poly [] = 0 := rfl

@[simp] theorem poly_concat (message : List Bool) (bit : Bool) :
    poly (message ++ [bit]) = poly message * X + if bit then 1 else 0 := by
  rw [poly, List.foldl_append]
  rfl

theorem poly_append (first second : List Bool) :
    poly (first ++ second) = poly first * X ^ second.length + poly second := by
  induction second using List.reverseRecOn with
  | nil => simp
  | append_singleton second bit induction =>
      rw [← List.append_assoc, poly_concat, induction, poly_concat, List.length_append,
        List.length_singleton, pow_succ]
      ring

/-- Zeros in front change nothing. -/
theorem poly_replicate_append (count : ℕ) (message : List Bool) :
    poly (List.replicate count false ++ message) = poly message := by
  have zeros : poly (List.replicate count false) = 0 := by
    induction count with
    | zero => rfl
    | succ count induction => simp [List.replicate_succ', induction]
  rw [poly_append, zeros, zero_mul, zero_add]

/-- Zeros behind shift. -/
theorem poly_append_replicate (message : List Bool) (count : ℕ) :
    poly (message ++ List.replicate count false) = poly message * X ^ count := by
  have zeros := poly_replicate_append count []
  rw [List.append_nil, poly_nil] at zeros
  rw [poly_append, zeros, add_zero, List.length_replicate]

theorem degree_poly_lt (message : List Bool) : (poly message).degree < message.length := by
  induction message using List.reverseRecOn with
  | nil => simp
  | append_singleton message bit induction =>
      rw [poly_concat, List.length_append, List.length_singleton]
      have low : (if bit then (1 : (ZMod 2)[X]) else 0).degree < (message.length + 1 : ℕ) := by
        refine lt_of_le_of_lt (b := 0) ?_ (by exact_mod_cast Nat.succ_pos _)
        cases bit
        · simp
        · simp
      refine (degree_add_le _ _).trans_lt (max_lt ?_ low)
      by_cases zero : poly message = 0
      · rw [zero, zero_mul, degree_zero]
        exact WithBot.bot_lt_coe _
      · rw [degree_mul, degree_X, degree_eq_natDegree zero] at *
        exact_mod_cast Nat.succ_lt_succ (by exact_mod_cast induction)

/-- Bit by bit, exclusive or is addition. -/
theorem poly_zipWith_xor {left right : List Bool} (length : left.length = right.length) :
    poly (List.zipWith xor left right) = poly left + poly right := by
  induction left using List.reverseRecOn generalizing right with
  | nil =>
      rw [List.length_nil, eq_comm, List.length_eq_zero_iff] at length
      rw [length]
      simp
  | append_singleton left bit induction =>
      cases right using List.reverseRecOn with
      | nil => simp at length
      | append_singleton right bit' =>
          rw [List.length_append, List.length_append] at length
          have shorter : left.length = right.length := Nat.add_right_cancel length
          have sum : (if xor bit bit' then (1 : (ZMod 2)[X]) else 0) =
              (if bit then 1 else 0) + if bit' then 1 else 0 := by
            cases bit <;> cases bit' <;> simp [CharTwo.add_self_eq_zero]
          rw [List.zipWith_append shorter]
          simp only [List.zipWith_cons_cons, List.zipWith_nil_left, poly_concat,
            induction shorter, sum]
          ring

/-- A set bit shows in the polynomial. -/
theorem poly_ne_zero {message : List Bool} (set : true ∈ message) : poly message ≠ 0 := by
  induction message using List.reverseRecOn with
  | nil => exact absurd set List.not_mem_nil
  | append_singleton message bit induction =>
      intro zero
      rw [poly_concat] at zero
      have low := congrArg (fun p => coeff p 0) zero
      cases bit with
      | true => simp at low
      | false =>
          have before : true ∈ message := by simpa using set
          simp only [Bool.false_eq_true, if_false, add_zero] at zero
          exact induction before ((mul_eq_zero.mp zero).resolve_right X_ne_zero)

/-- At one, a message counts its set bits. -/
theorem eval_one_poly (message : List Bool) :
    (poly message).eval 1 = (message.count true : ZMod 2) := by
  induction message using List.reverseRecOn with
  | nil => simp
  | append_singleton message bit induction =>
      rw [poly_concat, List.count_append]
      cases bit
      · simp [induction]
      · simp [induction]

/-! ## Errors that no multiple of the generator is -/

section

variable {generator : (ZMod 2)[X]}

/-- A burst is no longer than the generator's degree, and set somewhere. -/
theorem not_dvd_of_burst (constant : generator.coeff 0 ≠ 0) {before after : ℕ} {burst : List Bool}
    (short : burst.length ≤ generator.natDegree) (set : true ∈ burst) :
    ¬ generator ∣
      poly (List.replicate before false ++ burst ++ List.replicate after false) := by
  rw [poly_append_replicate, poly_replicate_append]
  intro divides
  have apart : ¬ X ∣ generator := fun factor => constant (X_dvd_iff.mp factor)
  have coprime : IsCoprime (X ^ after) generator :=
    (irreducible_X.coprime_iff_not_dvd.mpr apart).pow_left
  have whole : generator ∣ poly burst := coprime.symm.dvd_of_dvd_mul_right divides
  have nonzero := poly_ne_zero set
  have least := natDegree_le_of_dvd whole nonzero
  have small := (natDegree_lt_iff_degree_lt nonzero).mpr (degree_poly_lt burst)
  omega

/-- When the generator vanishes at one, its multiples have evenly many set bits. -/
theorem not_dvd_of_odd (even : generator.eval 1 = 0) {message : List Bool}
    (odd : message.count true % 2 = 1) : ¬ generator ∣ poly message := by
  rintro ⟨factor, equal⟩
  have count := eval_one_poly message
  rw [equal, eval_mul, even, zero_mul] at count
  have divides := (ZMod.natCast_eq_zero_iff (message.count true) 2).mp count.symm
  omega

end

/-! ## Bytes -/

/-- The bits of a number, the highest first. -/
def bigBits : ℕ → ℕ → List Bool
  | 0, _ => []
  | width + 1, value => bigBits width (value / 2) ++ [value.testBit 0]

@[simp] theorem length_bigBits (width value : ℕ) : (bigBits width value).length = width := by
  induction width generalizing value with
  | zero => rfl
  | succ width induction => simp [bigBits, induction]

theorem poly_bigBits {width value : ℕ} (fits : value < 2 ^ width) :
    poly (bigBits width value) = toPoly value := by
  induction width generalizing value with
  | zero =>
      have zero : value = 0 := by simpa using fits
      simp [bigBits, zero]
  | succ width induction =>
      have half : value / 2 < 2 ^ width := by
        rw [pow_succ] at fits
        omega
      have low : toPoly (value &&& 1) = if value.testBit 0 then 1 else 0 := by
        rw [Nat.and_one_is_mod, Nat.testBit_zero]
        rcases Nat.mod_two_eq_zero_or_one value with even | odd
        · simp [even]
        · simp [odd]
      rw [bigBits, poly_concat, induction half, toPoly_eq_low_add value, low,
        Nat.shiftRight_one]
      ring

theorem bigBits_xor (width left right : ℕ) :
    bigBits width (left ^^^ right) = List.zipWith xor (bigBits width left) (bigBits width right) := by
  induction width generalizing left right with
  | zero => rfl
  | succ width induction =>
      rw [bigBits, Nat.xor_div_two, induction, Nat.testBit_xor, bigBits, bigBits,
        List.zipWith_append (by simp)]
      rfl

/-- The bits of a text in the order of transmission. -/
def bits (data : List UInt8) : List Bool := data.flatMap fun byte => bigBits 8 byte.toNat

@[simp] theorem length_bits (data : List UInt8) : (bits data).length = 8 * data.length := by
  induction data with
  | nil => rfl
  | cons byte data induction =>
      rw [bits, List.flatMap_cons, List.length_append, ← bits, induction, length_bigBits,
        List.length_cons]
      omega

theorem bits_append (first second : List UInt8) : bits (first ++ second) = bits first ++ bits second :=
  List.flatMap_append

theorem bits_zipWith_xor {left right : List UInt8} (length : left.length = right.length) :
    bits (List.zipWith (· ^^^ ·) left right) = List.zipWith xor (bits left) (bits right) := by
  induction left generalizing right with
  | nil => rfl
  | cons byte left induction =>
      cases right with
      | nil => simp at length
      | cons byte' right =>
          rw [List.zipWith_cons_cons, bits, List.flatMap_cons, ← bits,
            induction (Nat.succ.inj length), UInt8.toNat_xor, bigBits_xor,
            ← List.zipWith_append (by simp)]
          rfl

/-! ## The register -/

/-- One shift of a register of `width` bits, whose generator is `X ^ width` and the bits of
`tap`. -/
def turn (width tap register : ℕ) : ℕ :=
  (if register.testBit (width - 1) then register <<< 1 ^^^ tap else register <<< 1) % 2 ^ width

/-- A byte goes into the top of the register, which is then shifted eight times. -/
def feed (width tap register : ℕ) (byte : UInt8) : ℕ :=
  (turn width tap)^[8] (register ^^^ byte.toNat <<< (width - 8))

/-- The generator of a register. -/
noncomputable def generator (width tap : ℕ) : (ZMod 2)[X] := X ^ width + toPoly tap

variable {width tap register : ℕ}

theorem turn_lt (width tap register : ℕ) : turn width tap register < 2 ^ width :=
  Nat.mod_lt _ (Nat.two_pow_pos width)

theorem feed_lt (width tap register : ℕ) (byte : UInt8) :
    feed width tap register byte < 2 ^ width := by
  rw [feed, Function.iterate_succ_apply']
  exact turn_lt _ _ _

theorem natDegree_generator (low : tap < 2 ^ width) :
    (generator width tap).natDegree = width := by
  rw [generator, natDegree_add_eq_left_of_degree_lt, natDegree_X_pow]
  rw [degree_X_pow]
  exact degree_toPoly_lt low

/-- The remainder of a polynomial by the generator. -/
noncomputable abbrev residue (width tap : ℕ) : (ZMod 2)[X] →+* AdjoinRoot (generator width tap) :=
  AdjoinRoot.mk (generator width tap)

/-- A register is known from its residue. -/
theorem eq_of_residue_eq {other : ℕ} (low : tap < 2 ^ width) (fits : register < 2 ^ width)
    (fits' : other < 2 ^ width)
    (equal : residue width tap (toPoly register) = residue width tap (toPoly other)) :
    register = other := by
  have divides := AdjoinRoot.mk_eq_mk.mp equal
  rw [CharTwo.sub_eq_add, ← toPoly_xor] at divides
  by_contra apart
  have nonzero : toPoly (register ^^^ other) ≠ 0 :=
    mt toPoly_eq_zero_iff.mp (mt Nat.xor_eq_zero_iff.mp apart)
  have least := natDegree_le_of_dvd divides nonzero
  have small := (natDegree_lt_iff_degree_lt nonzero).mpr
    (degree_toPoly_lt (Nat.xor_lt_two_pow fits fits'))
  rw [natDegree_generator low] at least
  omega

/-- What is cut off above a register is at most one bit. -/
theorem toPoly_mod {value : ℕ} (fits : value < 2 ^ (width + 1)) :
    toPoly (value % 2 ^ width) = toPoly value + if value.testBit width then X ^ width else 0 := by
  ext i
  rw [coeff_add, coeff_toPoly, coeff_toPoly, Nat.testBit_mod_two_pow]
  by_cases top : i = width
  · subst top
    cases value.testBit i
    · simp
    · simp [CharTwo.add_self_eq_zero]
  · have above : (if value.testBit width then (X : (ZMod 2)[X]) ^ width else 0).coeff i = 0 := by
      split
      · rw [coeff_X_pow, if_neg top]
      · exact coeff_zero i
    rw [above, add_zero]
    by_cases inside : i < width
    · simp [inside]
    · have high : value.testBit i = false :=
        Nat.testBit_eq_false_of_lt (fits.trans_le (Nat.pow_le_pow_right (by norm_num) (by omega)))
      simp [high]

/-- A shift multiplies by `X`. -/
theorem residue_turn (low : tap < 2 ^ width) (wide : width ≠ 0) (fits : register < 2 ^ width) :
    residue width tap (toPoly (turn width tap register)) =
      residue width tap (toPoly register * X) := by
  have shifted : register <<< 1 < 2 ^ (width + 1) := by
    rw [Nat.shiftLeft_eq, pow_succ]
    omega
  have tapped : tap < 2 ^ (width + 1) := low.trans_le (Nat.pow_le_pow_right (by norm_num) (by omega))
  have top : (register <<< 1).testBit width = register.testBit (width - 1) := by
    rw [Nat.testBit_shiftLeft]
    simp [Nat.one_le_iff_ne_zero.mpr wide]
  rw [turn]
  cases bit : register.testBit (width - 1) with
  | false =>
      rw [if_neg (by simp), toPoly_mod shifted, top, bit, if_neg (by simp), add_zero,
        toPoly_shiftLeft, pow_one]
  | true =>
      have high : (register <<< 1 ^^^ tap).testBit width = true := by
        rw [Nat.testBit_xor, top, bit, Nat.testBit_eq_false_of_lt low]
        rfl
      rw [if_pos rfl, toPoly_mod (Nat.xor_lt_two_pow shifted tapped), high, if_pos rfl, toPoly_xor,
        toPoly_shiftLeft, pow_one, add_assoc, add_comm (toPoly tap), ← generator, map_add,
        AdjoinRoot.mk_self, add_zero]

theorem residue_iterate_turn (low : tap < 2 ^ width) (wide : width ≠ 0) (fits : register < 2 ^ width)
    (count : ℕ) :
    (turn width tap)^[count] register < 2 ^ width ∧
      residue width tap (toPoly ((turn width tap)^[count] register)) =
        residue width tap (toPoly register * X ^ count) := by
  induction count with
  | zero => exact ⟨fits, by rw [pow_zero, mul_one]; rfl⟩
  | succ count induction =>
      obtain ⟨small, equal⟩ := induction
      rw [Function.iterate_succ_apply']
      refine ⟨turn_lt _ _ _, ?_⟩
      rw [residue_turn low wide small, map_mul, equal, ← map_mul, pow_succ, mul_assoc]

/-- A byte is added below the register, all of it multiplied by `X ^ 8`. -/
theorem residue_feed (low : tap < 2 ^ width) (wide : 8 ≤ width) (fits : register < 2 ^ width)
    (byte : UInt8) :
    residue width tap (toPoly (feed width tap register byte)) =
      residue width tap (toPoly register * X ^ 8 + poly (bigBits 8 byte.toNat) * X ^ width) := by
  have octet : byte.toNat < 2 ^ 8 := byte.toNat_lt
  have placed : byte.toNat <<< (width - 8) < 2 ^ width := by
    rw [Nat.shiftLeft_eq]
    calc
      byte.toNat * 2 ^ (width - 8) < 2 ^ 8 * 2 ^ (width - 8) :=
        Nat.mul_lt_mul_of_pos_right octet (Nat.two_pow_pos _)
      _ = 2 ^ width := by rw [← pow_add, Nat.add_sub_cancel' wide]
  rw [feed, (residue_iterate_turn low (by omega) (Nat.xor_lt_two_pow fits placed) 8).2, toPoly_xor,
    toPoly_shiftLeft, add_mul, mul_assoc, ← pow_add, Nat.sub_add_cancel wide, poly_bigBits octet]

/-- The register after a text: what it held, shifted, and the text. -/
theorem residue_foldl_feed (low : tap < 2 ^ width) (wide : 8 ≤ width) (data : List UInt8) {register : ℕ}
    (fits : register < 2 ^ width) :
    data.foldl (feed width tap) register < 2 ^ width ∧
      residue width tap (toPoly (data.foldl (feed width tap) register)) =
        residue width tap
          (toPoly register * X ^ (8 * data.length) + poly (bits data) * X ^ width) := by
  induction data generalizing register with
  | nil => exact ⟨fits, by simp [bits]⟩
  | cons byte data induction =>
      obtain ⟨small, equal⟩ := induction (feed_lt width tap register byte)
      refine ⟨small, ?_⟩
      have split : poly (bits (byte :: data)) =
          poly (bigBits 8 byte.toNat) * X ^ (8 * data.length) + poly (bits data) := by
        rw [bits, List.flatMap_cons, ← bits, poly_append, length_bits]
      rw [List.foldl_cons, equal, map_add, map_mul, residue_feed low wide fits, ← map_mul, ← map_add,
        split, List.length_cons]
      refine congrArg (residue width tap) ?_
      ring

/-- An error in a text and in its check goes unseen exactly when the generator divides it. -/
theorem foldl_feed_xor_iff (low : tap < 2 ^ width) (wide : 8 ≤ width) (fits : register < 2 ^ width)
    {data pattern : List UInt8} (length : data.length = pattern.length) {check : ℕ}
    (small : check < 2 ^ width) :
    (List.zipWith (· ^^^ ·) data pattern).foldl (feed width tap) register =
        data.foldl (feed width tap) register ^^^ check ↔
      generator width tap ∣ poly (bits pattern) * X ^ width + toPoly check := by
  have length' : (List.zipWith (· ^^^ ·) data pattern).length = data.length := by
    rw [List.length_zipWith, length, Nat.min_self]
  obtain ⟨clean_lt, clean⟩ := residue_foldl_feed low wide data fits
  obtain ⟨harmed_lt, harmed⟩ :=
    residue_foldl_feed low wide (List.zipWith (· ^^^ ·) data pattern) fits
  rw [length', bits_zipWith_xor length, poly_zipWith_xor (by simp [length]), add_mul, ← add_assoc,
    map_add, ← clean, ← map_add] at harmed
  have sum : toPoly (data.foldl (feed width tap) register) + poly (bits pattern) * X ^ width -
      (toPoly (data.foldl (feed width tap) register) + toPoly check) =
        poly (bits pattern) * X ^ width + toPoly check := by
    rw [add_sub_add_left_eq_sub, CharTwo.sub_eq_add]
  rw [← sum, ← toPoly_xor, ← AdjoinRoot.mk_eq_mk, ← harmed]
  constructor
  · exact fun equal => by rw [equal]
  · exact eq_of_residue_eq low harmed_lt (Nat.xor_lt_two_pow clean_lt small)

end CyclicRedundancy
end Library
