import Mathlib.Data.Nat.Bitwise

/-!
# Reflected shift registers

A reflected cyclic redundancy check shifts its register towards the low bit and adds the generator
when a one falls out.  A shift is linear in exclusive or, so eight of them are the eight of the low
octet, which a table of 256 words can hold, and the rest of the register moved down.
-/

namespace Library
namespace ReflectedRegister

variable {generator : ℕ}

/-- One shift. -/
def shift (generator register : ℕ) : ℕ :=
  register >>> 1 ^^^ if register.testBit 0 then generator else 0

/-- A byte goes into the low octet, which is then shifted out bit by bit. -/
def feed (generator register : ℕ) (byte : UInt8) : ℕ :=
  (shift generator)^[8] (register ^^^ byte.toNat)

theorem shift_xor (left right : ℕ) :
    shift generator (left ^^^ right) = shift generator left ^^^ shift generator right := by
  have tap (bit bit' : Bool) : (if xor bit bit' then generator else 0) =
      (if bit then generator else 0) ^^^ if bit' then generator else 0 := by
    cases bit <;> cases bit' <;> simp
  rw [shift, shift, shift, Nat.testBit_xor, tap, Nat.shiftRight_xor_distrib]
  ac_rfl

theorem iterate_shift_xor (count left right : ℕ) :
    (shift generator)^[count] (left ^^^ right) =
      (shift generator)^[count] left ^^^ (shift generator)^[count] right := by
  induction count with
  | zero => rfl
  | succ count induction =>
      simp only [Function.iterate_succ_apply', induction, shift_xor]

/-- While zeros fall out, a register only moves down. -/
theorem iterate_shift_of_low {count register : ℕ} (low : register % 2 ^ count = 0) :
    (shift generator)^[count] register = register >>> count := by
  induction count with
  | zero => rfl
  | succ count induction =>
      have lower : register % 2 ^ count = 0 := by
        rw [← Nat.mod_mod_of_dvd register (Nat.pow_dvd_pow 2 (Nat.le_succ count)), low,
          Nat.zero_mod]
      have out : (register >>> count).testBit 0 = false := by
        have bit := congrArg (fun value => value.testBit count) low
        simp only [Nat.testBit_mod_two_pow, Nat.lt_succ_self, decide_true, Bool.true_and,
          Nat.zero_testBit] at bit
        rw [Nat.testBit_shiftRight, Nat.add_zero, bit]
      rw [Function.iterate_succ_apply', induction lower, shift, out, if_neg Bool.false_ne_true,
        Nat.xor_zero, ← Nat.shiftRight_add]

/-- Eight shifts are those of the low octet and the rest moved down. -/
theorem iterate_shift_eight (register : ℕ) :
    (shift generator)^[8] register = (shift generator)^[8] (register % 256) ^^^ register >>> 8 := by
  have split : register = register % 256 ^^^ (register >>> 8) <<< 8 := by
    apply Nat.eq_of_testBit_eq
    intro i
    rw [show 256 = 2 ^ 8 from rfl, Nat.testBit_xor, Nat.testBit_mod_two_pow, Nat.testBit_shiftLeft,
      Nat.testBit_shiftRight]
    by_cases low : i < 8
    · simp [low, Nat.not_le.mpr low]
    · simp [low, Nat.le_of_not_lt low]
  have high : (register >>> 8) <<< 8 % 2 ^ 8 = 0 := by
    rw [Nat.shiftLeft_eq, Nat.mul_mod_left]
  conv => lhs; rw [split]
  rw [iterate_shift_xor, iterate_shift_of_low high, Nat.shiftLeft_shiftRight]

theorem shift_lt {width register : ℕ} (low : generator < 2 ^ width) (fits : register < 2 ^ width) :
    shift generator register < 2 ^ width := by
  have moved : register >>> 1 < 2 ^ width := (Nat.shiftRight_le register 1).trans_lt fits
  rw [shift]
  split
  · exact Nat.xor_lt_two_pow moved low
  · rwa [Nat.xor_zero]

theorem feed_lt {width register : ℕ} (wide : 8 ≤ width) (low : generator < 2 ^ width)
    (fits : register < 2 ^ width) (byte : UInt8) : feed generator register byte < 2 ^ width := by
  have octet : byte.toNat < 2 ^ width :=
    byte.toNat_lt.trans_le (Nat.pow_le_pow_right (by omega) wide)
  have still (count : ℕ) (register : ℕ) (fits : register < 2 ^ width) :
      (shift generator)^[count] register < 2 ^ width := by
    induction count with
    | zero => exact fits
    | succ count induction =>
        rw [Function.iterate_succ_apply']
        exact shift_lt low induction
  exact still 8 _ (Nat.xor_lt_two_pow fits octet)

/-- A byte at a time from a table of the shifted octets. -/
theorem feed_eq_table {table : ℕ → ℕ}
    (holds : ∀ octet < 256, table octet = (shift generator)^[8] octet) (register : ℕ)
    (byte : UInt8) :
    feed generator register byte =
      table ((register ^^^ byte.toNat) % 256) ^^^ register >>> 8 := by
  have down : byte.toNat >>> 8 = 0 := by
    rw [Nat.shiftRight_eq_div_pow]
    exact Nat.div_eq_of_lt byte.toNat_lt
  rw [feed, iterate_shift_eight, holds _ (Nat.mod_lt _ (by omega)), Nat.shiftRight_xor_distrib, down,
    Nat.xor_zero]

end ReflectedRegister
end Library
