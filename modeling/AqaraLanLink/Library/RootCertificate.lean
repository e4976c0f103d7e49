import Mathlib.Data.ZMod.Basic
import Mathlib.NumberTheory.LucasPrimality

/-!
# Primality from a primitive root

A number is prime as soon as some residue has order `n - 1` modulo `n`.  The check needs the prime
factors of `n - 1`, which are certified in the same way.
-/

namespace Library
namespace RootCertificate

/-- The power of `base` to the low `bits` bits of `exponent`, modulo `modulus`. -/
def powMod (modulus base : ℕ) : ℕ → ℕ → ℕ
  | 0, _ => 1
  | bits + 1, exponent =>
      let half := powMod modulus base bits (exponent / 2)
      if exponent % 2 = 1 then half * half % modulus * base % modulus else half * half % modulus

theorem cast_powMod {modulus base bits exponent : ℕ} (fits : exponent < 2 ^ bits) :
    ((powMod modulus base bits exponent : ℕ) : ZMod modulus) = (base : ZMod modulus) ^ exponent := by
  induction bits generalizing exponent with
  | zero =>
      have zero : exponent = 0 := by simpa using fits
      simp [powMod, zero]
  | succ bits induction =>
      have half_fits : exponent / 2 < 2 ^ bits := by
        rw [pow_succ] at fits
        omega
      have half := induction half_fits
      rw [powMod]
      split
      · rename_i odd
        have split : exponent = exponent / 2 + exponent / 2 + 1 := by omega
        conv_rhs => rw [split, pow_succ, pow_add]
        simp only [ZMod.natCast_mod, Nat.cast_mul, half]
      · rename_i even
        have split : exponent = exponent / 2 + exponent / 2 := by omega
        conv_rhs => rw [split, pow_add]
        simp only [ZMod.natCast_mod, Nat.cast_mul, half]

/-- `root` has order `n - 1` modulo `n`, and `factors` multiply to `n - 1`. -/
def check (n root : ℕ) (factors : List ℕ) : Bool :=
  decide (1 < n) && decide (factors.prod = n - 1) &&
    decide (powMod n root (n.log2 + 1) (n - 1) = 1) &&
      factors.all fun q => decide (powMod n root (n.log2 + 1) ((n - 1) / q) % n ≠ 1)

theorem prime {n : ℕ} (root : ℕ) (factors : List ℕ) (primes : ∀ q ∈ factors, q.Prime)
    (checked : check n root factors = true) : n.Prime := by
  simp only [check, Bool.and_eq_true, decide_eq_true_eq, List.all_eq_true] at checked
  obtain ⟨⟨⟨large, product⟩, whole⟩, parts⟩ := checked
  have fits : n - 1 < 2 ^ (n.log2 + 1) := (Nat.sub_le n 1).trans_lt Nat.lt_log2_self
  apply lucas_primality n (root : ZMod n)
  · rw [← cast_powMod fits, whole, Nat.cast_one]
  · intro q qPrime divides one
    rw [← product] at divides
    obtain ⟨factor, member, dvd⟩ := (qPrime.prime.dvd_prod_iff).mp divides
    obtain rfl := (Nat.prime_dvd_prime_iff_eq qPrime (primes factor member)).mp dvd
    apply parts q member
    rw [← cast_powMod ((Nat.div_le_self _ _).trans_lt fits)] at one
    have residues := (ZMod.natCast_eq_natCast_iff' _ 1 n).mp (one.trans Nat.cast_one.symm)
    rwa [Nat.mod_eq_of_lt large] at residues

end RootCertificate
end Library
