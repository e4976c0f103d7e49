import Mathlib.Data.ZMod.QuotientGroup
import Mathlib.GroupTheory.OrderOfElement
import Mathlib.SetTheory.Cardinal.Finite

/-!
# Abelian groups of order twice an odd prime

The group of an ordinary binary curve has even order.  When it is twice an odd prime `n`, a point of
order `n` spans exactly the points that `n` annihilates, and every other point has order 2 or `2n`.
-/

namespace Library
namespace CofactorTwo

variable {A : Type*} [AddCommGroup A] {n : ℕ}

theorem addOrderOf_eq_prime (prime : n.Prime) {P : A} (annihilated : n • P = 0) (P_ne : P ≠ 0) :
    addOrderOf P = n := by
  have divides := addOrderOf_dvd_of_nsmul_eq_zero annihilated
  rcases (Nat.dvd_prime prime).mp divides with one | whole
  · exact absurd (AddMonoid.addOrderOf_eq_one_iff.mp one) P_ne
  · exact whole

/-- A multiple of a point of prime order vanishes only for multiples of the prime. -/
theorem nsmul_eq_zero_iff_dvd (prime : n.Prime) {P : A} (annihilated : n • P = 0) (P_ne : P ≠ 0)
    {k : ℕ} : k • P = 0 ↔ n ∣ k := by
  rw [← addOrderOf_dvd_iff_nsmul_eq_zero, addOrderOf_eq_prime prime annihilated P_ne]

/-- A bound below `4n` on the order of a group with points of order `n` and `2` leaves only `2n`. -/
theorem card_eq [Finite A] (prime : n.Prime) (odd : Odd n) {G T : A} (annihilated : n • G = 0)
    (G_ne : G ≠ 0) (involution : 2 • T = 0) (T_ne : T ≠ 0) (bound : Nat.card A < 4 * n) :
    Nat.card A = 2 * n := by
  have n_dvd : n ∣ Nat.card A :=
    addOrderOf_eq_prime prime annihilated G_ne ▸ addOrderOf_dvd_natCard G
  have two_dvd : 2 ∣ Nat.card A :=
    addOrderOf_eq_prime Nat.prime_two involution T_ne ▸ addOrderOf_dvd_natCard T
  have coprime : Nat.Coprime 2 n := Nat.coprime_two_left.mpr odd
  obtain ⟨m, whole⟩ := coprime.mul_dvd_of_dvd_of_dvd two_dvd n_dvd
  have positive : 0 < Nat.card A := Nat.card_pos
  have n_pos := prime.pos
  have m_eq : m = 1 := by
    have m_pos : 0 < m := by
      rcases Nat.eq_zero_or_pos m with rfl | m_pos
      · simp [whole] at positive
      · exact m_pos
    have m_lt : m < 2 := by
      by_contra large
      have : 2 * n * 2 ≤ 2 * n * m := Nat.mul_le_mul_left _ (Nat.le_of_not_lt large)
      omega
    omega
  rw [whole, m_eq, mul_one]

section

variable (card : Nat.card A = 2 * n) (prime : n.Prime) (odd : Odd n)
include card prime odd

/-- The points that `n` annihilates are the multiples of any one of them but zero. -/
theorem mem_zmultiples_iff {G : A} (annihilated : n • G = 0) (G_ne : G ≠ 0) (P : A) :
    P ∈ AddSubgroup.zmultiples G ↔ n • P = 0 := by
  constructor
  · intro member
    obtain ⟨k, rfl⟩ := AddSubgroup.mem_zmultiples_iff.mp member
    rw [smul_comm, annihilated, smul_zero]
  · intro killed
    have order : Nat.card (AddSubgroup.zmultiples G) = n := by
      rw [Nat.card_zmultiples, addOrderOf_eq_prime prime annihilated G_ne]
    have index : (AddSubgroup.zmultiples G).index = 2 := by
      have product := (AddSubgroup.zmultiples G).card_mul_index
      rw [order, card, mul_comm 2 n] at product
      exact Nat.eq_of_mul_eq_mul_left prime.pos product
    have doubled : 2 • P ∈ AddSubgroup.zmultiples G := AddSubgroup.two_smul_mem_of_index_two index P
    obtain ⟨half, n_eq⟩ := odd
    have halved : P = (half + 1) • (2 • P) := by
      rw [← mul_smul]
      have sum : (half + 1) * 2 = n + 1 := by omega
      rw [sum, add_smul, killed, one_smul, zero_add]
    rw [halved]
    exact AddSubgroup.nsmul_mem _ doubled _

/-- Outside the subgroup of order `n`, a point that is not an involution has order `2n`. -/
theorem nsmul_eq_zero_iff_two_mul_dvd {P : A} (alive : n • P ≠ 0) (moved : 2 • P ≠ 0) {k : ℕ} :
    k • P = 0 ↔ 2 * n ∣ k := by
  have order : addOrderOf P = 2 * n := by
    have divides : addOrderOf P ∣ 2 * n := card ▸ addOrderOf_dvd_natCard P
    have not_n : ¬ addOrderOf P ∣ n := fun dvd =>
      alive (addOrderOf_dvd_iff_nsmul_eq_zero.mp dvd)
    have not_two : ¬ addOrderOf P ∣ 2 := fun dvd =>
      moved (addOrderOf_dvd_iff_nsmul_eq_zero.mp dvd)
    obtain ⟨left, right, left_dvd, right_dvd, product⟩ := Nat.dvd_mul.mp divides
    rcases (Nat.dvd_prime Nat.prime_two).mp left_dvd with rfl | rfl
    · rw [one_mul] at product
      exact absurd (product ▸ right_dvd) not_n
    · rcases (Nat.dvd_prime prime).mp right_dvd with rfl | rfl
      · rw [mul_one] at product
        exact absurd (product ▸ dvd_rfl) not_two
      · exact product.symm
  rw [← addOrderOf_dvd_iff_nsmul_eq_zero, order]

end
end CofactorTwo
end Library
