import Mathlib.FieldTheory.Finite.Extension
import Mathlib.RingTheory.SimpleRing.Principal

/-!
# Irreducibility over a finite field in prime degree

A polynomial of prime degree over a field of `q` elements that divides `X ^ q ^ n - X` is a product
of factors whose degrees divide `n`.  It is therefore irreducible as soon as it has no root.
-/

namespace Library

open Polynomial

/-- A polynomial of prime degree without roots that divides `X ^ q ^ n - X` is irreducible. -/
theorem irreducible_of_prime_natDegree {k : Type*} [Field k] {f : k[X]}
    (prime : f.natDegree.Prime) (divides : f ∣ X ^ Nat.card k ^ f.natDegree - X)
    (noRoot : ∀ a, f.eval a ≠ 0) : Irreducible f := by
  have nonzero : f ≠ 0 := by
    rintro rfl
    exact prime.ne_zero natDegree_zero
  have nonunit : ¬ IsUnit f := by
    intro unit
    exact prime.ne_zero (natDegree_eq_zero_of_isUnit unit)
  obtain ⟨g, irreducible, factor⟩ := WfDvdMonoid.exists_irreducible_factor nonunit nonzero
  have degrees : g.natDegree ∣ f.natDegree :=
    irreducible.natDegree_dvd_of_dvd_X_pow_card_pow_sub_X (factor.trans divides)
  rcases (Nat.dvd_prime prime).mp degrees with linear | full
  · obtain ⟨a, root⟩ := exists_root_of_degree_eq_one
      ((degree_eq_iff_natDegree_eq irreducible.ne_zero).mpr linear)
    exact absurd (eval_eq_zero_of_dvd_of_eval_eq_zero factor root) (noRoot a)
  · exact (associated_of_dvd_of_natDegree_le factor nonzero full.ge).irreducible irreducible

end Library
