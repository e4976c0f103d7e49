import AqaraLanLink.Port.Ecc.Curve

/-!
# Double and add

The multiple that `multiply` computes, for every point whose first multiples are not infinity, and
what it does with the points it cannot handle.
-/

namespace AqaraLanLink
namespace Port
namespace Ecc

open Library

/-- One turn of the loop of `multiply`. -/
def multiplyTurn (fuel : ℕ) (point : Point) (bit : Bool) (result : Point) :
    Outcome String Point := do
  let doubled ← pointDouble fuel result
  if bit then pointAdd fuel doubled point else pure doubled

theorem multiplyLoop_succ (fuel k : ℕ) (point : Point) (i : ℕ) (result : Point) :
    multiplyLoop fuel k point (i + 1) result =
      multiplyTurn fuel point (k.testBit i) result >>= multiplyLoop fuel k point i := by
  have bit : (k >>> i &&& 1 ≠ 0) = (k.testBit i = true) := by
    rw [Nat.testBit, Nat.and_comm, bne_iff_ne]
  rw [multiplyLoop, multiplyTurn, bind_assoc]
  congr 1
  funext doubled
  simp only [bit]
  split <;> rfl

/-- The last turn handles the low bit; the turns before it work on half the scalar. -/
theorem multiplyLoop_half (fuel k : ℕ) (point : Point) (i : ℕ) (result : Point) :
    multiplyLoop fuel k point (i + 1) result =
      multiplyLoop fuel (k / 2) point i result >>= multiplyTurn fuel point (k.testBit 0) := by
  induction i generalizing result with
  | zero =>
      rw [multiplyLoop_succ]
      exact bind_pure _
  | succ i induction =>
      rw [multiplyLoop_succ, multiplyLoop_succ fuel (k / 2), bind_assoc, Nat.testBit_div_two]
      congr 1
      funext next
      exact induction next

theorem bitLength_half {k : ℕ} (nonzero : k ≠ 0) : bitLength k = bitLength (k / 2) + 1 := by
  apply Nat.le_antisymm
  · rw [bitLength_le_iff, pow_succ]
    have half := bitLength_le_iff.mp (Nat.le_refl (bitLength (k / 2)))
    omega
  · rw [Nat.succ_le_iff, lt_bitLength_iff]
    by_cases one : k / 2 = 0
    · rw [bitLength_eq_zero_iff.mpr one]
      omega
    · have positive : 0 < bitLength (k / 2) :=
        Nat.pos_of_ne_zero (mt bitLength_eq_zero_iff.mp one)
      have top := lt_bitLength_iff.mp (Nat.sub_lt positive Nat.one_pos)
      calc
        2 ^ bitLength (k / 2) = 2 * 2 ^ (bitLength (k / 2) - 1) := by
          rw [← pow_succ', Nat.sub_add_cancel positive]
        _ ≤ k := by omega

theorem multiply_half (fuel : ℕ) {k : ℕ} (nonzero : k ≠ 0) (point : Point) :
    multiply fuel k point =
      multiply fuel (k / 2) point >>= multiplyTurn fuel point (k.testBit 0) := by
  rw [multiply, bitLength_half nonzero, multiplyLoop_half, multiply]

section

variable {width fuel : ℕ} {point : Point} {P : CurveGroup}

theorem nsmul_half (k : ℕ) (P : CurveGroup) :
    k • P = 2 • ((k / 2) • P) + if k.testBit 0 then P else 0 := by
  have parity : k = 2 * (k / 2) + if k.testBit 0 then 1 else 0 := by
    rw [Nat.testBit_zero]
    by_cases odd : k % 2 = 1
    · simp only [odd, decide_true, if_true]
      omega
    · simp only [odd, decide_false, Bool.false_eq_true, if_false]
      omega
  conv_lhs => rw [parity, add_nsmul, mul_nsmul']
  split <;> simp

/-- A turn is right when the inversion of the doubling ends and the comparisons of the addition
tell what comparing residues would. -/
theorem multiplyTurn_returns {result : Point} {R : CurveGroup} (represents : Represents point P)
    (represents' : Represents result R) (below : Below width point) (below' : Below width result)
    (wide : 163 ≤ width) (enough : width + 164 ≤ fuel) {bit : Bool} (safe : Safe result)
    (comparable : bit → ∀ doubled, Below width doubled → Represents doubled (2 • R) →
      Comparable doubled point ∧ (2 • R = P → Safe doubled)) :
    ∃ next, multiplyTurn fuel point bit result = .returns next ∧ Below width next ∧
      Represents next (2 • R + if bit then P else 0) := by
  obtain ⟨doubled, returned, doubled_below, doubled_represents⟩ :=
    pointDouble_returns represents' safe below' wide enough
  cases bit with
  | false =>
      refine ⟨doubled, ?_, doubled_below, ?_⟩
      · rw [multiplyTurn, returned]
        rfl
      · simpa using doubled_represents
  | true =>
      obtain ⟨comparable, safe'⟩ := comparable rfl doubled doubled_below doubled_represents
      obtain ⟨next, added, next_below, next_represents⟩ :=
        pointAdd_returns doubled_represents represents comparable safe' doubled_below below wide
          enough
      refine ⟨next, ?_, next_below, by simpa using next_represents⟩
      rw [multiplyTurn, returned]
      exact added

/-- Between two small multiples that are not infinity the addition meets no exceptional pair. -/
private theorem comparable_of_alive {m : ℕ} (represents : Represents point P)
    (alive : ∀ j, 0 < j → j ≤ 2 * m + 1 → j • P ≠ 0) {doubled : Point}
    (represents' : Represents doubled (2 • m • P)) :
    Comparable doubled point ∧ (2 • m • P = P → Safe doubled) := by
  rw [← mul_nsmul'] at represents' ⊢
  by_cases empty : m = 0
  · rw [empty, mul_zero, zero_nsmul] at represents'
    rw [represents'.eq_infinity]
    exact ⟨trivial, fun _ => trivial⟩
  · have different : (2 * m) • P ≠ P := by
      intro same
      apply alive (2 * m - 1) (by omega) (by omega)
      have split : 2 * m = (2 * m - 1) + 1 := by omega
      rw [split, add_nsmul, one_nsmul] at same
      exact add_eq_right.mp same
    have sum_ne : (2 * m) • P + P ≠ 0 := by
      rw [← succ_nsmul]
      exact alive _ (by omega) (by omega)
    exact ⟨Comparable.of_apart represents' represents different sum_ne,
      fun same => absurd same different⟩

/-- The multiple by a scalar, for a reduced point or when no smaller multiple is infinity. -/
theorem multiply_returns (represents : Represents point P) (below : Below width point)
    (wide : 163 ≤ width) (enough : width + 164 ≤ fuel) {k : ℕ}
    (regular : width = 163 ∨ ∀ j, 0 < j → j ≤ k → j • P ≠ 0) :
    ∃ product, multiply fuel k point = .returns product ∧ Below width product ∧
      Represents product (k • P) := by
  induction k using Nat.strong_induction_on with
  | _ k induction =>
      by_cases zero : k = 0
      · subst zero
        exact ⟨.infinity, rfl, trivial, zero_nsmul P⟩
      · have half_lt : k / 2 < k := by omega
        obtain ⟨result, returned, result_below, result_represents⟩ :=
          induction (k / 2) half_lt
            (regular.imp_right fun alive j positive small => alive j positive (by omega))
        have safe : Safe result := by
          rcases regular with rfl | alive
          · exact Safe.of_reduced result_below
          · by_cases empty : k / 2 = 0
            · rw [empty, zero_nsmul] at result_represents
              rw [result_represents.eq_infinity]
              trivial
            · apply Safe.of_two_nsmul_ne_zero result_represents
              rw [← mul_nsmul']
              exact alive _ (by omega) (by omega)
        have comparable : k.testBit 0 → ∀ doubled, Below width doubled →
            Represents doubled (2 • (k / 2) • P) →
            Comparable doubled point ∧ (2 • (k / 2) • P = P → Safe doubled) := by
          intro odd doubled doubled_below doubled_represents
          rcases regular with rfl | alive
          · exact ⟨Comparable.of_reduced doubled_below below,
              fun _ => Safe.of_reduced doubled_below⟩
          · apply comparable_of_alive represents _ doubled_represents
            simp only [Nat.testBit_zero, decide_eq_true_eq] at odd
            exact fun j positive small => alive j positive (by omega)
        obtain ⟨next, turned, next_below, next_represents⟩ :=
          multiplyTurn_returns represents result_represents below result_below wide enough safe
            comparable
        refine ⟨next, ?_, next_below, ?_⟩
        · rw [multiply_half fuel zero, returned]
          exact turned
        · rwa [nsmul_half k P]

/-- Multiplying by an odd order ends at infinity or, in its last addition, does not end. -/
theorem multiply_order {k : ℕ} (represents : Represents point P) (below : Below width point)
    (wide : 163 ≤ width) (enough : width + 164 ≤ fuel) (odd : k % 2 = 1) (large : 3 ≤ k)
    (killed : k • P = 0) (alive : ∀ j, 0 < j → j < k → j • P ≠ 0) :
    multiply fuel k point = .returns .infinity ∨ multiply fuel k point = .running := by
  obtain ⟨result, returned, result_below, result_represents⟩ :=
    multiply_returns represents below wide enough (k := k / 2)
      (Or.inr fun j positive small => alive j positive (by omega))
  have moved : 2 • (k / 2) • P ≠ 0 := by
    rw [← mul_nsmul']
    exact alive _ (by omega) (by omega)
  obtain ⟨doubled, doubled_returned, -, doubled_represents⟩ :=
    pointDouble_returns result_represents (Safe.of_two_nsmul_ne_zero result_represents moved)
      result_below wide enough
  have bit : k.testBit 0 = true := by simp [Nat.testBit_zero, odd]
  have opposite : 2 • (k / 2) • P + P = 0 := by
    have split := nsmul_half k P
    rw [bit, if_pos rfl, killed] at split
    exact split.symm
  have apart : 2 • (k / 2) • P ≠ P := by
    intro same
    rw [same, ← two_nsmul] at opposite
    exact alive 2 (by omega) (by omega) opposite
  have last := pointAdd_opposite fuel doubled_represents represents moved apart opposite
  rw [multiply_half fuel (by omega), returned, Outcome.returns_bind, multiplyTurn,
    doubled_returned, Outcome.returns_bind, bit, if_pos rfl]
  exact last

end

/-! ## Abscissa zero in the field -/

/-- The point with abscissa zero is its own negative, also when its ordinate is not reduced. -/
theorem multiply_of_x_eq_zero (fuel k y : ℕ) :
    multiply fuel k (.affine 0 y) =
      .returns (if k.testBit 0 then .affine 0 y else .infinity) := by
  induction k using Nat.strong_induction_on with
  | _ k induction =>
      by_cases zero : k = 0
      · subst zero
        rfl
      · rw [multiply_half fuel zero, induction (k / 2) (by omega), Outcome.returns_bind,
          multiplyTurn]
        split <;> cases k.testBit 0 <;> rfl

/-- A nonzero multiple of the field polynomial as abscissa is doubled for ever. -/
theorem multiply_running (fuel : ℕ) {k x y : ℕ} (x_ne : x ≠ 0) (zero : toField x = 0)
    (large : 2 ≤ k) : multiply fuel k (.affine x y) = .running := by
  induction k using Nat.strong_induction_on with
  | _ k induction =>
      rw [multiply_half fuel (by omega)]
      by_cases first : k / 2 = 1
      · have one : multiply fuel 1 (.affine x y) = .returns (.affine x y) := by
          rw [multiply_half fuel one_ne_zero]
          rfl
        rw [first, one, Outcome.returns_bind, multiplyTurn, pointDouble_running x_ne zero]
        rfl
      · rw [induction (k / 2) (by omega) (by omega)]
        rfl

end Ecc
end Port
end AqaraLanLink
