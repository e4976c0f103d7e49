import AqaraLanLink.Port.Ecc.KeyAgreement

/-!
# Multiples of a reduced point

For the points that the port keeps, infinity and the reduced points of the curve, `multiply` adds a
point to itself, and the multiple by a sum of scalars is the sum of the multiples.
-/

namespace AqaraLanLink
namespace Port
namespace Ecc

open Library Outcome

/-- Infinity, or a reduced point of the curve. -/
structure Point.Sound (point : Point) : Prop where
  /-- The coordinates are reduced. -/
  reduced : Below 163 point
  /-- `isOnCurve` accepts the point. -/
  onCurve : isOnCurve point curveA = true

/-- A point added to itself with `pointAdd`, starting from infinity. -/
def addTimes (fuel : ℕ) (point : Point) : ℕ → Outcome String Point
  | 0 => .returns .infinity
  | k + 1 => addTimes fuel point k >>= fun sum => pointAdd fuel sum point

variable {fuel : ℕ} {point : Point} {P Q : CurveGroup}

theorem Point.Sound.exists_represents (sound : point.Sound) : ∃ P, Represents point P := by
  cases point with
  | infinity => exact ⟨0, rfl⟩
  | affine x y =>
      have on := isOnCurve_iff.mp sound.onCurve
      exact ⟨.some _ _ on, on, rfl⟩

theorem Represents.sound (represents : Represents point P) (reduced : Below 163 point) :
    point.Sound := by
  cases point with
  | infinity => exact ⟨reduced, rfl⟩
  | affine x y => exact ⟨reduced, isOnCurve_eq_true represents⟩

/-- On reduced points `pointAdd` is the addition of the group. -/
theorem pointAdd_reduced {p q : Point} (represents : Represents p P) (represents' : Represents q Q)
    (reduced : Below 163 p) (reduced' : Below 163 q) (enough : 327 ≤ fuel) :
    ∃ sum, pointAdd fuel p q = .returns sum ∧ Below 163 sum ∧ Represents sum (P + Q) :=
  pointAdd_returns represents represents' (.of_reduced reduced reduced')
    (fun _ => .of_reduced reduced) reduced reduced' (Nat.le_refl 163) enough

theorem addTimes_returns (represents : Represents point P) (reduced : Below 163 point)
    (enough : 327 ≤ fuel) (k : ℕ) :
    ∃ sum, addTimes fuel point k = .returns sum ∧ Below 163 sum ∧ Represents sum (k • P) := by
  induction k with
  | zero => exact ⟨.infinity, rfl, trivial, zero_nsmul P⟩
  | succ k induction =>
      obtain ⟨sum, returned, sum_reduced, sum_represents⟩ := induction
      obtain ⟨next, added, result⟩ :=
        pointAdd_reduced sum_represents represents sum_reduced reduced enough
      rw [← succ_nsmul] at result
      refine ⟨next, ?_, result⟩
      rw [addTimes, returned]
      exact added

/-- A reduced point has one reduced multiple, which `multiply` and repeated addition both reach. -/
theorem exists_multiple (represents : Represents point P) (reduced : Below 163 point) (k : ℕ) :
    ∃ product, Below 163 product ∧ Represents product (k • P) ∧
      Yields (fun fuel => multiply fuel k point) product ∧
      Yields (fun fuel => addTimes fuel point k) product := by
  obtain ⟨product, -, product_reduced, product_represents⟩ :=
    multiply_returns represents reduced (Nat.le_refl 163) (Nat.le_refl 327) (k := k) (Or.inl rfl)
  refine ⟨product, product_reduced, product_represents, ⟨327, ?_⟩, ⟨327, ?_⟩⟩
  · intro fuel enough
    obtain ⟨other, returned, other_reduced, other_represents⟩ :=
      multiply_returns represents reduced (Nat.le_refl 163) enough (k := k) (Or.inl rfl)
    rwa [product_represents.unique other_represents product_reduced other_reduced]
  · intro fuel enough
    obtain ⟨other, returned, other_reduced, other_represents⟩ :=
      addTimes_returns represents reduced enough k
    rwa [product_represents.unique other_represents product_reduced other_reduced]

/-- `multiply` ends in a sound point, adds the point to itself, and takes sums to sums. -/
theorem multiply_adds (point : Point) (sound : point.Sound) (k m : ℕ) :
    ∃ left right sum : Point, left.Sound ∧
      Yields (fun fuel => multiply fuel k point) left ∧
      Yields (fun fuel => addTimes fuel point k) left ∧
      Yields (fun fuel => multiply fuel m point) right ∧
      Yields (fun fuel => multiply fuel (k + m) point) sum ∧
      Yields (fun fuel => pointAdd fuel left right) sum := by
  obtain ⟨P, represents⟩ := sound.exists_represents
  obtain ⟨left, left_reduced, left_represents, left_product, left_sum⟩ :=
    exists_multiple represents sound.reduced k
  obtain ⟨right, right_reduced, right_represents, right_product, -⟩ :=
    exists_multiple represents sound.reduced m
  obtain ⟨sum, sum_reduced, sum_represents, sum_product, -⟩ :=
    exists_multiple represents sound.reduced (k + m)
  refine ⟨left, right, sum, left_represents.sound left_reduced, left_product, left_sum,
    right_product, sum_product, 327, ?_⟩
  intro fuel enough
  obtain ⟨other, added, other_reduced, other_represents⟩ :=
    pointAdd_reduced left_represents right_represents left_reduced right_reduced enough
  rw [← add_nsmul] at other_represents
  rwa [sum_represents.unique other_represents sum_reduced other_reduced]

theorem multiply_adds_generator : ∃ left right sum : Point, left.Sound ∧
    Yields (fun fuel => multiply fuel 2 generator) left ∧
    Yields (fun fuel => addTimes fuel generator 2) left ∧
    Yields (fun fuel => multiply fuel 3 generator) right ∧
    Yields (fun fuel => multiply fuel (2 + 3) generator) sum ∧
    Yields (fun fuel => pointAdd fuel left right) sum :=
  multiply_adds generator ⟨⟨by decide, by decide⟩, by decide +kernel⟩ 2 3

end Ecc
end Port
end AqaraLanLink
