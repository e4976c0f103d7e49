import Mathlib.Data.Finset.Basic
import Mathlib.Data.Fintype.Pigeonhole

/-!
# Trails of a partial function

Where one comes by following a partial function from a place on.  On finitely many places a trail
ends unless it comes back to a place where it has been.
-/

namespace Library

universe u

variable {α : Type u}

/-- Where one is after so many hops, unless the trail has ended. -/
def trail (hop : α → Option α) (start : α) : ℕ → Option α
  | 0 => some start
  | hops + 1 => (trail hop start hops).bind hop

/-- The trail comes to an end. -/
def Ends (hop : α → Option α) (start : α) : Prop :=
  ∃ hops, trail hop start hops = none

/-- The trail comes to one place twice. -/
def Circular (hop : α → Option α) (start : α) : Prop :=
  ∃ early late place, early < late ∧ trail hop start early = some place ∧
    trail hop start late = some place

variable {hop : α → Option α} {start : α}

/-- The first hop of a trail instead of the last one. -/
theorem trail_succ (hops : ℕ) :
    trail hop start (hops + 1) = (hop start).bind fun next => trail hop next hops := by
  induction hops with
  | zero =>
      rw [trail, trail, Option.bind_some]
      cases hop start with
      | none => rfl
      | some next => rfl
  | succ hops induction =>
      rw [trail, induction]
      cases hop start with
      | none => rfl
      | some next => rfl

theorem ends_of_stop (stop : hop start = none) : Ends hop start :=
  ⟨1, by rw [trail_succ, stop, Option.bind_none]⟩

theorem ends_iff_of_hop {next : α} (goes : hop start = some next) :
    Ends hop start ↔ Ends hop next := by
  constructor
  · rintro ⟨hops, ended⟩
    cases hops with
    | zero => cases ended
    | succ hops =>
        rw [trail_succ, goes] at ended
        exact ⟨hops, ended⟩
  · rintro ⟨hops, ended⟩
    exact ⟨hops + 1, by rw [trail_succ, goes, Option.bind_some, ended]⟩

/-- A trail that has ended stays so. -/
theorem trail_none_of_le {hops later : ℕ} (ended : trail hop start hops = none)
    (le : hops ≤ later) : trail hop start later = none := by
  induction le with
  | refl => exact ended
  | step _ induction => rw [trail, induction, Option.bind_none]

theorem trail_add {hops : ℕ} {place : α} (reached : trail hop start hops = some place)
    (more : ℕ) : trail hop start (hops + more) = trail hop place more := by
  induction more with
  | zero => exact reached
  | succ more induction => rw [← Nat.add_assoc, trail, induction, trail]

/-- Once round, and a trail goes round for ever. -/
theorem Circular.not_ends (circular : Circular hop start) : ¬ Ends hop start := by
  obtain ⟨early, late, place, before, first, second⟩ := circular
  rintro ⟨hops, ended⟩
  have period : trail hop place (late - early) = some place := by
    rw [← trail_add first, show early + (late - early) = late by omega, second]
  have rounds : ∀ turns, trail hop place (turns * (late - early)) = some place := by
    intro turns
    induction turns with
    | zero => rw [Nat.zero_mul, trail]
    | succ turns induction => rw [Nat.succ_mul, trail_add induction, period]
  have still : trail hop start (early + hops * (late - early)) = some place := by
    rw [trail_add first, rounds]
  have enough : hops ≤ early + hops * (late - early) := by
    have scaled : hops * 1 ≤ hops * (late - early) := Nat.mul_le_mul_left hops (by omega)
    omega
  rw [trail_none_of_le ended enough] at still
  cases still

/-- Among finitely many places a trail ends unless it is circular. -/
theorem ends_iff_not_circular {places : Finset α}
    (bounded : ∀ place next, hop place = some next → place ∈ places) :
    Ends hop start ↔ ¬ Circular hop start := by
  constructor
  · exact fun ends circular => circular.not_ends ends
  · intro straight
    by_contra endless
    have alive : ∀ hops, ∃ place, trail hop start hops = some place := fun hops =>
      Option.ne_none_iff_exists'.mp fun ended => endless ⟨hops, ended⟩
    have inside : ∀ hops, ∃ place ∈ places, trail hop start hops = some place := by
      intro hops
      obtain ⟨place, here⟩ := alive hops
      obtain ⟨next, there⟩ := alive (hops + 1)
      rw [trail, here, Option.bind_some] at there
      exact ⟨place, bounded place next there, here⟩
    choose visited member visits using inside
    obtain ⟨early, late, differ, same⟩ := Finite.exists_ne_map_eq_of_infinite
      fun hops => (⟨visited hops, member hops⟩ : places)
    have meets : visited early = visited late := Subtype.ext_iff.mp same
    rcases Nat.lt_or_gt_of_ne differ with before | after
    · exact straight ⟨early, late, _, before, visits early, meets ▸ visits late⟩
    · exact straight ⟨late, early, _, after, visits late, meets ▸ visits early⟩

end Library
