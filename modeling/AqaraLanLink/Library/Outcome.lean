import Mathlib.Data.Nat.Notation

/-!
# Calls that return, throw or run on

A program loop that is not known to end is executed for a bounded number of turns, its fuel.  The
outcome of a call then tells three things apart: it returned, it threw, or it was still running
when the fuel was spent.  A call ends when every large enough fuel gives one and the same answer,
and it diverges when no fuel is enough.
-/

namespace Library

universe u v w

/-- What a call has done when its fuel is spent. -/
inductive Outcome (ε : Type u) (α : Type v) where
  /-- The call returned a value. -/
  | returns (value : α)
  /-- The call threw. -/
  | throws (error : ε)
  /-- The call had not ended yet. -/
  | running
  deriving DecidableEq, Repr

namespace Outcome

variable {ε : Type u} {α : Type v} {β : Type w}

/-- Run a continuation on a returned value; a throw or a loop that runs on ends the sequence. -/
def bind (call : Outcome ε α) (next : α → Outcome ε β) : Outcome ε β :=
  match call with
  | returns value => next value
  | throws error => throws error
  | running => running

instance : Monad (Outcome ε) where
  pure := returns
  bind := bind

-- The proofs are in parentheses so that simp applies these rules by rewriting: left to unfold, the
-- kernel would run the loops that a call hides.
@[simp] theorem pure_eq (value : α) : (pure value : Outcome ε α) = returns value := (rfl)

@[simp] theorem returns_bind {α β : Type v} (value : α) (next : α → Outcome ε β) :
    (returns value >>= next) = next value := (rfl)

@[simp] theorem throws_bind {α β : Type v} (error : ε) (next : α → Outcome ε β) :
    ((throws error : Outcome ε α) >>= next) = throws error := (rfl)

@[simp] theorem running_bind {α β : Type v} (next : α → Outcome ε β) :
    ((running : Outcome ε α) >>= next) = running := (rfl)

instance : LawfulMonad (Outcome ε) :=
  LawfulMonad.mk' _
    (fun call => by cases call <;> rfl)
    (fun _ _ => rfl)
    (fun call _ _ => by cases call <;> rfl)

/-! ## Two programs with one behaviour -/

/-- Two calls end alike: both return, with related values, both throw, or both run on. -/
inductive Matches {δ : Type u} (related : α → β → Prop) : Outcome ε α → Outcome δ β → Prop
  | returns {value : α} {value' : β} (same : related value value') :
      Matches related (returns value) (returns value')
  | throws (error : ε) (error' : δ) : Matches related (throws error) (throws error')
  | running : Matches related running running

namespace Matches

variable {δ : Type u}

/-- Sequences match when their parts do. -/
theorem bind {α β α' β' : Type v} {related : α → β → Prop} {related' : α' → β' → Prop}
    {call : Outcome ε α} {call' : Outcome δ β} {next : α → Outcome ε α'}
    {next' : β → Outcome δ β'} (first : Matches related call call')
    (second : ∀ value value', related value value' →
      Matches related' (next value) (next' value')) :
    Matches related' (call >>= next) (call' >>= next') := by
  cases first with
  | returns same => exact second _ _ same
  | throws error error' => exact throws error error'
  | running => exact running

/-- What one of them returns the other returns as well. -/
theorem returns_iff {call : Outcome ε α} {call' : Outcome δ α} (same : Matches Eq call call')
    (value : α) : call = Outcome.returns value ↔ call' = Outcome.returns value := by
  cases same with
  | returns equal => rw [equal, Outcome.returns.injEq, Outcome.returns.injEq]
  | throws error error' => exact ⟨fun equal => (nomatch equal), fun equal => (nomatch equal)⟩
  | running => exact ⟨fun equal => (nomatch equal), fun equal => (nomatch equal)⟩

end Matches

/-- Every large enough fuel gives one outcome. -/
def Settles (call : ℕ → Outcome ε α) (outcome : Outcome ε α) : Prop :=
  ∃ enough, ∀ fuel, enough ≤ fuel → call fuel = outcome

/-- Every large enough fuel makes the call return `value`. -/
def Yields (call : ℕ → Outcome ε α) (value : α) : Prop :=
  ∃ enough, ∀ fuel, enough ≤ fuel → call fuel = returns value

/-- Every large enough fuel makes the call throw `error`. -/
def Fails (call : ℕ → Outcome ε α) (error : ε) : Prop :=
  ∃ enough, ∀ fuel, enough ≤ fuel → call fuel = throws error

/-- No fuel is enough: the call never ends. -/
def Diverges (call : ℕ → Outcome ε α) : Prop :=
  ∀ fuel, call fuel = running

theorem Diverges.not_fails {call : ℕ → Outcome ε α} {error : ε}
    (diverges : Diverges call) : ¬ Fails call error := by
  rintro ⟨enough, threw⟩
  have clash := (diverges enough).symm.trans (threw enough (Nat.le_refl enough))
  cases clash

theorem yields_returns (value : α) : Yields (fun _ => (returns value : Outcome ε α)) value :=
  ⟨0, fun _ _ => rfl⟩

theorem Settles.unique {call : ℕ → Outcome ε α} {outcome other : Outcome ε α}
    (settles : Settles call outcome) (settles' : Settles call other) : outcome = other := by
  obtain ⟨enough, same⟩ := settles
  obtain ⟨enough', same'⟩ := settles'
  have left := same (max enough enough') (Nat.le_max_left _ _)
  exact left.symm.trans (same' _ (Nat.le_max_right _ _))

theorem yields_returns_iff {value result : α} :
    Yields (fun _ => (returns value : Outcome ε α)) result ↔ value = result := by
  constructor
  · intro yields
    have same := Settles.unique (yields_returns value) yields
    cases same
    rfl
  · rintro rfl
    exact yields_returns value

section

variable {α β : Type v} {call : ℕ → Outcome ε α} {next : α → ℕ → Outcome ε β}

/-- A call that returns is followed by what comes after it. -/
theorem Settles.bind {value : α} {outcome : Outcome ε β} (first : Settles call (returns value))
    (second : Settles (next value) outcome) :
    Settles (fun fuel => call fuel >>= fun value => next value fuel) outcome := by
  obtain ⟨enough, same⟩ := first
  obtain ⟨enough', same'⟩ := second
  refine ⟨max enough enough', fun fuel le => ?_⟩
  change (call fuel >>= fun value => next value fuel) = _
  rw [same fuel (Nat.le_trans (Nat.le_max_left _ _) le), returns_bind,
    same' fuel (Nat.le_trans (Nat.le_max_right _ _) le)]

theorem Settles.bind_throws {error : ε} (first : Settles call (throws error)) :
    Settles (fun fuel => call fuel >>= fun value => next value fuel) (throws error) := by
  obtain ⟨enough, same⟩ := first
  refine ⟨enough, fun fuel le => ?_⟩
  change (call fuel >>= fun value => next value fuel) = _
  rw [same fuel le, throws_bind]

theorem Settles.bind_running (first : Settles call running) :
    Settles (fun fuel => call fuel >>= fun value => next value fuel) running := by
  obtain ⟨enough, same⟩ := first
  refine ⟨enough, fun fuel le => ?_⟩
  change (call fuel >>= fun value => next value fuel) = _
  rw [same fuel le, running_bind]

/-- A sequence of two calls settles when each of them does. -/
theorem settles_bind (first : ∃ outcome, Settles call outcome)
    (second : ∀ value, ∃ outcome, Settles (next value) outcome) :
    ∃ outcome, Settles (fun fuel => call fuel >>= fun value => next value fuel) outcome := by
  obtain ⟨outcome, settles⟩ := first
  cases outcome with
  | returns value =>
      obtain ⟨outcome, settles'⟩ := second value
      exact ⟨outcome, settles.bind settles'⟩
  | throws error => exact ⟨throws error, settles.bind_throws⟩
  | running => exact ⟨running, settles.bind_running⟩

/-- A sequence returns with what its second part returns on the result of the first. -/
theorem yields_bind_iff {result : β} (settles : ∃ outcome, Settles call outcome) :
    Yields (fun fuel => call fuel >>= fun value => next value fuel) result ↔
      ∃ value, Yields call value ∧ Yields (next value) result := by
  constructor
  · intro whole
    obtain ⟨outcome, first⟩ := settles
    cases outcome with
    | returns value =>
        refine ⟨value, first, ?_⟩
        obtain ⟨enough, same⟩ := first
        obtain ⟨enough', returned⟩ := whole
        refine ⟨max enough enough', fun fuel le => ?_⟩
        have both : (call fuel >>= fun value => next value fuel) = returns result :=
          returned fuel (Nat.le_trans (Nat.le_max_right _ _) le)
        rwa [same fuel (Nat.le_trans (Nat.le_max_left _ _) le), returns_bind] at both
    | throws error => cases (@Settles.bind_throws ε α β call next error first).unique whole
    | running => cases (@Settles.bind_running ε α β call next first).unique whole
  · rintro ⟨value, first, second⟩
    exact Settles.bind first second

end

end Outcome
end Library
