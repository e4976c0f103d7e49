import Mathlib.Data.List.Basic
import Mathlib.Data.List.Forall2

/-!
# Computations that may throw

When a computation in `Except` returns, in terms of the computations it runs one after the other.
-/

namespace Library

universe u

variable {ε : Type u} {α β : Type}

/-- The computation returns a value. -/
def Returns (computation : Except ε α) : Prop :=
  ∃ value, computation = .ok value

@[simp] theorem returns_ok (value : α) : Returns (.ok value : Except ε α) := ⟨value, rfl⟩

@[simp] theorem returns_pure (value : α) : Returns (pure value : Except ε α) := ⟨value, rfl⟩

@[simp] theorem not_returns_error (error : ε) : ¬ Returns (.error error : Except ε α) := nofun

@[simp] theorem ok_bind (value : α) (next : α → Except ε β) : (.ok value >>= next) = next value :=
  rfl

@[simp] theorem error_bind (error : ε) (next : α → Except ε β) :
    (.error error >>= next) = .error error := rfl

/-- A sequence returns with what its second part returns on the result of the first. -/
theorem bind_eq_ok_iff {first : Except ε α} {next : α → Except ε β} {result : β} :
    first >>= next = .ok result ↔ ∃ value, first = .ok value ∧ next value = .ok result := by
  cases first <;> simp [bind, Except.bind]

/-- Translating the error keeps what is returned. -/
theorem mapError_eq_ok_iff {ε' : Type*} {computation : Except ε α} {translate : ε → ε'}
    {value : α} : computation.mapError translate = .ok value ↔ computation = .ok value := by
  cases computation with
  | error error => exact iff_of_false (fun same => by cases same) fun same => by cases same
  | ok result => rw [Except.mapError, Except.ok.injEq, Except.ok.injEq]

theorem returns_bind_iff {first : Except ε α} {next : α → Except ε β} :
    Returns (first >>= next) ↔ ∃ value, first = .ok value ∧ Returns (next value) := by
  simp only [Returns, bind_eq_ok_iff]
  constructor
  · rintro ⟨result, value, firstly, secondly⟩
    exact ⟨value, firstly, result, secondly⟩
  · rintro ⟨value, firstly, result, secondly⟩
    exact ⟨result, value, firstly, secondly⟩

/-- A computation followed by one that always returns. -/
theorem returns_bind_of_forall {first : Except ε α} {next : α → Except ε β}
    (total : ∀ value, Returns (next value)) : Returns (first >>= next) ↔ Returns first := by
  rw [returns_bind_iff]
  exact ⟨fun ⟨value, firstly, _⟩ => ⟨value, firstly⟩,
    fun ⟨value, firstly⟩ => ⟨value, firstly, total value⟩⟩

/-- A check of every item passes when the check of each does. -/
theorem forM_eq_ok_iff {check : α → Except ε Unit} {items : List α} :
    items.forM check = .ok () ↔ ∀ item ∈ items, check item = .ok () := by
  induction items with
  | nil => exact ⟨fun _ => nofun, fun _ => rfl⟩
  | cons item items induction =>
      rw [List.forall_mem_cons, ← induction]
      change (check item >>= fun _ => items.forM check) = .ok () ↔ _
      rw [bind_eq_ok_iff]
      exact ⟨fun ⟨_, firstly, rest⟩ => ⟨firstly, rest⟩, fun ⟨firstly, rest⟩ => ⟨_, firstly, rest⟩⟩

/-- A step for every item succeeds when the step for each does, with their results in order. -/
theorem mapM_eq_ok_iff {step : α → Except ε β} {items : List α} {results : List β} :
    items.mapM step = .ok results ↔
      List.Forall₂ (fun item result => step item = .ok result) items results := by
  induction items generalizing results with
  | nil =>
      rw [List.mapM_nil, List.forall₂_nil_left_iff]
      exact ⟨fun same => (Except.ok.inj same).symm, fun same => same ▸ rfl⟩
  | cons item items induction =>
      simp only [List.mapM_cons, bind_eq_ok_iff, List.forall₂_cons_left_iff, ← induction]
      constructor
      · rintro ⟨result, first, rest, others, last⟩
        exact ⟨result, rest, first, others, (Except.ok.inj last).symm⟩
      · rintro ⟨result, rest, first, others, rfl⟩
        exact ⟨result, first, rest, others, rfl⟩

/-- Every step of a sequence that returns has returned. -/
theorem returns_of_mapM {step : α → Except ε β} {items : List α} {results : List β}
    (returned : items.mapM step = .ok results) : ∀ item ∈ items, Returns (step item) := by
  have each := mapM_eq_ok_iff.mp returned
  clear returned
  induction each with
  | nil => exact nofun
  | cons first _ induction => exact List.forall_mem_cons.mpr ⟨⟨_, first⟩, induction⟩

/-- Every result of a sequence is the result of one of its steps. -/
theorem exists_of_mapM {step : α → Except ε β} {items : List α} {results : List β}
    (returned : items.mapM step = .ok results) :
    ∀ result ∈ results, ∃ item ∈ items, step item = .ok result := by
  have each := mapM_eq_ok_iff.mp returned
  clear returned
  induction each with
  | nil => exact nofun
  | cons first _ induction =>
      refine List.forall_mem_cons.mpr ⟨⟨_, List.mem_cons_self, first⟩, fun result member => ?_⟩
      obtain ⟨item, known, step⟩ := induction result member
      exact ⟨item, List.mem_cons_of_mem _ known, step⟩

/-- A step that fails makes a sequence fail, and only it does. -/
theorem exists_error_of_mapM {step : α → Except ε β} {items : List α} {error : ε}
    (failed : items.mapM step = .error error) : ∃ item ∈ items, step item = .error error := by
  induction items with
  | nil => cases failed
  | cons item items induction =>
      rw [List.mapM_cons] at failed
      cases first : step item with
      | error error' =>
          rw [first] at failed
          cases failed
          exact ⟨item, List.mem_cons_self, first⟩
      | ok result =>
          rw [first, ok_bind] at failed
          cases rest : items.mapM step with
          | error error' =>
              rw [rest] at failed
              cases failed
              obtain ⟨other, member, failed⟩ := induction rest
              exact ⟨other, List.mem_cons_of_mem _ member, failed⟩
          | ok results =>
              rw [rest] at failed
              cases failed

theorem returns_mapM {step : α → Except ε β} {items : List α}
    (each : ∀ item ∈ items, Returns (step item)) : Returns (items.mapM step) := by
  induction items with
  | nil => exact ⟨[], rfl⟩
  | cons item items induction =>
      obtain ⟨result, first⟩ := each item List.mem_cons_self
      obtain ⟨rest, others⟩ := induction fun other member => each other (List.mem_cons_of_mem _ member)
      exact ⟨result :: rest, by rw [List.mapM_cons, first, ok_bind, others, ok_bind]; rfl⟩

end Library
