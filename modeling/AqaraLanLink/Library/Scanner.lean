import Mathlib.Algebra.GroupWithZero.Nat
import Mathlib.Data.List.Basic

/-!
# Scanning a text for records

A scanner looks at what is left of a text and stops, passes over one item, or takes a record.  The
records a scan finds carry the places where they begin.
-/

namespace Library
namespace Scanner

universe u

variable {α : Type u}

/-- What to do with the rest of a text. -/
inductive Verdict where
  | stop
  | skip
  /-- A record of this length begins here. -/
  | take (length : ℕ)
  deriving DecidableEq, Repr

/-- A record is not empty and lies within the text. -/
def Sound (verdict : List α → Verdict) : Prop :=
  ∀ text length, verdict text = .take length → 1 ≤ length ∧ length ≤ text.length

/-- The records of a text that begins at a place, once some items of it have been passed over. -/
def scan (verdict : List α → Verdict) : List α → ℕ → ℕ → List (ℕ × List α)
  | [], _, _ => []
  | _ :: tail, place, jump + 1 => scan verdict tail (place + 1) jump
  | head :: tail, place, 0 =>
      match verdict (head :: tail) with
      | .stop => []
      | .skip => scan verdict tail (place + 1) 0
      | .take length =>
          (place, (head :: tail).take length) :: scan verdict tail (place + 1) (length - 1)

/-- The records of a text. -/
def records (verdict : List α → Verdict) (text : List α) : List (List α) :=
  (scan verdict text 0 0).map Prod.snd

/-- How many items all records have together. -/
def covered (found : List (ℕ × List α)) : ℕ := (found.map fun record => record.2.length).sum

/-- Records one behind the other. -/
def chain : ℕ → List (List α) → List (ℕ × List α)
  | _, [] => []
  | place, record :: records => (place, record) :: chain (place + record.length) records

variable {verdict : List α → Verdict}

theorem scan_over (verdict : List α → Verdict) (text : List α) (place jump : ℕ) :
    scan verdict text place jump = scan verdict (text.drop jump) (place + jump) 0 := by
  induction text generalizing place jump with
  | nil =>
      rw [List.drop_nil]
      cases jump <;> rfl
  | cons head tail induction =>
      cases jump with
      | zero => rfl
      | succ jump =>
          rw [scan, induction, List.drop_succ_cons, Nat.add_assoc, Nat.add_comm 1]

theorem scan_of_stop {text : List α} (stops : verdict text = .stop) (place : ℕ) :
    scan verdict text place 0 = [] := by
  cases text with
  | nil => rfl
  | cons head tail => rw [scan, stops]

theorem scan_of_skip {head : α} {tail : List α} (skips : verdict (head :: tail) = .skip)
    (place : ℕ) : scan verdict (head :: tail) place 0 = scan verdict tail (place + 1) 0 := by
  rw [scan, skips]

theorem scan_of_take (sound : Sound verdict) {text : List α} {length : ℕ}
    (takes : verdict text = .take length) (place : ℕ) :
    scan verdict text place 0 =
      (place, text.take length) :: scan verdict (text.drop length) (place + length) 0 := by
  obtain ⟨positive, inside⟩ := sound text length takes
  cases text with
  | nil =>
      rw [List.length_nil] at inside
      omega
  | cons head tail =>
      obtain ⟨less, rfl⟩ : ∃ less, length = less + 1 := ⟨length - 1, by omega⟩
      rw [scan, takes]
      dsimp only
      rw [scan_over, Nat.add_sub_cancel, List.drop_succ_cons, Nat.add_right_comm, Nat.add_assoc]

/-- A scan by cases on the verdict, with the rest of the text for each. -/
theorem scan_induction (sound : Sound verdict) {motive : List α → ℕ → Prop}
    (nil : ∀ place, motive [] place)
    (stop : ∀ text place, verdict text = .stop → motive text place)
    (skip : ∀ head tail place, verdict (head :: tail) = .skip → motive tail (place + 1) →
      motive (head :: tail) place)
    (take : ∀ text place length, verdict text = .take length → 1 ≤ length → length ≤ text.length →
      motive (text.drop length) (place + length) → motive text place)
    (text : List α) (place : ℕ) : motive text place := by
  induction whole : text.length using Nat.strongRecOn generalizing text place with
  | _ size induction =>
      cases decision : verdict text with
      | stop => exact stop text place decision
      | skip =>
          cases text with
          | nil => exact nil place
          | cons head tail =>
              rw [List.length_cons] at whole
              exact skip head tail place decision
                (induction tail.length (by omega) tail (place + 1) rfl)
      | take length =>
          obtain ⟨positive, inside⟩ := sound text length decision
          have shorter : (text.drop length).length < size := by
            rw [List.length_drop]
            omega
          exact take text place length decision positive inside
            (induction _ shorter (text.drop length) (place + length) rfl)

/-- The place where a scan begins says nothing about the records. -/
theorem map_scan (sound : Sound verdict) (text : List α) (place : ℕ) :
    (scan verdict text place 0).map Prod.snd = records verdict text := by
  have same : ∀ other, (scan verdict text place 0).map Prod.snd =
      (scan verdict text other 0).map Prod.snd := by
    induction text, place using scan_induction sound with
    | nil place => exact fun other => rfl
    | stop text place stops =>
        intro other
        rw [scan_of_stop stops, scan_of_stop stops]
    | skip head tail place skips induction =>
        intro other
        rw [scan_of_skip skips, scan_of_skip skips]
        exact induction (other + 1)
    | take text place length takes positive inside induction =>
        intro other
        rw [scan_of_take sound takes, scan_of_take sound takes, List.map_cons, List.map_cons,
          induction (other + length)]
  exact same 0

theorem records_of_skip (sound : Sound verdict) {head : α} {tail : List α}
    (skips : verdict (head :: tail) = .skip) :
    records verdict (head :: tail) = records verdict tail := by
  rw [records, scan_of_skip skips, map_scan sound]

theorem records_of_take (sound : Sound verdict) {text : List α} {length : ℕ}
    (takes : verdict text = .take length) :
    records verdict text = text.take length :: records verdict (text.drop length) := by
  rw [records, scan_of_take sound takes, List.map_cons, map_scan sound]

@[simp] theorem covered_nil : covered ([] : List (ℕ × List α)) = 0 := rfl

@[simp] theorem covered_cons (record : ℕ × List α) (found : List (ℕ × List α)) :
    covered (record :: found) = record.2.length + covered found := by
  rw [covered, List.map_cons, List.sum_cons, covered]

/-- The last record ends no earlier than all of them together would. -/
theorem exists_covered_le (sound : Sound verdict) (text : List α) (place : ℕ) :
    scan verdict text place 0 ≠ [] → ∃ record ∈ scan verdict text place 0,
      place + covered (scan verdict text place 0) ≤ record.1 + record.2.length := by
  induction text, place using scan_induction sound with
  | nil place => exact fun some => absurd rfl some
  | stop text place stops => exact fun some => absurd (scan_of_stop stops place) some
  | skip head tail place skips induction =>
      rw [scan_of_skip skips]
      intro some
      obtain ⟨record, member, reaches⟩ := induction some
      exact ⟨record, member, by omega⟩
  | take text place length takes positive inside induction =>
      intro _
      rw [scan_of_take sound takes, covered_cons, List.length_take, Nat.min_eq_left inside]
      by_cases others : scan verdict (text.drop length) (place + length) 0 = []
      · refine ⟨_, List.mem_cons_self, ?_⟩
        rw [others, List.length_take, Nat.min_eq_left inside]
        exact Nat.le_refl _
      · obtain ⟨record, member, reaches⟩ := induction others
        exact ⟨record, List.mem_cons_of_mem _ member, by omega⟩

/-- The records do not have more items than the text. -/
theorem covered_le (sound : Sound verdict) (text : List α) (place : ℕ) :
    covered (scan verdict text place 0) ≤ text.length := by
  induction text, place using scan_induction sound with
  | nil place => exact Nat.le_refl 0
  | stop text place stops =>
      rw [scan_of_stop stops]
      exact Nat.zero_le _
  | skip head tail place skips induction =>
      rw [scan_of_skip skips, List.length_cons]
      omega
  | take text place length takes positive inside induction =>
      rw [List.length_drop] at induction
      rw [scan_of_take sound takes, covered_cons, List.length_take]
      omega

/-- When no record ends later than all of them together would, nothing was passed over before
them: they are the front of the text. -/
theorem eq_flatten_append (sound : Sound verdict) (text : List α) (place : ℕ) :
    (∀ record ∈ scan verdict text place 0,
      record.1 + record.2.length ≤ place + covered (scan verdict text place 0)) →
    text = ((scan verdict text place 0).map Prod.snd).flatten ++
      text.drop (covered (scan verdict text place 0)) := by
  induction text, place using scan_induction sound with
  | nil place => exact fun _ => rfl
  | stop text place stops =>
      intro _
      rw [scan_of_stop stops]
      rfl
  | skip head tail place skips induction =>
      rw [scan_of_skip skips]
      intro tight
      by_cases none : scan verdict tail (place + 1) 0 = []
      · rw [none]
        rfl
      · obtain ⟨record, member, reaches⟩ := exists_covered_le sound tail (place + 1) none
        have less := tight record member
        omega
  | take text place length takes positive inside induction =>
      rw [scan_of_take sound takes, covered_cons, List.length_take, Nat.min_eq_left inside]
      intro tight
      have rest := induction fun record member => by
        have less := tight record (List.mem_cons_of_mem _ member)
        omega
      rw [List.map_cons, List.flatten_cons, List.append_assoc, ← List.drop_drop, ← rest,
        List.take_append_drop]

theorem map_chain (place : ℕ) (records : List (List α)) :
    (chain place records).map Prod.snd = records := by
  induction records generalizing place with
  | nil => rfl
  | cons record records induction => rw [chain, List.map_cons, induction]

theorem covered_chain (place : ℕ) (records : List (List α)) :
    covered (chain place records) = records.flatten.length := by
  induction records generalizing place with
  | nil => rfl
  | cons record records induction =>
      rw [chain, covered_cons, induction, List.flatten_cons, List.length_append]

theorem le_of_mem_chain {place : ℕ} {records : List (List α)} {record : ℕ × List α}
    (member : record ∈ chain place records) :
    record.1 + record.2.length ≤ place + records.flatten.length := by
  induction records generalizing place with
  | nil => exact absurd member List.not_mem_nil
  | cons first records induction =>
      rw [List.flatten_cons, List.length_append]
      rcases List.mem_cons.mp member with here | later
      · rw [here]
        dsimp only
        omega
      · have inside := induction later
        omega

theorem chain_append (place : ℕ) (first second : List (List α)) :
    chain place (first ++ second) =
      chain place first ++ chain (place + first.flatten.length) second := by
  induction first generalizing place with
  | nil => rfl
  | cons record first induction =>
      rw [List.cons_append, chain, induction, chain, List.flatten_cons, List.length_append,
        Nat.add_assoc, List.cons_append]

/-- Records that are taken whatever follows them are taken one after the other. -/
theorem scan_flatten_append (sound : Sound verdict) {records : List (List α)}
    (taken : ∀ record ∈ records, ∀ rest, verdict (record ++ rest) = .take record.length)
    (text : List α) (place : ℕ) :
    scan verdict (records.flatten ++ text) place 0 =
      chain place records ++ scan verdict text (place + records.flatten.length) 0 := by
  induction records generalizing place with
  | nil => rfl
  | cons record records induction =>
      have first := taken record List.mem_cons_self (records.flatten ++ text)
      have others := fun other member => taken other (List.mem_cons_of_mem record member)
      rw [List.flatten_cons, List.append_assoc, scan_of_take sound first, List.take_left,
        List.drop_left, induction others, chain, List.length_append, Nat.add_assoc,
        List.cons_append]

end Scanner
end Library
