import Mathlib.Data.List.Basic

/-!
# Taking records off a stream

A reader takes records off the head of a buffer until what is left is the start of a record, or can
never be one.  When more input does not change what the reader has already decided, the records of a
stream do not depend on how the stream is cut into chunks.
-/

namespace Library

universe u v w

variable {α : Type u} {φ : Type v} {ε : Type w}

/-- A reader whose decisions stand when more input follows, and that uses up input for every
record. -/
structure Incremental (parse : List α → Except ε (Option (φ × List α))) : Prop where
  /-- Without input the reader waits. -/
  nil : parse [] = .ok none
  /-- A record is followed by less than there was. -/
  shrinks : ∀ {data record rest}, parse data = .ok (some (record, rest)) →
    rest.length < data.length
  /-- A record stays the same when more input follows it. -/
  record_append : ∀ {data record rest}, parse data = .ok (some (record, rest)) →
    ∀ more, parse (data ++ more) = .ok (some (record, rest ++ more))
  /-- So does an error. -/
  error_append : ∀ {data error}, parse data = .error error →
    ∀ more, parse (data ++ more) = .error error

/-- A reader that can do without what follows a record. -/
structure Delimited (parse : List α → Except ε (Option (φ × List α))) : Prop where
  /-- A record has input of its own. -/
  head : ∀ {data record rest}, parse data = .ok (some (record, rest)) →
    ∃ own, data = own ++ rest ∧ parse own = .ok (some (record, []))

/-- The records at the head of the data, and what ends them: the input that is left when the reader
waits for more, or an error. -/
inductive Splits (parse : List α → Except ε (Option (φ × List α))) :
    List α → List φ → Except ε (List α) → Prop
  | wait {data : List α} : parse data = .ok none → Splits parse data [] (.ok data)
  | stop {data : List α} {error : ε} : parse data = .error error →
      Splits parse data [] (.error error)
  | take {data rest : List α} {record : φ} {records : List φ} {ending : Except ε (List α)} :
      parse data = .ok (some (record, rest)) → Splits parse rest records ending →
        Splits parse data (record :: records) ending

namespace Splits

variable {parse : List α → Except ε (Option (φ × List α))} {data more left : List α}
  {records later : List φ} {ending ending' : Except ε (List α)} {error : ε}

/-- Data splits in one way. -/
theorem unique (splits : Splits parse data records ending)
    (splits' : Splits parse data later ending') : records = later ∧ ending = ending' := by
  induction splits generalizing later with
  | wait waits =>
      cases splits' with
      | wait _ => exact ⟨rfl, rfl⟩
      | stop stops => exact nomatch waits.symm.trans stops
      | take takes _ => exact nomatch waits.symm.trans takes
  | stop stops =>
      cases splits' with
      | wait waits => exact nomatch stops.symm.trans waits
      | stop stops' =>
          cases Except.error.inj (stops.symm.trans stops')
          exact ⟨rfl, rfl⟩
      | take takes _ => exact nomatch stops.symm.trans takes
  | take takes _ induction =>
      cases splits' with
      | wait waits => exact nomatch takes.symm.trans waits
      | stop stops => exact nomatch takes.symm.trans stops
      | take takes' rest' =>
          cases takes.symm.trans takes'
          obtain ⟨rfl, same⟩ := induction rest'
          exact ⟨rfl, same⟩

/-- Every input splits. -/
theorem total (incremental : Incremental parse) (data : List α) :
    ∃ records ending, Splits parse data records ending := by
  induction length : data.length using Nat.strongRecOn generalizing data with
  | _ size induction =>
      cases parsed : parse data with
      | error error => exact ⟨[], _, .stop parsed⟩
      | ok result =>
          cases result with
          | none => exact ⟨[], _, .wait parsed⟩
          | some taken =>
              obtain ⟨record, rest⟩ := taken
              have shorter : rest.length < size := length ▸ incremental.shrinks parsed
              obtain ⟨records, ending, splits⟩ := induction _ shorter rest rfl
              exact ⟨record :: records, ending, .take parsed splits⟩

/-- What is left over is where the reader waits. -/
theorem waits (splits : Splits parse data records (.ok left)) : parse left = .ok none := by
  generalize same : Except.ok left = ending at splits
  induction splits with
  | wait waits =>
      cases same
      exact waits
  | stop _ => exact nomatch same
  | take _ _ induction => exact induction same

/-- More input after a wait goes on from what was left. -/
theorem append (incremental : Incremental parse) (splits : Splits parse data records (.ok left))
    (further : Splits parse (left ++ more) later ending) :
    Splits parse (data ++ more) (records ++ later) ending := by
  generalize same : Except.ok left = waiting at splits
  induction splits with
  | wait _ =>
      cases same
      exact further
  | stop _ => exact nomatch same
  | take takes _ induction => exact .take (incremental.record_append takes more) (induction same)

/-- More input after an error changes nothing. -/
theorem error_append (incremental : Incremental parse)
    (splits : Splits parse data records (.error error)) (more : List α) :
    Splits parse (data ++ more) records (.error error) := by
  generalize same : Except.error error = stopped at splits
  induction splits with
  | wait _ => exact nomatch same
  | stop stops =>
      cases same
      exact .stop (incremental.error_append stops more)
  | take takes _ induction => exact .take (incremental.record_append takes more) (induction same)

/-- The first part of an input splits into the first records of the whole, and unless it ends like
the whole, what it leaves goes on with the others. -/
theorem cut (incremental : Incremental parse) (splits : Splits parse (data ++ more) records ending) :
    (∃ error, Splits parse data records (.error error) ∧ ending = .error error) ∨
      ∃ earlier later left, records = earlier ++ later ∧
        Splits parse data earlier (.ok left) ∧ Splits parse (left ++ more) later ending := by
  obtain ⟨earlier, first, starts⟩ := total incremental data
  cases first with
  | error error =>
      obtain ⟨rfl, rfl⟩ := splits.unique (starts.error_append incremental more)
      exact Or.inl ⟨error, starts, rfl⟩
  | ok left =>
      obtain ⟨later, ending', goes⟩ := total incremental (left ++ more)
      obtain ⟨rfl, rfl⟩ := splits.unique (starts.append incremental goes)
      exact Or.inr ⟨earlier, later, left, rfl, starts, goes⟩

/-- Records in two parts come from two parts of the input. -/
theorem divide (incremental : Incremental parse) (delimited : Delimited parse)
    {earlier : List φ} (splits : Splits parse data (earlier ++ later) ending) :
    ∃ head tail, data = head ++ tail ∧ Splits parse head earlier (.ok []) ∧
      Splits parse tail later ending := by
  induction earlier generalizing data with
  | nil => exact ⟨[], data, rfl, .wait incremental.nil, splits⟩
  | cons record earlier induction =>
      cases splits with
      | take takes splits =>
          obtain ⟨own, rfl, parsed⟩ := delimited.head takes
          obtain ⟨head, tail, rfl, first, second⟩ := induction splits
          exact ⟨own ++ head, tail, (List.append_assoc _ _ _).symm,
            .take (incremental.record_append parsed head) first, second⟩

end Splits
end Library
