import Mathlib.Data.Int.Notation
import Mathlib.Data.List.TakeWhile

/-!
# Times of day

What the composite codecs use of Python's `datetime.time`: times as minutes, as `HH:MM`, and as
`fromisoformat` reads them.
-/

namespace AqaraLanLink
namespace Reference
namespace Clock

/-- `datetime.time`. -/
structure Time where
  hour : Fin 24
  minute : Fin 60
  second : Fin 60
  microsecond : Fin 1000000
  /-- The UTC offset of `tzinfo`, in microseconds. -/
  tzinfo : Option ℤ
  deriving DecidableEq, Repr

/-- `time(hour, minute)`. -/
def Time.ofMinute (hour : Fin 24) (minute : Fin 60) : Time := ⟨hour, minute, 0, 0, none⟩

/-- `time(0, 0)`. -/
def Time.midnight : Time := .ofMinute 0 0

/-- `time(23, 59)`. -/
def Time.lastMinute : Time := .ofMinute 23 59

/-- The time without what is smaller than a minute, and without a time zone. -/
def Time.toMinute (time : Time) : Time := .ofMinute time.hour time.minute

/-! ## Minutes -/

/-- `_mins_to_time`. -/
def minsToTime (mins : ℤ) : Time :=
  .ofMinute ⟨(mins / 60 % 24).toNat, by omega⟩ ⟨(mins % 60).toNat, by omega⟩

/-- `_time_to_mins`. -/
def timeToMins (time : Time) : ℕ := time.hour * 60 + time.minute

theorem timeToMins_lt (time : Time) : timeToMins time < 1440 := by
  have hour := time.hour.isLt
  have minute := time.minute.isLt
  rw [timeToMins]
  omega

/-- A time comes back without its seconds. -/
theorem minsToTime_timeToMins (time : Time) : minsToTime (timeToMins time) = time.toMinute := by
  have hour := time.hour.isLt
  have minute := time.minute.isLt
  have whole : ((timeToMins time : ℤ) / 60 % 24).toNat = time.hour := by
    rw [timeToMins]
    omega
  have rest : ((timeToMins time : ℤ) % 60).toNat = time.minute := by
    rw [timeToMins]
    omega
  rw [minsToTime, Time.toMinute]
  congr 1
  · exact Fin.ext whole
  · exact Fin.ext rest

/-! ## Texts -/

/-- A number of two digits. -/
def padTwo (number : ℕ) : List Char := [Nat.digitChar (number / 10), Nat.digitChar (number % 10)]

/-- `strftime("%H:%M")`. -/
def strftimeMinute (time : Time) : List Char := padTwo time.hour ++ ':' :: padTwo time.minute

/-- The value of an ASCII digit. -/
def digit? (letter : Char) : Option ℕ :=
  if letter.isDigit then some (letter.toNat - '0'.toNat) else none

/-- The number of two digits, and what comes behind them. -/
def twoDigits : List Char → Option (ℕ × List Char)
  | tens :: ones :: rest => do
      let tens ← digit? tens
      let ones ← digit? ones
      some (10 * tens + ones, rest)
  | _ => none

/-- A fraction of a second in microseconds, as far as its digits go. -/
def fraction (text : List Char) : Option ℕ := do
  let digits ← text.mapM digit?
  if digits = [] then none
  else
    some (((digits ++ List.replicate 6 0).take 6).foldl (fun value digit => 10 * value + digit) 0)

/-- The seconds, and the fraction behind them. -/
def seconds (text : List Char) : Option (ℕ × ℕ) := do
  let (second, rest) ← twoDigits text
  match rest with
  | [] => some (second, 0)
  | mark :: rest => if mark = '.' ∨ mark = ',' then (fraction rest).map (second, ·) else none

/-- `HH[:MM[:SS[.f]]]`, or the same without colons. -/
def clock (text : List Char) : Option (ℕ × ℕ × ℕ × ℕ) := do
  let (hour, rest) ← twoDigits text
  match rest with
  | [] => some (hour, 0, 0, 0)
  | ':' :: rest =>
      let (minute, rest) ← twoDigits rest
      match rest with
      | [] => some (hour, minute, 0, 0)
      | ':' :: rest => (seconds rest).map (hour, minute, ·)
      | _ => none
  | rest =>
      let (minute, rest) ← twoDigits rest
      if rest = [] then some (hour, minute, 0, 0) else (seconds rest).map (hour, minute, ·)

/-- A UTC offset in microseconds, less than a day in either direction. -/
def utcOffset : List Char → Option ℤ
  | ['Z'] => some 0
  | sign :: text =>
      if sign = '+' ∨ sign = '-' then do
        let (hour, minute, second, microsecond) ← clock text
        let offset : ℕ := ((hour * 60 + minute) * 60 + second) * 1000000 + microsecond
        if offset < 86400000000 then some (if sign = '-' then -offset else offset) else none
      else none
  | [] => none

/-- The character begins a UTC offset. -/
def beginsOffset (letter : Char) : Bool := letter = '+' ∨ letter = '-' ∨ letter = 'Z'

/-- `time.fromisoformat`, unless it raises. -/
def fromisoformat (text : List Char) : Option Time := do
  let text := if text.head? = some 'T' then text.tail else text
  let (hour, minute, second, microsecond) ← clock (text.takeWhile (!beginsOffset ·))
  let tzinfo ←
    match text.dropWhile (!beginsOffset ·) with
    | [] => some none
    | zone => (utcOffset zone).map some
  if fits : hour < 24 ∧ minute < 60 ∧ second < 60 ∧ microsecond < 1000000 then
    some ⟨⟨hour, fits.1⟩, ⟨minute, fits.2.1⟩, ⟨second, fits.2.2.1⟩, ⟨microsecond, fits.2.2.2⟩, tzinfo⟩
  else none

theorem digit?_digitChar {digit : ℕ} (small : digit < 10) :
    digit? (Nat.digitChar digit) = some digit := by
  have all : ∀ digit < 10, digit? (Nat.digitChar digit) = some digit := by decide
  exact all digit small

theorem twoDigits_padTwo {number : ℕ} (small : number < 100) (rest : List Char) :
    twoDigits (padTwo number ++ rest) = some (number, rest) := by
  have tens : number / 10 < 10 := by omega
  have ones : number % 10 < 10 := by omega
  have whole : 10 * (number / 10) + number % 10 = number := by omega
  simp [padTwo, twoDigits, digit?_digitChar tens, digit?_digitChar ones, whole]

/-- Two digits begin neither a time nor a UTC offset. -/
theorem mem_padTwo {number : ℕ} (small : number < 100) {letter : Char}
    (member : letter ∈ padTwo number) : beginsOffset letter = false ∧ letter ≠ 'T' := by
  have all : ∀ digit < 10, beginsOffset (Nat.digitChar digit) = false ∧
      Nat.digitChar digit ≠ 'T' := by decide
  rcases List.mem_cons.mp member with rfl | last
  · exact all _ (by omega)
  · rw [List.mem_singleton.mp last]
    exact all _ (by omega)

/-- What is written to the minute is read to the minute. -/
theorem fromisoformat_strftimeMinute (time : Time) :
    fromisoformat (strftimeMinute time) = some time.toMinute := by
  have hour : (time.hour : ℕ) < 100 := by omega
  have minute : (time.minute : ℕ) < 100 := by omega
  have plain : ∀ letter ∈ strftimeMinute time, beginsOffset letter = false ∧ letter ≠ 'T' := by
    intro letter member
    rcases List.mem_append.mp member with front | back
    · exact mem_padTwo hour front
    · rcases List.mem_cons.mp back with rfl | back
      · decide
      · exact mem_padTwo minute back
  have head : (strftimeMinute time).head? ≠ some 'T' := by
    intro begins
    exact (plain 'T' (List.mem_of_mem_head? begins)).2 rfl
  have inside : (strftimeMinute time).takeWhile (!beginsOffset ·) = strftimeMinute time := by
    rw [List.takeWhile_eq_self_iff]
    intro letter member
    rw [(plain letter member).1]
    rfl
  have behind : (strftimeMinute time).dropWhile (!beginsOffset ·) = [] := by
    rw [List.dropWhile_eq_nil_iff]
    intro letter member
    rw [(plain letter member).1]
    rfl
  have read : clock (strftimeMinute time) =
      some ((time.hour : ℕ), (time.minute : ℕ), 0, 0) := by
    have rest := twoDigits_padTwo minute []
    rw [List.append_nil] at rest
    simp [clock, strftimeMinute, twoDigits_padTwo hour, rest]
  have fits : (time.hour : ℕ) < 24 ∧ (time.minute : ℕ) < 60 ∧ 0 < 60 ∧ 0 < 1000000 :=
    ⟨time.hour.isLt, time.minute.isLt, by omega, by omega⟩
  simp only [fromisoformat, if_neg head, inside, behind, read, Option.bind_eq_bind,
    Option.bind_some, dif_pos fits]
  rfl

end Clock
end Reference
end AqaraLanLink
