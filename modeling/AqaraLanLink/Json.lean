import Mathlib.Data.Rat.Init
import Mathlib.Data.List.Basic

/-!
# JSON values

What `JSON.parse` and `json.loads` make of the text in a session frame.  The keys of an object are
distinct and stand in the order in which the language lists them.
-/

namespace AqaraLanLink

/-- A JSON value. -/
inductive Json where
  | null
  | bool (value : Bool)
  | number (value : ℚ)
  | string (value : String)
  | array (items : List Json)
  | object (fields : List (String × Json))
  deriving Repr

namespace Json

/-- The own property of an object; every other value has none of the keys the code asks for. -/
def get? : Json → String → Option Json
  | object fields, key => fields.lookup key
  | _, _ => none

/-- JavaScript's `===` on parsed values: two objects or arrays of different texts are never one. -/
def strictEq : Json → Json → Bool
  | null, null => true
  | bool left, bool right => left == right
  | number left, number right => left == right
  | string left, string right => left == right
  | _, _ => false

/-- JavaScript's `left ?? right`, where `none` is `undefined`. -/
def coalesce (left : Option Json) (right : Json) : Json :=
  match left with
  | none => right
  | some null => right
  | some value => value

/-- JavaScript's `Object.entries`. -/
def entries : Json → List (String × Json)
  | object fields => fields
  | array items => items.zipIdx.map fun item => (toString item.2, item.1)
  | string value =>
      value.toList.zipIdx.map fun item => (toString item.2, string (String.singleton item.1))
  | _ => []

/-- Python's truth value. -/
def truthy : Json → Bool
  | null => false
  | bool value => value
  | number value => value ≠ 0
  | string value => value ≠ ""
  | array items => !items.isEmpty
  | object fields => !fields.isEmpty

/-- JavaScript's truth value. -/
def jsTruthy : Json → Bool
  | null => false
  | bool value => value
  | number value => value ≠ 0
  | string value => value ≠ ""
  | _ => true

/-- Python's `value == 0`, which also holds of `False`. -/
def isZero : Json → Bool
  | bool value => !value
  | number value => value = 0
  | _ => false

mutual

/-- JavaScript's `ToPrimitive`, as far as it can throw.  An object that shadows `toString` with a value
that is not callable has no primitive value.  An array converts its items one by one, and arrays
nested deeper than `levels` fill the stack. -/
def toPrimitive : ℕ → Json → Except String Unit
  | _, object fields =>
      if fields.any fun field => field.1 == "toString" then
        .error "Cannot convert object to primitive value"
      else .ok ()
  | 0, array _ => .error "Maximum call stack size exceeded"
  | levels + 1, array items => itemsToPrimitive levels items
  | _, _ => .ok ()

/-- The same for the items of an array. -/
def itemsToPrimitive : ℕ → List Json → Except String Unit
  | _, [] => .ok ()
  | levels, item :: items => do
      toPrimitive levels item
      itemsToPrimitive levels items

end

/-- Whether JavaScript's `Number(value)` and `String(value)` return. -/
def convertible (levels : ℕ) (value : Json) : Bool := (value.toPrimitive levels).isOk

/-- JavaScript's `Number(value)` of a value that converts, `NaN` being nothing.  What a text, an array
or an object converts to is left to `textual`. -/
def toNumber (textual : Json → Option ℚ) : Json → Option ℚ
  | null => some 0
  | bool value => some (if value then 1 else 0)
  | number value => some value
  | value => textual value

/-- What a list of entries leaves behind: the value of the last one whose key is picked, or what was
held before. -/
def lastValue (picks : String → Bool) (entries : List (String × Json)) (held : Option Json) :
    Option Json :=
  entries.foldl (fun held entry => if picks entry.1 then some entry.2 else held) held

@[simp] theorem lastValue_nil (picks : String → Bool) (held : Option Json) :
    lastValue picks [] held = held := rfl

theorem lastValue_cons (picks : String → Bool) (key : String) (value : Json)
    (entries : List (String × Json)) (held : Option Json) :
    lastValue picks ((key, value) :: entries) held =
      lastValue picks entries (if picks key then some value else held) := rfl

/-- The entries say nothing, or what they leave behind does not depend on what was held. -/
theorem lastValue_cases (picks : String → Bool) (entries : List (String × Json)) :
    (∀ held, lastValue picks entries held = held) ∨
      ∃ value, ∀ held, lastValue picks entries held = some value := by
  induction entries with
  | nil => exact Or.inl (lastValue_nil picks)
  | cons entry entries induction =>
      obtain ⟨key, value⟩ := entry
      rcases induction with silent | ⟨value', told⟩
      · cases picked : picks key with
        | true => exact Or.inr ⟨value, fun held => by simp [lastValue_cons, picked, silent]⟩
        | false => exact Or.inl fun held => by simp [lastValue_cons, picked, silent]
      · exact Or.inr ⟨value', fun held => by rw [lastValue_cons, told]⟩

/-- Entries that come twice are as good as once. -/
theorem lastValue_lastValue (picks : String → Bool) (entries : List (String × Json))
    (held : Option Json) :
    lastValue picks entries (lastValue picks entries held) = lastValue picks entries held := by
  rcases lastValue_cases picks entries with silent | ⟨value, told⟩
  · exact silent _
  · rw [told, told]

/-- Entries none of which is picked leave the value as it was. -/
theorem lastValue_of_silent {picks : String → Bool} {entries : List (String × Json)}
    (silent : ∀ entry ∈ entries, picks entry.1 = false) (held : Option Json) :
    lastValue picks entries held = held := by
  induction entries with
  | nil => rfl
  | cons entry entries induction =>
      have first := silent entry List.mem_cons_self
      rw [lastValue_cons, first]
      exact induction fun other member => silent other (List.mem_cons_of_mem _ member)

theorem eq_of_strictEq {left right : Json} (equal : strictEq left right = true) : left = right := by
  cases left <;> cases right <;> simp_all [strictEq]

theorem toPrimitive_eq_ok_iff {levels : ℕ} {value : Json} :
    value.toPrimitive levels = .ok () ↔ value.convertible levels = true := by
  rw [convertible]
  cases value.toPrimitive levels with
  | error error => simp [Except.isOk, Except.toBool]
  | ok done => simp [Except.isOk, Except.toBool]

/-- Only objects and arrays have no primitive value, and neither is ever `===` to another. -/
theorem strictEq_of_not_convertible {levels : ℕ} {left right : Json}
    (poison : right.convertible levels = false) : strictEq left right = false := by
  cases right <;> cases left <;>
    simp_all [strictEq, convertible, toPrimitive, Except.isOk, Except.toBool]

theorem convertible_number (levels : ℕ) (value : ℚ) : (number value).convertible levels = true := by
  simp [convertible, toPrimitive, Except.isOk, Except.toBool]

end Json
end AqaraLanLink
