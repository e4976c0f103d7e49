import AqaraLanLink.Port.Resilience

/-!
# Presses of a button

What reaches HomeKit's `ProgrammableSwitchEvent` of a button device.  A press is an event, but it
travels through the device's store of last values, which announces only what has changed.
-/

namespace AqaraLanLink
namespace Port

open Library

namespace AqaraDevice

variable (textual : Json → Option ℚ) (levels : ℕ)

/-- The press that the listener of `HomeKitAccessory.button` makes of a value: single, double and
long, in that order. -/
def press (value : Json) : Option ℚ :=
  if value.convertible levels then (value.toNumber textual).filter fun press => 0 ≤ press ∧ press ≤ 2
  else none

/-- The calls of `updateValue` that one `changed` event makes. -/
def updateValues (device : AqaraDevice) (code : String) (value : Json) : List ℚ :=
  if .button ∈ device.listeners ∧ code = "ButtonEvent" then
    (press textual device.levels value).toList
  else []

/-- The loop of `report` with the calls of `updateValue` that it makes. -/
def hearEntries (device : AqaraDevice) : List (String × Json) → List ℚ × Except String AqaraDevice
  | [] => ([], .ok device)
  | (path, value) :: entries =>
      match device.codeFor path with
      | none => hearEntries device entries
      | some code =>
          match device.record code value with
          | .error error => ([], .error error)
          | .ok (device, news) =>
              let later := hearEntries device entries
              (if news then device.updateValues textual code value ++ later.1 else later.1, later.2)

/-- Reports one after the other, up to one that throws. -/
def hear (device : AqaraDevice) : List Json → List ℚ × Except String AqaraDevice
  | [] => ([], .ok device)
  | report :: reports =>
      match device.hearEntries textual report.entries with
      | (presses, .error error) => (presses, .error error)
      | (presses, .ok device) =>
          let later := hear device reports
          (presses ++ later.1, later.2)

/-- The values that the entries carry on the path of `ButtonEvent`. -/
def buttonValues (device : AqaraDevice) (entries : List (String × Json)) : List Json :=
  (entries.filter fun entry => device.codeFor entry.1 == some "ButtonEvent").map Prod.snd

/-- The presses among them. -/
def presses (device : AqaraDevice) (entries : List (String × Json)) : List ℚ :=
  (device.buttonValues entries).filterMap (press textual device.levels)

/-- A value that is a press differs from the one before it. -/
def Fresh (before after : Option Json) : Prop :=
  ∀ known value, before = some known → after = some value → known.strictEq value = true →
    press textual levels value = none

/-- No press says what is known already, and none comes after a value that cannot be converted. -/
structure Distinct (held : Option Json) (values : List Json) : Prop where
  /-- A press differs from the value before it, the first from what the device holds. -/
  fresh : (held :: values.map some).IsChain (Fresh textual levels)
  /-- Every value before a press converts. -/
  converts : values.Pairwise fun earlier later =>
    press textual levels later ≠ none → earlier.convertible levels = true

theorem hearEntries_append (device : AqaraDevice) (entries later : List (String × Json)) :
    device.hearEntries textual (entries ++ later) =
      match device.hearEntries textual entries with
      | (presses, .error error) => (presses, .error error)
      | (presses, .ok device) =>
          (presses ++ (device.hearEntries textual later).1, (device.hearEntries textual later).2) := by
  induction entries generalizing device with
  | nil => rfl
  | cons entry entries induction =>
      obtain ⟨path, value⟩ := entry
      rw [List.cons_append, hearEntries, hearEntries]
      cases device.codeFor path with
      | none => exact induction device
      | some code =>
          simp only
          cases device.record code value with
          | error error => rfl
          | ok done =>
              obtain ⟨recorded, news⟩ := done
              simp only [induction recorded]
              obtain ⟨presses, outcome⟩ := recorded.hearEntries textual entries
              cases outcome with
              | error error => rfl
              | ok device => cases news <;> simp

/-- Reports are heard like one report with all their entries. -/
theorem hear_eq (device : AqaraDevice) (reports : List Json) :
    device.hear textual reports = device.hearEntries textual (reports.flatMap Json.entries) := by
  induction reports generalizing device with
  | nil => rfl
  | cons report reports induction =>
      rw [hear, List.flatMap_cons, hearEntries_append]
      obtain ⟨presses, outcome⟩ := device.hearEntries textual report.entries
      cases outcome with
      | error error => rfl
      | ok device => simp only [induction device]

/-! ## What a button device announces -/

/-- What is heard of the values of `ButtonEvent` when this one is held. -/
def heardValues (held : Option Json) : List Json → List ℚ
  | [] => []
  | value :: values =>
      if held.any fun known => known.strictEq value then heardValues held values
      else if value.convertible levels then
        (press textual levels value).toList ++ heardValues (some value) values
      else []

section

variable {textual} {levels : ℕ}

theorem record_of_button {device : AqaraDevice} (isButton : device.listeners = [.button, .push])
    {code : String} {value : Json} (news : device.has code value = false)
    (quiet : code = "ButtonEvent" → value.convertible device.levels = true) :
    device.record code value = .ok (device.setState code value, true) := by
  have listeners : (device.setState code value).listeners = [.button, .push] := isButton
  rw [record_of_news news, listeners_return_iff, listeners]
  exact ⟨⟨fun _ => quiet, by simp⟩, rfl⟩

theorem record_of_poison {device : AqaraDevice} (isButton : device.listeners = [.button, .push])
    {value : Json} (poison : value.convertible device.levels = false) :
    ∃ error, device.record "ButtonEvent" value = .error error := by
  cases recorded : device.record "ButtonEvent" value with
  | error error => exact ⟨error, rfl⟩
  | ok done =>
      have listeners : (device.setState "ButtonEvent" value).listeners = [.button, .push] := isButton
      have heard := ((record_of_news (has_of_not_convertible poison)).mp recorded).1
      rw [listeners_return_iff, listeners] at heard
      have converts : value.convertible device.levels = true := heard.1 List.mem_cons_self rfl
      rw [poison] at converts
      cases converts

/-- A button device announces what its values of `ButtonEvent` make heard. -/
theorem hearEntries_fst {device : AqaraDevice} (isButton : device.listeners = [.button, .push])
    (entries : List (String × Json)) :
    (device.hearEntries textual entries).1 =
      heardValues textual device.levels (device.state "ButtonEvent") (device.buttonValues entries) := by
  induction entries generalizing device with
  | nil => rfl
  | cons entry entries induction =>
      obtain ⟨path, value⟩ := entry
      rw [hearEntries]
      cases found : device.codeFor path with
      | none =>
          have silent : device.buttonValues ((path, value) :: entries) =
              device.buttonValues entries := by
            simp [buttonValues, found]
          rw [silent]
          exact induction isButton
      | some code =>
          simp only
          by_cases pressed : code = "ButtonEvent"
          · subst pressed
            have values : device.buttonValues ((path, value) :: entries) =
                value :: device.buttonValues entries := by
              simp [buttonValues, found]
            rw [values, heardValues, ← has]
            cases known : device.has "ButtonEvent" value with
            | true =>
                rw [record_of_has known]
                exact induction isButton
            | false =>
                cases converts : value.convertible device.levels with
                | false =>
                    obtain ⟨error, thrown⟩ := record_of_poison isButton converts
                    rw [thrown]
                    rfl
                | true =>
                    rw [record_of_button isButton known fun _ => converts]
                    have later := induction
                      (show (device.setState "ButtonEvent" value).listeners = _ from isButton)
                    rw [state_setState, if_pos rfl] at later
                    have announced : (device.setState "ButtonEvent" value).updateValues textual
                        "ButtonEvent" value = (press textual device.levels value).toList :=
                      if_pos ⟨isButton ▸ List.mem_cons_self, rfl⟩
                    simp only [later, announced, if_true]
                    rfl
          · have others : device.buttonValues ((path, value) :: entries) =
                device.buttonValues entries := by
              simp [buttonValues, found, pressed]
            rw [others]
            cases known : device.has code value with
            | true =>
                rw [record_of_has known]
                exact induction isButton
            | false =>
                rw [record_of_button isButton known fun press => absurd press pressed]
                have later := induction
                  (show (device.setState code value).listeners = _ from isButton)
                rw [state_setState, if_neg (Ne.symm pressed)] at later
                have silent : (device.setState code value).updateValues textual code value = [] :=
                  if_neg fun both => pressed both.2
                simp only [later, silent, if_true]
                rfl

/-! ## What is heard of the presses -/

theorem press_of_not_convertible {value : Json} (poison : value.convertible levels = false) :
    press textual levels value = none := by
  simp [press, poison]

theorem heardValues_sublist (held : Option Json) (values : List Json) :
    (heardValues textual levels held values).Sublist (values.filterMap (press textual levels)) := by
  induction values generalizing held with
  | nil => exact List.Sublist.slnil
  | cons value values induction =>
      rw [heardValues, ← List.singleton_append, List.filterMap_append]
      have one : [value].filterMap (press textual levels) = (press textual levels value).toList := by
        cases pressed : press textual levels value <;> simp [pressed]
      rw [one]
      split
      · exact (induction held).trans (List.sublist_append_right _ _)
      · split
        · exact (List.Sublist.refl _).append (induction _)
        · exact List.nil_sublist _

theorem distinct_cons (held : Option Json) (value : Json) (values : List Json) :
    Distinct textual levels held (value :: values) ↔
      (Fresh textual levels held (some value) ∧
        ∀ later ∈ values, press textual levels later ≠ none → value.convertible levels = true) ∧
      Distinct textual levels (some value) values := by
  constructor
  · rintro ⟨fresh, converts⟩
    rw [List.map_cons, List.isChain_cons_cons] at fresh
    rw [List.pairwise_cons] at converts
    exact ⟨⟨fresh.1, converts.1⟩, fresh.2, converts.2⟩
  · rintro ⟨⟨first, before⟩, fresh, converts⟩
    exact ⟨List.isChain_cons_cons.mpr ⟨first, fresh⟩, List.pairwise_cons.mpr ⟨before, converts⟩⟩

theorem distinct_of_silent {values : List Json}
    (silent : ∀ value ∈ values, press textual levels value = none) (held : Option Json) :
    Distinct textual levels held values := by
  induction values generalizing held with
  | nil => exact ⟨.singleton _, .nil⟩
  | cons value values induction =>
      obtain ⟨first, others⟩ := List.forall_mem_cons.mp silent
      refine (distinct_cons held value values).mpr ⟨⟨?_, ?_⟩, induction others _⟩
      · rintro _ _ - same -
        cases same
        exact first
      · exact fun later member pressed => absurd (others later member) pressed

/-- A press that is known already is not heard, so that all the presses are one too many. -/
theorem heardValues_short {held : Option Json} {value : Json} {values : List Json} {number : ℚ}
    (pressed : press textual levels value = some number) :
    heardValues textual levels held values ≠ (value :: values).filterMap (press textual levels) := by
  intro same
  have shorter : (heardValues textual levels held values).length ≤
      (values.filterMap (press textual levels)).length := (heardValues_sublist held values).length_le
  rw [same, List.filterMap_cons_some pressed, List.length_cons] at shorter
  omega

theorem fresh_of_news {held : Option Json} {value : Json}
    (news : (held.any fun known => known.strictEq value) = false) :
    Fresh textual levels held (some value) := by
  rintro before after rfl again equal
  cases again
  rw [Option.any_some, equal] at news
  cases news

/-- Behind a value that throws nothing is heard, so that no press may stand there. -/
theorem nothing_eq_iff {held : Option Json} {value : Json} (poison : value.convertible levels = false)
    (fresh : Fresh textual levels held (some value)) (values : List Json) :
    [] = values.filterMap (press textual levels) ↔ Distinct textual levels held (value :: values) := by
  rw [distinct_cons, eq_comm, List.filterMap_eq_nil_iff]
  constructor
  · intro silent
    exact ⟨⟨fresh, fun later member pressed => absurd (silent later member) pressed⟩,
      distinct_of_silent silent _⟩
  · intro distinct later member
    cases pressed : press textual levels later with
    | none => rfl
    | some number =>
        have throws := distinct.1.2 later member (by simp [pressed])
        rw [poison] at throws
        cases throws

/-- All presses are heard when none repeats what is known and none follows a value that throws. -/
theorem heardValues_eq_iff (held : Option Json) (values : List Json) :
    heardValues textual levels held values = values.filterMap (press textual levels) ↔
      Distinct textual levels held values := by
  induction values generalizing held with
  | nil => exact ⟨fun _ => ⟨.singleton _, .nil⟩, fun _ => rfl⟩
  | cons value values induction =>
      rw [heardValues]
      cases known : held.any fun known => known.strictEq value with
      | true =>
          obtain ⟨same, rfl, equal⟩ := (Option.any_eq_true _ _).mp known
          cases Json.eq_of_strictEq equal
          have converts : value.convertible levels = true := by
            cases poison : value.convertible levels with
            | true => rfl
            | false => exact absurd equal (by simp [Json.strictEq_of_not_convertible poison])
          rw [if_pos rfl]
          cases pressed : press textual levels value with
          | none =>
              rw [List.filterMap_cons_none pressed, induction, distinct_cons]
              have fresh : Fresh textual levels (some value) (some value) := by
                rintro _ _ - again -
                cases again
                exact pressed
              exact ⟨fun distinct => ⟨⟨fresh, fun _ _ _ => converts⟩, distinct⟩, And.right⟩
          | some number =>
              refine ⟨fun heard => absurd heard (heardValues_short pressed), fun distinct => ?_⟩
              rw [distinct_cons] at distinct
              have silent := distinct.1.1 value value rfl rfl equal
              rw [pressed] at silent
              cases silent
      | false =>
          have fresh : Fresh textual levels held (some value) := fresh_of_news known
          rw [if_neg Bool.false_ne_true]
          cases converts : value.convertible levels with
          | true =>
              have one : (value :: values).filterMap (press textual levels) =
                  (press textual levels value).toList ++ values.filterMap (press textual levels) := by
                cases pressed : press textual levels value <;> simp [pressed]
              rw [if_pos rfl, one, List.append_cancel_left_eq, induction, distinct_cons]
              exact ⟨fun distinct => ⟨⟨fresh, fun _ _ _ => converts⟩, distinct⟩, And.right⟩
          | false =>
              rw [if_neg Bool.false_ne_true,
                List.filterMap_cons_none (press_of_not_convertible converts)]
              exact nothing_eq_iff converts fresh values

end

/-- A button device makes HomeKit hear every press, once and in order, exactly when no press says
what the device holds already and none follows a value that throws. -/
theorem presses_heard_iff (textual : Json → Option ℚ) (device : AqaraDevice)
    (isButton : device.listeners = [.button, .push]) (reports : List Json) :
    (device.hear textual reports).1 = device.presses textual (reports.flatMap Json.entries) ↔
      Distinct textual device.levels (device.state "ButtonEvent")
        (device.buttonValues (reports.flatMap Json.entries)) := by
  rw [hear_eq, hearEntries_fst isButton, presses, heardValues_eq_iff]

end AqaraDevice

/-- A report of a press of `button`. -/
def pressed (number : ℚ) : Json := .object [("2.135.32928", .number number)]

/-- A press of `button` by its number. -/
theorem press_number (levels : ℕ) (number : ℚ) :
    AqaraDevice.press (fun _ => none) levels (.number number) =
      if 0 ≤ number ∧ number ≤ 2 then some number else none := by
  simp [AqaraDevice.press, Json.convertible_number, Json.toNumber, Option.filter]

/-- A single press, a long one and a single one again, with a value outside 0..2 between them, are
heard as three presses. -/
theorem different_presses_heard :
    (button.hear (fun _ => none) [pressed 0, pressed 2, pressed 7, pressed 0]).1 = [0, 2, 0] := by
  have values : button.buttonValues ([pressed 0, pressed 2, pressed 7, pressed 0].flatMap
      Json.entries) = [.number 0, .number 2, .number 7, .number 0] := rfl
  have heard := (AqaraDevice.presses_heard_iff (fun _ => none) button rfl
    [pressed 0, pressed 2, pressed 7, pressed 0]).mpr (by
      rw [values]
      refine ⟨?_, ?_⟩
      · simp [AqaraDevice.Fresh, button, Json.strictEq]
      · simp [Json.convertible_number])
  rw [heard, AqaraDevice.presses, values]
  norm_num [List.filterMap_cons, press_number]

/-- A press that comes twice is heard once. -/
theorem repeated_press_lost :
    (button.hear (fun _ => none) [pressed 1, pressed 1]).1 = [1] ∧
      button.presses (fun _ => none) ([pressed 1, pressed 1].flatMap Json.entries) = [1, 1] := by
  have values : button.buttonValues ([pressed 1, pressed 1].flatMap Json.entries) =
      [.number 1, .number 1] := rfl
  constructor
  · rw [AqaraDevice.hear_eq, AqaraDevice.hearEntries_fst rfl, values]
    simp [AqaraDevice.heardValues, button, Json.strictEq, Json.convertible_number, press_number]
  · rw [AqaraDevice.presses, values]
    simp [press_number]

end Port
end AqaraLanLink
