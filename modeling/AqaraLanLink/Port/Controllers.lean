import AqaraLanLink.Port.Convergence
import AqaraLanLink.Port.Echo
import AqaraLanLink.Port.HomeKit

/-!
# HomeKit and Matter

One device that is published to both: whatever it records, the characteristics of the accessory and
the attributes that Matter has been told of do not argue.
-/

namespace AqaraLanLink
namespace Port
namespace Controllers

open Library

/-- What a characteristic of HomeKit and an attribute of Matter have to do with each other. -/
structure Pair where
  homekit : String × String
  matter : String × String
  /-- What the two values have to do with each other. -/
  agree : Attribute → Attribute → Prop

/-- Brightness in percent, and Matter's level. -/
def LevelAgrees (brightness level : Attribute) : Prop :=
  ∃ steps : ℤ, level = .number (some steps) ∧
    brightness = .number (some (MatterTwin.fromMatterLevel (some steps)))

/-- Both say that the door is open, or both that it is closed. -/
def ContactAgrees (contact closed : Attribute) : Prop :=
  contact = .number (some HomeKit.contactNotDetected) ∧ closed = .bool false ∨
    contact = .number (some HomeKit.contactDetected) ∧ closed = .bool true

/-- Degrees, and hundredths of them. -/
def HundredthsAgree (degrees measured : Attribute) : Prop :=
  ∃ value : ℚ, degrees = .number (some value) ∧ measured = .number (some (mathRound (value * 100)))

/-- Whole percent of humidity, and the nearest hundredth that was rounded to them. -/
def HumidityAgrees (percent measured : Attribute) : Prop :=
  ∃ whole hundredths : ℤ, percent = .number (some whole) ∧ measured = .number (some hundredths) ∧
    |hundredths - 100 * whole| ≤ 50

/-- What both controllers show. -/
def pairs : List Pair :=
  [⟨("Lightbulb", "On"), ("onOff", "onOff"), Eq⟩,
    ⟨("Switch", "On"), ("onOff", "onOff"), Eq⟩,
    ⟨("Lightbulb", "Brightness"), ("levelControl", "currentLevel"), LevelAgrees⟩,
    ⟨("Lightbulb", "ColorTemperature"), ("colorControl", "colorTemperatureMireds"), Eq⟩,
    ⟨("ContactSensor", "ContactSensorState"), ("booleanState", "stateValue"), ContactAgrees⟩,
    ⟨("TemperatureSensor", "CurrentTemperature"), ("temperatureMeasurement", "measuredValue"),
      HundredthsAgree⟩,
    ⟨("HumiditySensor", "CurrentRelativeHumidity"), ("relativeHumidityMeasurement", "measuredValue"),
      HumidityAgrees⟩]

/-- The two controllers do not argue. -/
def Agree (homekit matter : Shown) : Prop :=
  ∀ pair ∈ pairs, ∀ shown told, homekit pair.homekit = some shown →
    matter pair.matter = some told → pair.agree shown told

/-- A value is of the type that the catalogue gives the trait. -/
structure Typed (code : String) (value : Json) : Prop where
  contact : code = "ContactSensorState" → ∃ opened, value = .bool opened
  level : code = "CurrentLevel" → ∃ percent : ℤ, 0 ≤ percent ∧ percent ≤ 100 ∧
    value = .number percent
  number : code ∈ ["ColorTemperature", "CurrentTemperature", "CurrentHumidity"] →
    ∃ number, value = .number number

/-- Every value of a device is. -/
def TypedState (device : AqaraDevice) : Prop :=
  ∀ code value, device.state code = some value → Typed code value

section

variable {textual : Json → Option ℚ} {device : AqaraDevice}

theorem orElse_zero (number : Option ℚ) : orElse number (some 0) = some (number.getD 0) := by
  cases number with
  | none => rfl
  | some value =>
      rw [orElse]
      split
      · rename_i zero
        rw [zero, Option.getD_some]
      · rfl

/-- The level of a lamp is a whole percentage, or nothing has been heard of it. -/
theorem exists_percent (textual : Json → Option ℚ) (typed : TypedState device) :
    ∃ percent : ℤ, 0 ≤ percent ∧ percent ≤ 100 ∧
    HomeKit.numberOf textual device.levels (device.state "CurrentLevel") =
      .ok (device.numberOf textual "CurrentLevel") ∧
    (device.numberOf textual "CurrentLevel").getD 0 = percent := by
  rw [AqaraDevice.numberOf]
  cases held : device.state "CurrentLevel" with
  | none => exact ⟨0, le_rfl, by norm_num, rfl, by simp⟩
  | some value =>
      obtain ⟨percent, low, high, rfl⟩ := (typed "CurrentLevel" value held).level rfl
      exact ⟨percent, low, high, rfl, rfl⟩

end

/-! ## Whole runs -/

/-- A device that is published to both, with what HomeKit shows of it. -/
structure State where
  matter : Convergence.State
  /-- What HomeKit shows. -/
  view : Shown

section

variable (textual : Json → Option ℚ)

/-- What a label does: a value that is recorded reaches both, the rest is between Matter and us. -/
def perform (state : State) (label : Convergence.Label) : State where
  matter := Convergence.perform textual state.matter label
  view :=
    match label with
    | .recorded code value _ =>
        ((HomeKit.State.mk state.matter.device state.view).record textual code value).view
    | _ => state.view

/-- `publish` has built the accessory and asked for the registration of one device. -/
def machine (device : AqaraDevice) : Machine State Convergence.Label where
  initial state := Convergence.Begins textual state.matter ∧ state.matter.device = device ∧
    state.view = fun _ => none
  step state label next :=
    Convergence.Possible state.matter label ∧ next = perform textual state label

variable {textual}

variable {device : AqaraDevice} {labels : List Convergence.Label} {state : State}

end

end Controllers
end Port
end AqaraLanLink
