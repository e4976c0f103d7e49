import AqaraLanLink.Port.Resilience
import AqaraLanLink.Library.Overlay

/-!
# The Matter twin of a device

`src/matter.js`: the cluster state that a device shows to Matter, the reports of what has changed of
it, and the commands that arrive from controllers.
-/

namespace AqaraLanLink
namespace Port

open Library

/-! ## Cluster state -/

/-- The value of a cluster attribute; a number that is nothing is `NaN`. -/
inductive Attribute where
  | bool (value : Bool)
  | number (value : Option ℚ)
  deriving DecidableEq, Repr

namespace Attribute

/-- JavaScript's `===`. -/
def strictEq : Attribute → Attribute → Bool
  | bool left, bool right => left == right
  | number (some left), number (some right) => left == right
  | _, _ => false

/-- The value, unless it is `NaN`. -/
def json : Attribute → Option Json
  | bool value => some (.bool value)
  | number value => value.map Json.number

theorem eq_of_strictEq {left right : Attribute} (equal : strictEq left right = true) :
    left = right := by
  cases left with
  | bool left =>
      cases right with
      | bool right => rw [beq_iff_eq.mp equal]
      | number right => cases equal
  | number left =>
      cases left with
      | none => cases equal
      | some left =>
          cases right with
          | bool right => cases equal
          | number right =>
              cases right with
              | none => cases equal
              | some right => rw [beq_iff_eq.mp equal]

end Attribute

/-- The clusters with their attributes, in the order in which `state` lists them. -/
abbrev Clusters := List (String × List (String × Attribute))

/-- What is shown: the values by cluster and attribute. -/
abbrev Shown := String × String → Option Attribute

namespace Clusters

/-- One cluster with its attributes. -/
def cluster (name : String) (attributes : List (String × Attribute)) : Shown :=
  fun key => if key.1 = name then attributes.lookup key.2 else none

/-- A cluster that stands there only for a device with the trait. -/
def given (present : Bool) (name : String) (attributes : List (String × Attribute)) : Clusters :=
  if present then [(name, attributes)] else []

theorem lookup_given (present : Bool) (name key : String) (attributes : List (String × Attribute)) :
    (given present name attributes).lookup key =
      if present = true ∧ key = name then some attributes else none := by
  cases present with
  | false => simp [given]
  | true =>
      rw [given, if_pos rfl, List.lookup_cons]
      cases same : key == name with
      | true => simp [beq_iff_eq.mp same]
      | false => simp [beq_eq_false_iff_ne.mp same]

/-- All of them. -/
def shown (clusters : Clusters) : Shown :=
  fun key => (clusters.lookup key.1).bind fun attributes => attributes.lookup key.2

end Clusters

/-- `Math.round`, which rounds halves up. -/
def mathRound (value : ℚ) : ℤ := ⌊value + 1 / 2⌋

@[simp] theorem mathRound_intCast (value : ℤ) : mathRound value = value := by
  rw [mathRound, add_comm, Int.floor_add_intCast]
  norm_num

/-- JavaScript's `number || otherwise`. -/
def orElse (number otherwise : Option ℚ) : Option ℚ :=
  match number with
  | some value => if value = 0 then otherwise else some value
  | none => otherwise

namespace AqaraDevice

/-- `Number` of the last value of a trait, when that converts. -/
def numberOf (textual : Json → Option ℚ) (device : AqaraDevice) (code : String) : Option ℚ :=
  (device.state code).bind (Json.toNumber textual)

/-- The `min_value` of a trait of the device. -/
def minValue (device : AqaraDevice) (code : String) : Option ℚ :=
  (device.capabilities.entries.lookup code).bind fun trait => trait.spec.minValue

/-- The `max_value` of a trait of the device. -/
def maxValue (device : AqaraDevice) (code : String) : Option ℚ :=
  (device.capabilities.entries.lookup code).bind fun trait => trait.spec.maxValue

end AqaraDevice

namespace MatterTwin

/-- `MATTER_LEVEL_MAX`, what Matter counts where Aqara counts percent. -/
def matterLevelMax : ℤ := 254

/-- `SETTLE_MS`, how long after a report a command is taken for its echo. -/
def settleMs : ℤ := 4000

/-- Percent to Matter's level. -/
def toMatterLevel (percent : Option ℚ) : ℤ :=
  max 1 (min matterLevelMax (mathRound (percent.getD 0 * (matterLevelMax / 100))))

/-- Matter's level to percent. -/
def fromMatterLevel (level : Option ℚ) : ℤ :=
  max 0 (min 100 (mathRound (level.getD 0 / (matterLevelMax / 100))))

variable (textual : Json → Option ℚ)

/-- The clusters of a device whose numbers all convert. -/
def clusters (device : AqaraDevice) : Clusters :=
  .given (device.can "OnOff") "onOff" [("onOff", .bool (device.has "OnOff" (.bool true)))] ++
  .given (device.can "CurrentLevel") "levelControl"
    [("currentLevel", .number (some (toMatterLevel (device.numberOf textual "CurrentLevel"))))] ++
  .given (device.can "ColorTemperature") "colorControl"
    [("colorTemperatureMireds", .number
        ((orElse (device.numberOf textual "ColorTemperature")
          (device.minValue "ColorTemperature")).map fun mireds => mathRound mireds)),
      ("colorTempPhysicalMinMireds", .number
        ((device.minValue "ColorTemperature").map fun low => mathRound low)),
      ("colorTempPhysicalMaxMireds", .number
        ((device.maxValue "ColorTemperature").map fun high => mathRound high)),
      ("coupleColorTempToLevelMinMireds", .number
        ((device.minValue "ColorTemperature").map fun low => mathRound low)),
      ("colorMode", .number (some 2))] ++
  .given (device.can "ContactSensorState") "booleanState"
    [("stateValue", .bool !(device.has "ContactSensorState" (.bool true)))] ++
  .given (device.can "CurrentTemperature") "temperatureMeasurement"
    [("measuredValue",
      .number (some (mathRound ((device.numberOf textual "CurrentTemperature").getD 0 * 100))))] ++
  .given (device.can "CurrentHumidity") "relativeHumidityMeasurement"
    [("measuredValue",
      .number (some (mathRound ((device.numberOf textual "CurrentHumidity").getD 0 * 100))))]

/-- `state`.  `Number` throws at a value that does not convert. -/
def state (device : AqaraDevice) : Except String Clusters := do
  device.matterConversions
  pure (clusters textual device)

variable {textual}

theorem state_eq_ok_iff {device : AqaraDevice} {found : Clusters} :
    state textual device = .ok found ↔
      device.matterConversions = .ok () ∧ found = clusters textual device := by
  rw [state]
  cases device.matterConversions with
  | error error => simp
  | ok done => exact ⟨fun same => ⟨rfl, (Except.ok.inj same).symm⟩, fun both => by rw [both.2]; rfl⟩

end MatterTwin

/-! ## Reports and commands -/

/-- The fields of `MatterTwin` besides the device and the API. -/
structure MatterTwin where
  /-- The accessory UUID, once there is a descriptor. -/
  uuid : Option String
  /-- The attributes that were last reported. -/
  reported : Shown
  /-- When a cluster was last reported, in milliseconds. -/
  reportedAt : String → Option ℤ

/-- What a controller asks for, as the handlers get it. -/
inductive MatterCommand where
  | on
  | off
  | moveToLevel (level : Option ℚ)
  | moveToLevelWithOnOff (level : Option ℚ)
  | moveToColorTemperatureLogic (mireds : Option ℚ)
  deriving DecidableEq, Repr

namespace MatterCommand

/-- The cluster that a command arrives on. -/
def cluster : MatterCommand → String
  | on | off => "onOff"
  | moveToLevel _ | moveToLevelWithOnOff _ => "levelControl"
  | moveToColorTemperatureLogic _ => "colorControl"

/-- The trait that it asks for. -/
def code : MatterCommand → String
  | on | off => "OnOff"
  | moveToLevel _ | moveToLevelWithOnOff _ => "CurrentLevel"
  | moveToColorTemperatureLogic _ => "ColorTemperature"

/-- What it asks for. -/
def value : MatterCommand → Attribute
  | on => .bool true
  | off => .bool false
  | moveToLevel level | moveToLevelWithOnOff level =>
      .number (some (MatterTwin.fromMatterLevel level))
  | moveToColorTemperatureLogic mireds => .number (mireds.map fun mireds => mathRound mireds)

end MatterCommand

/-- What comes of a command. -/
inductive Obeyed where
  /-- It is answered at once, with `success`. -/
  | answered (success : Bool)
  /-- It waits for `set` of this value. -/
  | sets (value : Json)

namespace MatterTwin

/-- A new twin. -/
def create : MatterTwin := ⟨none, fun _ => none, fun _ => none⟩

/-- `remember`. -/
def remember (twin : MatterTwin) (now : ℤ) (cluster : String)
    (attributes : List (String × Attribute)) : MatterTwin :=
  { twin with
    reported := overlay twin.reported (Clusters.cluster cluster attributes)
    reportedAt := Function.update twin.reportedAt cluster (some now) }

/-- `justReported`. -/
def justReported (twin : MatterTwin) (now : ℤ) (cluster : String) : Bool :=
  now - (twin.reportedAt cluster).getD 0 < settleMs

/-- `command`. -/
def command (twin : MatterTwin) (device : AqaraDevice) (now : ℤ) (cluster code : String)
    (value : Attribute) : Obeyed :=
  match value.json with
  | none => .answered false
  | some value =>
      if twin.justReported now cluster || device.has code value then .answered true
      else .sets value

/-- The handler of a command, when there is one. -/
def handle (twin : MatterTwin) (device : AqaraDevice) (now : ℤ) (command : MatterCommand) :
    Option Obeyed :=
  if device.can command.code then
    some (twin.command device now command.cluster command.code command.value)
  else none

/-- The write that the hub is asked for when a command arrives. -/
def hubWrite (twin : MatterTwin) (device : AqaraDevice) (now : ℤ) (command : MatterCommand) :
    Option (String × List (String × Json)) :=
  match twin.handle device now command with
  | some (.sets value) => device.setRequest command.code value
  | _ => none

/-- The attributes of a cluster that are not what was last reported. -/
def changed (twin : MatterTwin) (cluster : String) (attributes : List (String × Attribute)) :
    List (String × Attribute) :=
  attributes.filter fun entry =>
    !(twin.reported (cluster, entry.1)).any fun last => last.strictEq entry.2

/-- The loop of `report`, with the calls of `updateAccessoryState` that it makes. -/
def reportLoop (twin : MatterTwin) (now : ℤ) : Clusters → MatterTwin × Clusters
  | [] => (twin, [])
  | (cluster, attributes) :: clusters =>
      let changed := twin.changed cluster attributes
      if changed.isEmpty then reportLoop twin now clusters
      else
        let (twin, updates) := reportLoop (twin.remember now cluster attributes) now clusters
        (twin, (cluster, changed) :: updates)

variable (textual : Json → Option ℚ)

/-- `report`, where the API has `updateAccessoryState`. -/
def report (twin : MatterTwin) (device : AqaraDevice) (now : ℤ) :
    Except String (MatterTwin × Clusters) :=
  if twin.uuid = none then .ok (twin, [])
  else do
    let clusters ← state textual device
    pure (twin.reportLoop now clusters)

/-- `descriptor`, as far as its clusters go. -/
def descriptor (twin : MatterTwin) (device : AqaraDevice) (uuid : String) (now : ℤ) :
    Except String (MatterTwin × Clusters) := do
  let clusters ← state textual device
  pure (clusters.foldl (fun twin cluster => twin.remember now cluster.1 cluster.2)
    { twin with uuid := some uuid }, clusters)

end MatterTwin
end Port
end AqaraLanLink
