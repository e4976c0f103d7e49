import AqaraLanLink.Library.Runs
import AqaraLanLink.Port.MatterTwin

/-!
# The HomeKit accessory of a device

`src/homekit.js`: what a device becomes, how its characteristics read and write the traits behind
them, and what HomeKit is told when the device changes.
-/

namespace AqaraLanLink
namespace Port

open Library

/-- A value that HomeKit sets a characteristic to. -/
inductive Requested where
  | bool (value : Bool)
  | number (value : ℚ)
  deriving DecidableEq, Repr

/-- `Number` of it. -/
def Requested.toNumber : Requested → ℚ
  | bool value => if value then 1 else 0
  | number value => value

/-- A characteristic that reads a trait: what a call of `bind` wires, or the `onGet` of `battery`. -/
structure Binding where
  service : String
  characteristic : String
  /-- The trait code behind it. -/
  code : String
  /-- `how.read`. -/
  read : Option Json → Except String Attribute
  /-- `how.write`, when it can be written. -/
  write : Option (Requested → Json)
  /-- `how.props`, the least value and the largest. -/
  props : Option (Attribute × Attribute)
  /-- Whether a pusher is remembered for it. -/
  pushed : Bool

/-- Where HomeKit shows it. -/
def Binding.key (binding : Binding) : String × String := (binding.service, binding.characteristic)

namespace HomeKit

/-! ## Reading and writing -/

/-- `LOW_BATTERY_PERCENT`. -/
def lowBatteryPercent : ℚ := 20

/-- `CONTACT_NOT_DETECTED` and `CONTACT_DETECTED`. -/
def contactNotDetected : ℚ := 1
def contactDetected : ℚ := 0

/-- `BATTERY_LEVEL_LOW` and `BATTERY_LEVEL_NORMAL`. -/
def batteryLevelLow : ℚ := 1
def batteryLevelNormal : ℚ := 0

/-- `value => value === true`. -/
def readOn (value : Option Json) : Except String Attribute :=
  .ok (.bool (value.any fun value => value.strictEq (.bool true)))

/-- `value => !!value`. -/
def writeOn : Requested → Json
  | .bool value => .bool value
  | .number value => .bool (value ≠ 0)

/-- Aqara reports true for an open door; HomeKit calls that "not detected". -/
def readContact (value : Option Json) : Except String Attribute :=
  .ok (.number (some (if value.any Json.jsTruthy then contactNotDetected else contactDetected)))

section

variable (textual : Json → Option ℚ) (levels : ℕ)

/-- `Number(value)`, where nothing is `NaN`. -/
def numberOf : Option Json → Except String (Option ℚ)
  | none => .ok none
  | some value => do
      value.toPrimitive levels
      pure (value.toNumber textual)

/-- `value => Number(value) || 0`. -/
def readNumber (value : Option Json) : Except String Attribute := do
  let number ← numberOf textual levels value
  pure (.number (orElse number (some 0)))

/-- `value => Math.round(Number(value) || otherwise)`. -/
def readRounded (otherwise : Option ℚ) (value : Option Json) : Except String Attribute := do
  let number ← numberOf textual levels value
  pure (.number ((orElse number otherwise).map fun number => mathRound number))

/-- The low-battery flag. -/
def readLow (value : Option Json) : Except String Attribute := do
  let number ← numberOf textual levels value
  pure (.number (some (if number = some 1 then batteryLevelLow else batteryLevelNormal)))

/-- `value => Math.max(0, Math.min(100, Math.round(Number(value) || 0)))`. -/
def readPercent (value : Option Json) : Except String Attribute := do
  let number ← numberOf textual levels value
  pure (.number (some (max 0 (min 100 (mathRound (number.getD 0))) : ℤ)))

/-- The level that stands for the low-battery flag. -/
def readSpare (value : Option Json) : Except String Attribute := do
  let number ← numberOf textual levels value
  pure (.number (some (if number = some 1 then lowBatteryPercent else 100)))

/-! ## What a device becomes -/

variable (device : AqaraDevice)

/-- `On` of a light or of a switch. -/
def bindOn (service : String) : Binding where
  service
  characteristic := "On"
  code := "OnOff"
  read := readOn
  write := some writeOn
  props := none
  pushed := true

def bindBrightness : Binding where
  service := "Lightbulb"
  characteristic := "Brightness"
  code := "CurrentLevel"
  read := readRounded textual device.levels (some 0)
  write := some fun value => .number value.toNumber
  props := none
  pushed := true

/-- Aqara counts colour temperature in mireds, as HomeKit does. -/
def bindColorTemperature : Binding where
  service := "Lightbulb"
  characteristic := "ColorTemperature"
  code := "ColorTemperature"
  read := readRounded textual device.levels (device.minValue "ColorTemperature")
  write := some fun value => .number (mathRound value.toNumber)
  props := some
    (.number ((device.minValue "ColorTemperature").map fun low => mathRound low),
      .number ((device.maxValue "ColorTemperature").map fun high => mathRound high))
  pushed := true

def bindTemperature : Binding where
  service := "TemperatureSensor"
  characteristic := "CurrentTemperature"
  code := "CurrentTemperature"
  read := readNumber textual device.levels
  write := none
  props := none
  pushed := true

def bindHumidity : Binding where
  service := "HumiditySensor"
  characteristic := "CurrentRelativeHumidity"
  code := "CurrentHumidity"
  read := readRounded textual device.levels (some 0)
  write := none
  props := none
  pushed := true

def bindContact : Binding where
  service := "ContactSensor"
  characteristic := "ContactSensorState"
  code := "ContactSensorState"
  read := readContact
  write := none
  props := none
  pushed := true

def bindLow : Binding where
  service := "Battery"
  characteristic := "StatusLowBattery"
  code := "StateOfLowBat"
  read := readLow textual device.levels
  write := none
  props := none
  pushed := true

def bindPercent : Binding where
  service := "Battery"
  characteristic := "BatteryLevel"
  code := "BatteryPercentage"
  read := readPercent textual device.levels
  write := none
  props := none
  pushed := true

/-- Without a percentage the level is answered from the flag, and nothing pushes it. -/
def bindSpare : Binding where
  service := "Battery"
  characteristic := "BatteryLevel"
  code := "StateOfLowBat"
  read := readSpare textual device.levels
  write := none
  props := none
  pushed := false

/-- `light`; nothing is `false`. -/
def light : Option (List Binding) :=
  if ¬ device.can "OnOff" ∨ ¬ device.can "CurrentLevel" then none
  else
    some ([bindOn "Lightbulb", bindBrightness textual device] ++
      if device.can "ColorTemperature" then [bindColorTemperature textual device] else [])

/-- `outlet`. -/
def outlet : Option (List Binding) :=
  if ¬ device.can "OnOff" then none else some [bindOn "Switch"]

/-- `sensors`. -/
def sensors : Option (List Binding) :=
  let warmth := if device.can "CurrentTemperature" then [bindTemperature textual device] else []
  let humidity := if device.can "CurrentHumidity" then [bindHumidity textual device] else []
  if (warmth ++ humidity).isEmpty then none else some (warmth ++ humidity)

/-- `contact`. -/
def contact : Option (List Binding) :=
  if ¬ device.can "ContactSensorState" then none else some [bindContact]

/-- `button`, which listens to presses and binds nothing. -/
def button : Option (List Binding) :=
  if ¬ device.can "ButtonEvent" then none else some []

/-- `battery`. -/
def battery : List Binding :=
  if ¬ device.can "StateOfLowBat" then []
  else [bindLow textual device,
    if device.can "BatteryPercentage" then bindPercent textual device else bindSpare textual device]

/-- `build`: the characteristics that it wires, or nothing when HomeKit can show nothing. -/
def build : Option (List Binding) :=
  ((light textual device).or ((outlet device).or ((sensors textual device).or
    ((contact device).or (button device))))).map fun built => built ++ battery textual device

/-- The characteristics of the accessory. -/
def bindings : List Binding := (build textual device).getD []

/-! ### What is wired -/

/-- Characteristics of distinct places that read no press, as `build` wires them in one call. -/
structure Wired (built : List Binding) : Prop where
  distinct : (built.map Binding.key).Nodup
  quiet : ∀ binding ∈ built, binding.code ≠ "ButtonEvent"

/-- What a device becomes: nothing of it is its battery, and all of it is pushed. -/
structure Furnished (built : List Binding) : Prop extends Wired built where
  apart : ∀ binding ∈ built, binding.service ≠ "Battery"
  pushed : ∀ binding ∈ built, binding.pushed = true

variable {textual device}

theorem furnished_light {built : List Binding} (made : light textual device = some built) :
    Furnished built := by
  rw [light] at made
  split at made
  · cases made
  · cases made
    split
    · refine ⟨⟨?_, ?_⟩, ?_, ?_⟩ <;>
        simp [bindOn, bindBrightness, bindColorTemperature, Binding.key]
    · refine ⟨⟨?_, ?_⟩, ?_, ?_⟩ <;> simp [bindOn, bindBrightness, Binding.key]

theorem furnished_outlet {built : List Binding} (made : outlet device = some built) :
    Furnished built := by
  rw [outlet] at made
  split at made
  · cases made
  · cases made
    refine ⟨⟨by decide, ?_⟩, ?_, ?_⟩ <;> simp [bindOn]

theorem furnished_sensors {built : List Binding} (made : sensors textual device = some built) :
    Furnished built := by
  have choices : built = [bindTemperature textual device, bindHumidity textual device] ∨
      built = [bindTemperature textual device] ∨ built = [bindHumidity textual device] := by
    rw [sensors] at made
    cases warmth : device.can "CurrentTemperature" <;>
      cases humidity : device.can "CurrentHumidity" <;> simp_all
  rcases choices with rfl | rfl | rfl <;> refine ⟨⟨?_, ?_⟩, ?_, ?_⟩ <;>
    simp [bindTemperature, bindHumidity, Binding.key]

theorem furnished_contact {built : List Binding} (made : contact device = some built) :
    Furnished built := by
  rw [contact] at made
  split at made
  · cases made
  · cases made
    refine ⟨⟨by decide, ?_⟩, ?_, ?_⟩ <;> simp [bindContact]

theorem furnished_button {built : List Binding} (made : button device = some built) :
    Furnished built := by
  rw [button] at made
  split at made
  · cases made
  · cases made
    refine ⟨⟨by decide, ?_⟩, ?_, ?_⟩ <;> simp

/-- What `build` wires for a device and for its battery. -/
theorem exists_furnished {built : List Binding} (made : build textual device = some built) :
    ∃ furnished, Furnished furnished ∧ built = furnished ++ battery textual device := by
  obtain ⟨furnished, first, rfl⟩ := Option.map_eq_some_iff.mp made
  refine ⟨furnished, ?_, rfl⟩
  simp only [Option.or_eq_some_iff] at first
  rcases first with lit | ⟨-, switched | ⟨-, measured | ⟨-, opened | ⟨-, pressed⟩⟩⟩⟩
  · exact furnished_light lit
  · exact furnished_outlet switched
  · exact furnished_sensors measured
  · exact furnished_contact opened
  · exact furnished_button pressed

/-- The characteristics are in distinct places, and none reads a press. -/
theorem wired_bindings (textual : Json → Option ℚ) (device : AqaraDevice) :
    Wired (bindings textual device) := by
  rw [bindings]
  cases made : build textual device with
  | none => exact ⟨List.nodup_nil, fun _ member => absurd member List.not_mem_nil⟩
  | some built =>
      obtain ⟨furnished, first, rfl⟩ := exists_furnished made
      have powered : Wired (battery textual device) ∧
          ∀ binding ∈ battery textual device, binding.service = "Battery" := by
        rw [battery]
        split
        · exact ⟨⟨by simp, by simp⟩, by simp⟩
        · split
          · refine ⟨⟨?_, ?_⟩, ?_⟩ <;> simp [bindLow, bindPercent, Binding.key]
          · refine ⟨⟨?_, ?_⟩, ?_⟩ <;> simp [bindLow, bindSpare, Binding.key]
      refine ⟨?_, ?_⟩
      · rw [Option.getD_some, List.map_append]
        refine List.Nodup.append first.distinct powered.1.distinct fun key left right => ?_
        obtain ⟨binding, member, rfl⟩ := List.mem_map.mp left
        obtain ⟨other, member', same⟩ := List.mem_map.mp right
        exact first.apart binding member
          ((congrArg Prod.fst same).symm.trans (powered.2 other member'))
      · exact fun binding member => (List.mem_append.mp member).elim (first.quiet binding)
          (powered.1.quiet binding)

theorem sensors_eq_none_iff : sensors textual device = none ↔
    device.can "CurrentTemperature" = false ∧ device.can "CurrentHumidity" = false := by
  rw [sensors]
  cases device.can "CurrentTemperature" <;> cases device.can "CurrentHumidity" <;> simp

/-- `build` returns false exactly when nothing listens. -/
theorem build_eq_none_iff : build textual device = none ↔ device.homekitListeners = [] := by
  have outlet_iff : outlet device = none ↔ device.can "OnOff" = false := by simp [outlet]
  have contact_iff : contact device = none ↔ device.can "ContactSensorState" = false := by
    simp [contact]
  have button_iff : button device = none ↔ device.can "ButtonEvent" = false := by simp [button]
  have light_of_outlet : device.can "OnOff" = false → light textual device = none := by
    intro dark
    simp [light, dark]
  have listeners_iff : device.homekitListeners = [] ↔ (device.can "OnOff" = false ∧
      device.can "CurrentTemperature" = false ∧ device.can "CurrentHumidity" = false ∧
        device.can "ContactSensorState" = false) ∧ device.can "ButtonEvent" = false := by
    rw [AqaraDevice.homekitListeners]
    split
    · rename_i built
      simp only [Bool.or_eq_true] at built
      simp only [reduceCtorEq, false_iff]
      rintro ⟨⟨dark, cold, dry, shut⟩, -⟩
      simp [dark, cold, dry, shut] at built
    · split
      · simp [*]
      · simp_all
  simp only [build, Option.map_eq_none_iff, Option.or_eq_none_iff, outlet_iff, sensors_eq_none_iff,
    contact_iff, button_iff, listeners_iff]
  constructor
  · rintro ⟨-, dark, ⟨cold, dry⟩, shut, silent⟩
    exact ⟨⟨dark, cold, dry, shut⟩, silent⟩
  · rintro ⟨⟨dark, cold, dry, shut⟩, silent⟩
    exact ⟨light_of_outlet dark, dark, ⟨cold, dry⟩, shut, silent⟩

end

/-! ## What HomeKit is told -/

/-- The device and what HomeKit shows of it. -/
structure State where
  device : AqaraDevice
  view : Shown

/-- What happens. -/
inductive Label where
  /-- The device records a value: a report of the hub, or a command of another controller. -/
  | recorded (code : String) (value : Json)
  /-- HomeKit asks for a characteristic. -/
  | asked (key : String × String)
  /-- HomeKit sets a characteristic, and this is what comes of the write to the hub. -/
  | requested (key : String × String) (value : Requested) (written : Except String Json)

/-- A characteristic is given what is read for it.  What throws is caught by `push`, or answers
HomeKit with an error. -/
def refresh (device : AqaraDevice) (view : Shown) (binding : Binding) : Shown :=
  match binding.read (device.state binding.code) with
  | .ok value => Function.update view binding.key (some value)
  | .error _ => view

section

variable (textual : Json → Option ℚ)

/-- `push`. -/
def push (device : AqaraDevice) (view : Shown) : Shown :=
  ((bindings textual device).filter Binding.pushed).foldl (refresh device) view

/-- The `changed` event reaches the listeners one after the other, up to one that throws. -/
def emit (device : AqaraDevice) (code : String) (value : Json) : List Listener → Shown → Shown
  | [], view => view
  | listener :: listeners, view =>
      match device.runListener code value listener with
      | .error _ => view
      | .ok _ =>
          emit device code value listeners (if listener = .push then push textual device view else view)

/-- `record`. -/
def State.record (state : State) (code : String) (value : Json) : State :=
  if state.device.has code value then state
  else
    let device := state.device.setState code value
    ⟨device, emit textual device code value device.listeners state.view⟩

/-- The characteristic in a place. -/
def bindingAt (device : AqaraDevice) (key : String × String) : Option Binding :=
  (bindings textual device).find? fun binding => binding.key == key

/-- What a label does. -/
def perform (state : State) : Label → State
  | .recorded code value => state.record textual code value
  | .asked key =>
      match bindingAt textual state.device key with
      | none => state
      | some binding => { state with view := refresh state.device state.view binding }
  | .requested key value written =>
      match (bindingAt textual state.device key).bind fun binding =>
          binding.write.map fun write => (binding.code, write value) with
      | none => state
      | some (code, value) =>
          let result := state.device.set code value written
          ⟨result.device, result.announced.foldl (fun view change =>
            emit textual result.device change.1 change.2 result.device.listeners view) state.view⟩

/-- `publish` has built the accessory of a device that nothing has been heard of; only Matter
attaches a listener afterwards. -/
structure Attached (device : AqaraDevice) : Prop where
  unheard : ∀ code, device.state code = none
  listens : ∃ others, device.listeners = device.homekitListeners ++ others ∧
    ∀ listener ∈ others, listener = .matter

/-- The labelled transition system of a device and its accessory. -/
def machine (device : AqaraDevice) : Machine State Label where
  initial state := state = ⟨device, fun _ => none⟩
  step state label next := next = perform textual state label

/-- A characteristic shows what is read for it now, unless nothing has been heard of any trait that
the accessory reads. -/
def Shows (state : State) (binding : Binding) : Prop :=
  ∀ value, binding.read (state.device.state binding.code) = .ok value →
    state.view binding.key = some value ∨ state.view binding.key = none ∧
      ∀ other ∈ bindings textual state.device, state.device.state other.code = none

/-- Every characteristic whose read does not throw shows what is read. -/
def Current (state : State) : Prop := ∀ binding ∈ bindings textual state.device, Shows textual state binding

/-- The battery level of the accessory is answered from the low-battery flag. -/
def Spare (device : AqaraDevice) : Prop :=
  device.homekitListeners ≠ [] ∧ device.can "StateOfLowBat" = true ∧
    device.can "BatteryPercentage" = false

end

/-! ### One step -/

section

variable {textual : Json → Option ℚ} {device : AqaraDevice} {view : Shown} {built : List Binding}
  {binding : Binding}

theorem refresh_of_ne {key : String × String} (elsewhere : binding.key ≠ key) :
    refresh device view binding key = view key := by
  rw [refresh]
  cases binding.read (device.state binding.code) with
  | ok value => exact Function.update_of_ne (Ne.symm elsewhere) _ _
  | error error => rfl

theorem refresh_of_ok {value : Attribute}
    (reads : binding.read (device.state binding.code) = .ok value) :
    refresh device view binding binding.key = some value := by
  rw [refresh, reads]
  exact Function.update_self _ _ _

theorem foldl_refresh_of_not_mem {key : String × String} (absent : key ∉ built.map Binding.key) :
    built.foldl (refresh device) view key = view key := by
  induction built generalizing view with
  | nil => rfl
  | cons other built induction =>
      obtain ⟨first, others⟩ := not_or.mp (mt List.mem_cons.mpr absent)
      rw [List.foldl_cons, induction others, refresh_of_ne (Ne.symm first)]

/-- Each characteristic shows what is read for it, whatever the others throw. -/
theorem foldl_refresh_of_mem (distinct : (built.map Binding.key).Nodup) (member : binding ∈ built)
    {value : Attribute} (reads : binding.read (device.state binding.code) = .ok value) :
    built.foldl (refresh device) view binding.key = some value := by
  induction built generalizing view with
  | nil => cases member
  | cons other built induction =>
      obtain ⟨fresh, others⟩ := List.nodup_cons.mp distinct
      rw [List.foldl_cons]
      rcases List.mem_cons.mp member with rfl | member
      · rw [foldl_refresh_of_not_mem fresh, refresh_of_ok reads]
      · exact induction others member

theorem push_of_ok (member : binding ∈ bindings textual device) (pushed : binding.pushed = true)
    {value : Attribute} (reads : binding.read (device.state binding.code) = .ok value) :
    push textual device view binding.key = some value :=
  foldl_refresh_of_mem
    ((wired_bindings textual device).distinct.sublist (List.filter_sublist.map _))
    (List.mem_filter.mpr ⟨member, pushed⟩) reads

theorem push_of_not_mem {key : String × String}
    (absent : key ∉ (bindings textual device).map Binding.key) :
    push textual device view key = view key :=
  foldl_refresh_of_not_mem fun reached => absent ((List.filter_sublist.map _).subset reached)

theorem emit_matter {code : String} {value : Json} {others : List Listener}
    (matter : ∀ listener ∈ others, listener = .matter) :
    emit textual device code value others view = view := by
  induction others with
  | nil => rfl
  | cons listener others induction =>
      obtain ⟨rfl, rest⟩ := List.forall_mem_cons.mp matter
      rw [emit]
      split
      · rfl
      · exact induction rest

/-- The accessory is pushed, unless a press throws before it or there is nothing to push. -/
theorem emit_cases (code : String) (value : Json) {others : List Listener}
    (listens : device.listeners = device.homekitListeners ++ others)
    (matter : ∀ listener ∈ others, listener = .matter) :
    emit textual device code value device.listeners view = push textual device view ∨
      (code = "ButtonEvent" ∨ bindings textual device = []) ∧
        emit textual device code value device.listeners view = view := by
  have choices : device.homekitListeners = [] ∨ device.homekitListeners = [.push] ∨
      device.homekitListeners = [.button, .push] := by
    rw [AqaraDevice.homekitListeners]
    split
    · exact .inr (.inl rfl)
    · split
      · exact .inr (.inr rfl)
      · exact .inl rfl
  rw [listens]
  rcases choices with same | same | same
  · refine .inr ⟨.inr ?_, ?_⟩
    · rw [bindings, build_eq_none_iff.mpr same]
      rfl
    · rw [same]
      exact emit_matter matter
  · rw [same]
    exact .inl (emit_matter matter)
  · rw [same]
    by_cases press : code = "ButtonEvent"
    · cases threw : device.runListener code value .button with
      | ok done =>
          refine .inl ?_
          simp only [List.cons_append, List.nil_append, emit, threw]
          exact emit_matter matter
      | error error =>
          refine .inr ⟨.inl press, ?_⟩
          simp only [List.cons_append, List.nil_append, emit, threw]
    · have quiet : device.runListener code value .button = .ok () := if_pos press
      refine .inl ?_
      simp only [List.cons_append, List.nil_append, emit, quiet]
      exact emit_matter matter

end

/-! ### Whole runs -/

section

variable {textual : Json → Option ℚ} {device : AqaraDevice}

/-- What holds throughout a run from an accessory that has just been built. -/
structure Kept (textual : Json → Option ℚ) (device : AqaraDevice) (state : State) : Prop where
  /-- The device has the traits and the listeners it had. -/
  capabilities : state.device.capabilities = device.capabilities
  listens : ∃ others, state.device.listeners = state.device.homekitListeners ++ others ∧
    ∀ listener ∈ others, listener = .matter
  /-- What is pushed is current. -/
  told : ∀ binding ∈ bindings textual state.device, binding.pushed = true →
    Shows textual state binding
  /-- HomeKit shows nothing but the characteristics of the accessory. -/
  framed : ∀ key ∉ (bindings textual state.device).map Binding.key, state.view key = none

theorem kept_announced {state : State} (kept : Kept textual device state) (code : String)
    (value : Json) : Kept textual device ⟨state.device.setState code value,
      emit textual (state.device.setState code value) code value
        (state.device.setState code value).listeners state.view⟩ := by
  obtain ⟨others, listens, matter⟩ := kept.listens
  have announced : emit textual (state.device.setState code value) code value
      (state.device.setState code value).listeners state.view =
        push textual (state.device.setState code value) state.view ∨
      (code = "ButtonEvent" ∨ bindings textual (state.device.setState code value) = []) ∧
        emit textual (state.device.setState code value) code value
          (state.device.setState code value).listeners state.view = state.view :=
    emit_cases code value listens matter
  have framed : ∀ key ∉ (bindings textual (state.device.setState code value)).map Binding.key,
      emit textual (state.device.setState code value) code value
        (state.device.setState code value).listeners state.view key = none := by
    intro key absent
    rcases announced with pushes | ⟨-, same⟩
    · rw [pushes, push_of_not_mem absent, kept.framed key absent]
    · rw [same, kept.framed key absent]
  refine ⟨kept.capabilities, ⟨others, listens, matter⟩,
    fun binding member pushed shown reads => ?_, framed⟩
  rcases announced with pushes | ⟨rfl | nothing, same⟩
  · rw [pushes]
    exact .inl (push_of_ok member pushed reads)
  · have heard (other : Binding) (read : other ∈ bindings textual state.device) :
        (state.device.setState "ButtonEvent" value).state other.code =
          state.device.state other.code :=
      Function.update_of_ne ((wired_bindings textual state.device).quiet other read) _ _
    dsimp only at reads
    rw [heard binding member] at reads
    rw [same]
    refine (kept.told binding member pushed shown reads).imp_right fun nothing => ?_
    exact ⟨nothing.1, fun other read => (heard other read).trans (nothing.2 other read)⟩
  · rw [nothing] at member
    cases member

theorem kept_record {state : State} (kept : Kept textual device state) (code : String)
    (value : Json) : Kept textual device (state.record textual code value) := by
  rw [State.record]
  split
  · exact kept
  · exact kept_announced kept code value

theorem kept_asked {state : State} (kept : Kept textual device state) (key : String × String) :
    Kept textual device (perform textual state (.asked key)) := by
  rw [perform]
  cases found : bindingAt textual state.device key with
  | none => exact kept
  | some asked =>
      have inside := List.mem_of_find?_eq_some found
      have framed : ∀ key ∉ (bindings textual state.device).map Binding.key,
          refresh state.device state.view asked key = none := by
        intro key absent
        rw [refresh_of_ne fun same => absent (List.mem_map.mpr ⟨asked, inside, same⟩),
          kept.framed key absent]
      refine ⟨kept.capabilities, kept.listens, fun binding member pushed shown reads => ?_, framed⟩
      by_cases same : asked.key = binding.key
      · have unique : asked = binding :=
          List.inj_on_of_nodup_map (wired_bindings textual state.device).distinct inside member same
        rw [unique]
        exact .inl (refresh_of_ok reads)
      · change refresh _ _ asked _ = _ ∨ refresh _ _ asked _ = _ ∧ _
        rw [refresh_of_ne same]
        exact kept.told binding member pushed shown reads

/-- A command leaves the device as it was, or records a value. -/
theorem perform_requested (state : State) (key : String × String) (value : Requested)
    (written : Except String Json) :
    perform textual state (.requested key value written) = state ∨
      ∃ code value', perform textual state (.requested key value written) =
        state.record textual code value' := by
  rw [perform]
  split
  · exact .inl rfl
  · rename_i code value' _
    rw [AqaraDevice.set]
    split
    · exact .inl rfl
    · rename_i trait _
      split
      · cases written with
        | error error => exact .inl rfl
        | ok answer =>
            refine .inr ⟨code, AqaraDevice.clamp trait.spec value', ?_⟩
            simp only [AqaraDevice.afterWrite, State.record]
            split
            · rfl
            · rfl
      · exact .inl rfl

theorem kept_perform {state : State} (kept : Kept textual device state) (label : Label) :
    Kept textual device (perform textual state label) := by
  cases label with
  | recorded code value => exact kept_record kept code value
  | asked key => exact kept_asked kept key
  | requested key value written =>
      rcases perform_requested state key value written with same | ⟨code, value', same⟩
      · rwa [same]
      · rw [same]
        exact kept_record kept code value'

theorem kept_of_run (attached : Attached device) {labels : List Label} {state : State}
    (run : (machine textual device).Run (fun _ _ => True) labels state) :
    Kept textual device state := by
  refine run.invariant ?_ fun before label next kept _ steps => ?_
  · rintro _ rfl
    exact ⟨rfl, attached.listens,
      fun _ _ _ _ _ => .inr ⟨rfl, fun other _ => attached.unheard other.code⟩, fun _ _ => rfl⟩
  · rw [show next = perform textual before label from steps]
    exact kept_perform kept label

/-- Everything is pushed but a battery level that is answered from the flag. -/
theorem pushed_of_not_spare (full : ¬ Spare device) {binding : Binding}
    (member : binding ∈ bindings textual device) : binding.pushed = true := by
  rw [bindings] at member
  cases made : build textual device with
  | none =>
      rw [made] at member
      cases member
  | some built =>
      obtain ⟨furnished, first, rfl⟩ := exists_furnished made
      rw [made, Option.getD_some, List.mem_append] at member
      refine member.elim (first.pushed binding) fun power => ?_
      have listens : device.homekitListeners ≠ [] := by
        rw [← build_eq_none_iff.ne, made]
        simp
      rw [battery] at power
      split at power
      · cases power
      · rename_i low
        have percent : device.can "BatteryPercentage" = true := by
          by_contra missing
          exact full ⟨listens, not_not.mp low, Bool.eq_false_of_not_eq_true missing⟩
        rw [if_pos percent] at power
        rcases List.mem_cons.mp power with rfl | power
        · rfl
        · rw [List.mem_singleton.mp power]
          rfl

theorem spare_congr {other : AqaraDevice} (same : other.capabilities = device.capabilities) :
    Spare other ↔ Spare device := by
  obtain ⟨_, _, _, _, _, _, _⟩ := device
  obtain ⟨_, _, _, _, _, _, _⟩ := other
  cases same
  exact Iff.rfl

theorem bindSpare_mem (spare : Spare device) : bindSpare textual device ∈ bindings textual device := by
  obtain ⟨listens, low, percent⟩ := spare
  cases made : build textual device with
  | none => exact absurd (build_eq_none_iff.mp made) listens
  | some built =>
      obtain ⟨furnished, -, rfl⟩ := exists_furnished made
      rw [bindings, made, Option.getD_some, battery, if_neg (not_not.mpr low), percent]
      exact List.mem_append_right _ (List.mem_cons_of_mem _ List.mem_cons_self)

/-- No pusher reaches the level that is answered from the flag. -/
theorem push_spare (spare : Spare device) (view : Shown) :
    push textual device view (bindSpare textual device).key = view (bindSpare textual device).key := by
  apply foldl_refresh_of_not_mem
  intro reached
  obtain ⟨other, member, same⟩ := List.mem_map.mp reached
  obtain ⟨inside, pushed⟩ := List.mem_filter.mp member
  have unique : other = bindSpare textual device := List.inj_on_of_nodup_map
    (wired_bindings textual device).distinct inside (bindSpare_mem spare) same
  rw [unique] at pushed
  cases pushed

/-- The hub says that the battery is low, and HomeKit is not told of the level. -/
theorem not_current_of_spare (attached : Attached device) (spare : Spare device) :
    ¬ Current textual
      (perform textual ⟨device, fun _ => none⟩ (.recorded "StateOfLowBat" (.number 1))) := by
  intro current
  have news : device.has "StateOfLowBat" (.number 1) = false := by
    rw [AqaraDevice.has, attached.unheard]
    rfl
  obtain ⟨others, listens, matter⟩ := attached.listens
  have heard : (device.setState "StateOfLowBat" (.number 1)).state (bindSpare textual device).code =
      some (.number 1) :=
    (AqaraDevice.state_setState _ _ _ _).trans (if_pos rfl)
  have announced : emit textual (device.setState "StateOfLowBat" (.number 1)) "StateOfLowBat"
      (.number 1) (device.setState "StateOfLowBat" (.number 1)).listeners (fun _ => none) =
        push textual (device.setState "StateOfLowBat" (.number 1)) (fun _ => none) ∨
      ("StateOfLowBat" = "ButtonEvent" ∨
        bindings textual (device.setState "StateOfLowBat" (.number 1)) = []) ∧
        emit textual (device.setState "StateOfLowBat" (.number 1)) "StateOfLowBat" (.number 1)
          (device.setState "StateOfLowBat" (.number 1)).listeners (fun _ => none) = fun _ => none :=
    emit_cases "StateOfLowBat" (.number 1) listens matter
  have reads : readSpare textual device.levels (some (.number 1)) =
      .ok (.number (some lowBatteryPercent)) := by
    simp [readSpare, numberOf, Json.toPrimitive, Json.toNumber]
  have told := current (bindSpare textual device)
  rw [perform, State.record, if_neg (by simp [news])] at told
  rcases told (bindSpare_mem spare) _ ((congrArg _ heard).trans reads) with shown | ⟨-, silent⟩
  · rcases announced with pushes | ⟨-, same⟩
    · have spare' : Spare (device.setState "StateOfLowBat" (.number 1)) := spare
      have unpushed : push textual (device.setState "StateOfLowBat" (.number 1)) (fun _ => none)
          (bindSpare textual device).key = none :=
        push_spare spare' _
      dsimp only at shown
      rw [pushes, unpushed] at shown
      cases shown
    · dsimp only at shown
      rw [same] at shown
      cases shown
  · cases heard.symm.trans (silent _ (bindSpare_mem spare))

/-- Whatever the device records, whatever HomeKit asks for and sets, every characteristic shows what
its trait reads as, for exactly the accessories whose battery level is not made of the flag. -/
theorem homekit_current_iff (textual : Json → Option ℚ) (device : AqaraDevice)
    (attached : Attached device) :
    (∀ labels state, (machine textual device).Run (fun _ _ => True) labels state →
      Current textual state) ↔ ¬ Spare device := by
  constructor
  · intro current spare
    have started : (machine textual device).Run (fun _ _ => True) [] ⟨device, fun _ => none⟩ :=
      .start rfl
    exact not_current_of_spare attached spare
      (current _ _ (started.extend (.recorded "StateOfLowBat" (.number 1)) trivial rfl))
  · intro full labels state run binding member
    have kept := kept_of_run attached run
    exact kept.told binding member
      (pushed_of_not_spare (mt (spare_congr kept.capabilities).mp full) member)

end

/-- The lamp with its accessory, which has no battery. -/
def furnishedLamp : AqaraDevice := { lamp with listeners := [.push] }

theorem furnishedLamp_attached : Attached furnishedLamp := ⟨fun _ => rfl, [], rfl, by simp⟩

theorem homekit_current_lamp :
    (∀ labels state, (machine (fun _ => none) furnishedLamp).Run (fun _ _ => True) labels state →
      Current (fun _ => none) state) ↔ ¬ Spare furnishedLamp :=
  homekit_current_iff _ _ furnishedLamp_attached

end HomeKit
end Port
end AqaraLanLink
