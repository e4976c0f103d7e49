import AqaraLanLink.Reference.Composers

/-!
# The reference's device types

The composer of each device type, in the modules of `device/device_types`, and the table that picks
one.
-/

namespace AqaraLanLink
namespace Reference
namespace DeviceTypes

open Library

/-! ## Sensors -/

/-- `measurement_sensor`. -/
def measurementSensor (deviceClass defaultUnit : String) (useSpecUnit : Bool) (spec : TraitSpec) :
    AnyDescriptor :=
  { spec.described (.ofSensor
      { trait := spec, stateClass := some "measurement",
        unit := if useSpecUnit then (given spec.unit).getD defaultUnit else defaultUnit,
        precision := defaultPrecision (some deviceClass) spec.dataType }) with
    deviceClass := some deviceClass }

/-- `temperature_sensor.compose`. -/
def temperatureSensor : Branch :=
  .singleTrait "Temperature" "CurrentTemperature" (measurementSensor "temperature" "°C" true)
    fun _ => ⟨⟨rfl, rfl⟩, rfl⟩

/-- `humidity_sensor.compose`. -/
def humiditySensor : Branch :=
  .singleTrait "RelativeHumidity" "CurrentHumidity" (measurementSensor "humidity" "%" true)
    fun _ => ⟨⟨rfl, rfl⟩, rfl⟩

/-- `pressure_sensor.compose`. -/
def pressureSensor : Branch :=
  .singleTrait "Pressure" "CurrentPressure" (measurementSensor "pressure" "kPa" true)
    fun _ => ⟨⟨rfl, rfl⟩, rfl⟩

/-- `illuminance_sensor.compose`: always in lux. -/
def illuminanceSensor : Branch :=
  .singleTrait "Illuminance" "CurrentIlluminance" (measurementSensor "illuminance" "lx" false)
    fun _ => ⟨⟨rfl, rfl⟩, rfl⟩

/-- `_TRAITS` of `electrical_sensor`: a device class and a state class for each trait code. -/
def electricalTraits : List (String × String × String) :=
  [("CurrentVoltage", "voltage", "measurement"), ("CurrentPower", "power", "measurement"),
    ("CumulativeEnergyConsumption", "energy", "total_increasing")]

/-- The trait that `electrical_sensor` takes. -/
def electricalTrait (spec : TraitSpec) : Option AnyDescriptor :=
  if spec.functionCode = some "EnergyManagement" then
    (electricalTraits.lookup (spec.traitCode.getD "")).map fun (deviceClass, stateClass) =>
      { spec.described (.ofSensor
          { trait := spec, stateClass := some stateClass, unit := spec.unit,
            precision := defaultPrecision (some deviceClass) spec.dataType }) with
        deviceClass := some deviceClass }
  else none

/-- `electrical_sensor.compose`. -/
def electricalSensor : Branch :=
  .ofPick electricalTrait fun spec descriptor picked => by
    rw [electricalTrait] at picked
    split at picked
    · obtain ⟨classes, -, rfl⟩ := Option.map_eq_some_iff.mp picked
      exact ⟨⟨rfl, rfl⟩, rfl⟩
    · cases picked

/-! ## Binary sensors and switches -/

/-- `contact_sensor.compose`: the wire's `1` is a closed contact. -/
def contactSensor : Branch :=
  .singleTrait "Contact" "ContactSensorState"
    (fun spec =>
      { spec.described (.binarySensor { trait := spec, onValues := ["0"] }) with
        deviceClass := some "opening" })
    fun _ => ⟨⟨rfl, rfl⟩, rfl⟩

/-- `switch.compose`. -/
def switch : Branch :=
  .singleTrait "Output" "OnOff" (fun spec => spec.described (.switch { attr := { name := spec.id } }))
    fun _ => ⟨⟨rfl, rfl⟩, rfl⟩

/-- `DETECTOR_AUTO_CLEAR_SECONDS`. -/
def detectorAutoClearSeconds : ℚ := 60

/-- `_make_binary_sensor`. -/
def makeBinarySensor (spec : TraitSpec) (deviceClass : String) (name : Option String)
    (autoClearSeconds : Option ℚ) : AnyDescriptor :=
  { spec.described (.binarySensor { trait := spec, autoClearSeconds }) with
    name := (given name).getD spec.name
    deviceClass := some deviceClass }

/-- The traits that `occupancy_sensor` takes. -/
def occupancyTrait (occupancyDeviceClass : String) (occupancyName : Option String)
    (occupancyAutoClear : Option ℚ) (spec : TraitSpec) : Option AnyDescriptor :=
  if spec.HasCodes "OccupancySensing" "Occupancy" then
    some (makeBinarySensor spec occupancyDeviceClass occupancyName occupancyAutoClear)
  else if spec.HasCodes "OccupancySensing" "MotionDetected" then
    some (makeBinarySensor spec "motion" none none)
  else none

theorem occupancyTrait_stands (occupancyDeviceClass : String) (occupancyName : Option String)
    (occupancyAutoClear : Option ℚ) (spec : TraitSpec) (descriptor : AnyDescriptor)
    (picked : occupancyTrait occupancyDeviceClass occupancyName occupancyAutoClear spec =
      some descriptor) : Stands descriptor spec ∧ descriptor.hashable := by
  rw [occupancyTrait] at picked
  split at picked
  · cases picked
    exact ⟨⟨rfl, rfl⟩, rfl⟩
  · split at picked
    · cases picked
      exact ⟨⟨rfl, rfl⟩, rfl⟩
    · cases picked

/-- `occupancy_sensor.compose`. -/
def occupancySensor : Branch :=
  .ofPick (occupancyTrait "occupancy" none none) (occupancyTrait_stands _ _ _)

/-- `occupancy_sensor.motion_compose`: a camera's occupancy trait is its motion. -/
def motionSensor : Branch :=
  .ofPick (occupancyTrait "motion" (some "Motion") (some detectorAutoClearSeconds))
    (occupancyTrait_stands _ _ _)

/-! ## Camera detectors -/

/-- `make_recognition_composer`, with the auto-clear that all its uses have. -/
def makeRecognitionComposer (functionCode traitCode : String) (deviceClass : Option String) :
    Branch :=
  .singleTrait functionCode traitCode
    (fun spec =>
      { spec.described (.binarySensor
          { trait := spec, onAnyValue := true,
            autoClearSeconds := some detectorAutoClearSeconds }) with
        deviceClass })
    fun _ => ⟨⟨rfl, rfl⟩, rfl⟩

/-- `make_detection_composer`. -/
def makeDetectionComposer (functionCode traitCode : String) (deviceClass : Option String) : Branch :=
  .singleTrait functionCode traitCode
    (fun spec => { spec.described (.binarySensor { trait := spec }) with deviceClass })
    fun _ => ⟨⟨rfl, rfl⟩, rfl⟩

/-- `_UNKNOWN_EVENT_TYPE`. -/
def unknownEventType : String := "Unknown"

/-- `make_enum_event_composer`. -/
def makeEnumEventComposer (functionCode traitCode : String) : Branch :=
  .singleTrait functionCode traitCode
    (fun spec => spec.described (.event
      { triggerTrait := spec,
        eventTypes := (spec.labels.map Dictionary.values).getD [] ++ [unknownEventType],
        unknownEventType := some unknownEventType, valuePayloadKey := some "code" }))
    fun _ => ⟨⟨rfl, rfl⟩, rfl⟩

/-- `make_id_event_composer`, with the event type that its use has. -/
def makeIdEventComposer (functionCode traitCode payloadKey : String) : Branch :=
  .singleTrait functionCode traitCode
    (fun spec => spec.described (.event
      { triggerTrait := spec, eventTypes := ["Detected"], valuePayloadKey := some payloadKey }))
    fun _ => ⟨⟨rfl, rfl⟩, rfl⟩

/-- `human_detector_compose`. -/
def humanDetector : Branch :=
  makeRecognitionComposer "HumanRecognition" "HumanRecognitionReport" (some "occupancy")

/-- `face_scanner_compose`. -/
def faceScanner : Branch := makeIdEventComposer "FaceRecognition" "FaceIDReport" "face_id"

/-- `pet_monitor_compose`. -/
def petMonitor : Branch := makeEnumEventComposer "PetRecognition" "PetRecognitionReport"

/-- `package_detector_compose`. -/
def packageDetector : Branch :=
  makeDetectionComposer "PackageRecognition" "PackageRecognitionReport" none

/-- `gesture_sensor_compose`. -/
def gestureSensor : Branch := makeEnumEventComposer "GestureRecognition" "GestureRecognitionReport"

/-- `smile_detector_compose`. -/
def smileDetector : Branch :=
  makeRecognitionComposer "SmileRecognition" "SmileRecognitionReport" none

/-- `vehicle_detector_compose`. -/
def vehicleDetector : Branch := makeEnumEventComposer "VehicleDetection" "VehicleDetected"

/-- `sound_sensor_compose`. -/
def soundSensor : Branch := makeEnumEventComposer "SoundDetection" "AnomalySoundDetected"

/-- `fire_alarm_compose`. -/
def fireAlarm : Branch := makeEnumEventComposer "FlameDetection" "FlameDetected"

/-! ## Events -/

/-- An event whose types are the labels of its trait, or the ones that stand in for them. -/
def labelEvent (spec : TraitSpec) (standIn : List String) : AnyDescriptor :=
  spec.described (.event
    { triggerTrait := spec, eventTypes := (spec.labels.map Dictionary.values).getD standIn })

/-- `button.compose`. -/
def button : Branch :=
  .singleTrait "Button" "ButtonEvent" (labelEvent · ["press"]) fun _ => ⟨⟨rfl, rfl⟩, rfl⟩

/-- The traits that `knob` takes. -/
def knobTrait (spec : TraitSpec) : Option AnyDescriptor :=
  if spec.HasCodes "Knob" "RotationEvent" ∨ spec.HasCodes "Button" "ButtonEvent" then
    some (labelEvent spec ["event"])
  else none

/-- `knob.compose`. -/
def knob : Branch :=
  .ofPick knobTrait fun spec descriptor picked => by
    rw [knobTrait] at picked
    split at picked
    · cases picked
      exact ⟨⟨rfl, rfl⟩, rfl⟩
    · cases picked

/-- A sensor that only has the unit of its trait. -/
def plainSensor (spec : TraitSpec) : AnyDescriptor :=
  spec.described (.ofSensor { trait := spec, unit := spec.unit })

/-- The traits that `cube` takes. -/
def cubeTrait (spec : TraitSpec) : Option AnyDescriptor :=
  if spec.functionCode = some "Cube" then
    match spec.traitCode with
    | some "CubeEvent" | some "RotationEvent" => some (labelEvent spec [])
    | some "RotationAngle" => some (plainSensor spec)
    | _ => none
  else none

/-- `cube.compose`. -/
def cube : Branch :=
  .ofPick cubeTrait fun spec descriptor picked => by
    rw [cubeTrait] at picked
    split at picked
    · split at picked <;> cases picked <;> exact ⟨⟨rfl, rfl⟩, rfl⟩
    · cases picked

/-- The traits that `vibration_sensor` takes. -/
def vibrationTrait (spec : TraitSpec) : Option AnyDescriptor :=
  if spec.functionCode = some "Vibration" then
    match spec.traitCode with
    | some "VibrationEvent" => some (labelEvent spec [])
    | some "VibrationDuration" => some (plainSensor spec)
    | _ => none
  else none

/-- `vibration_sensor.compose`. -/
def vibrationSensor : Branch :=
  .ofPick vibrationTrait fun spec descriptor picked => by
    rw [vibrationTrait] at picked
    split at picked
    · split at picked <;> cases picked <;> exact ⟨⟨rfl, rfl⟩, rfl⟩
    · cases picked

/-! ## Locks, speakers, thermostats and coverings -/

/-- The two entities of a lock's state: the full state, and a binary sensor of its own name. -/
def dualState (spec : TraitSpec) (deviceClass binaryName : String) (onValues : List String) :
    List AnyDescriptor :=
  (buildDescriptor spec .sensor).toList ++
    [{ spec.described (.binarySensor { trait := spec, onValues }) with
        key := autoKey spec.id ++ "_binary"
        name := binaryName
        deviceClass := some deviceClass }]

/-- The traits that `door_lock` takes. -/
def doorLockTraits (spec : TraitSpec) : Option (List AnyDescriptor) :=
  if spec.functionCode = some "DoorLock" then
    match spec.traitCode with
    | some "LockState" => some (dualState spec "lock" "Lock" ["0", "2"])
    | some "DoorState" => some (dualState spec "door" "Door" ["0", "3", "5"])
    | some "StateOfLowBat" =>
        some
          [{ spec.described (.binarySensor { trait := spec }) with
              deviceClass := some "battery"
              entityCategory := some .diagnostic
              enabledDefault := false }]
    | some "RemoteUnlock" => some [spec.described (.switch { attr := { name := spec.id } })]
    | _ => none
  else none

/-- The two entities of a lock's state have different keys and stand for the same trait. -/
theorem dualState_spec (spec : TraitSpec) (deviceClass binaryName : String)
    (onValues : List String) :
    Made spec spec.id (dualState spec deviceClass binaryName onValues) ∧
      ∀ descriptor ∈ dualState spec deviceClass binaryName onValues, descriptor.hashable := by
  obtain ⟨sensor, built⟩ := Option.ne_none_iff_exists'.mp
    (show buildDescriptor spec .sensor ≠ none by simp [Ne, buildDescriptor_eq_none_iff])
  obtain ⟨key, paths, hashable⟩ := buildDescriptor_spec built
  simp only [dualState, built, Option.toList_some, List.singleton_append]
  refine ⟨⟨?_, Or.inl rfl, Or.inr ⟨rfl, Or.inr (by simp [key])⟩⟩, ?_⟩
  · exact List.forall_mem_cons.mpr ⟨paths, List.forall_mem_singleton.mpr rfl⟩
  · exact List.forall_mem_cons.mpr ⟨hashable, List.forall_mem_singleton.mpr rfl⟩

theorem doorLockTraits_spec {spec : TraitSpec} {descriptors : List AnyDescriptor}
    (owned : doorLockTraits spec = some descriptors) :
    Made spec spec.id descriptors ∧ ∀ descriptor ∈ descriptors, descriptor.hashable := by
  have alone {descriptor : AnyDescriptor} (stands : Stands descriptor spec)
      (hashable : descriptor.hashable) :
      Made spec spec.id [descriptor] ∧ ∀ other ∈ [descriptor], other.hashable :=
    ⟨.of_stands stands, List.forall_mem_singleton.mpr hashable⟩
  rw [doorLockTraits] at owned
  split at owned
  · split at owned
    · exact Option.some.inj owned ▸ dualState_spec spec _ _ _
    · exact Option.some.inj owned ▸ dualState_spec spec _ _ _
    · exact Option.some.inj owned ▸ alone ⟨rfl, rfl⟩ rfl
    · exact Option.some.inj owned ▸ alone ⟨rfl, rfl⟩ rfl
    · cases owned
  · cases owned

/-- `door_lock.compose`. -/
def doorLock : Branch where
  own := doorLockTraits
  unhashable _ := False
  made _ _ owned := (doorLockTraits_spec owned).1
  hashable_iff _ _ owned :=
    ⟨fun _ impossible => impossible, fun _ => (doorLockTraits_spec owned).2⟩
  own_ne_none _ impossible := impossible.elim

/-- A number whose range and step have these defaults. -/
def rangedNumber (spec : TraitSpec) (least most step : ℚ) (unit : Option String) : AnyDescriptor :=
  spec.described (.ofNumber
    { attr := { name := spec.id }, minValue := spec.minValue.getD least,
      maxValue := spec.maxValue.getD most, step := (nonzero spec.step).getD step, unit })

/-- A sensor of the labels of its trait, which keeps them in a list. -/
def listedSensor (spec : TraitSpec) : AnyDescriptor :=
  { spec.described (.ofSensor
      { trait := spec, options := spec.labels.map fun labels => .list labels.values }) with
    deviceClass := some "enum" }

/-- A list of labels has no hash. -/
theorem hashable_listedSensor_iff {spec : TraitSpec} :
    (listedSensor spec).hashable ↔ spec.labels = none := by
  cases found : spec.labels <;>
    simp [listedSensor, AnyDescriptor.hashable, TraitSpec.described, Binding.ofSensor, found]

/-- The traits that `speaker` takes. -/
def speakerTrait (spec : TraitSpec) : Option AnyDescriptor :=
  if spec.HasCodes "Speaker" "Volume" then some (rangedNumber spec 0 100 1 none)
  else if spec.HasCodes "Speaker" "Mute" then
    some (spec.described (.switch { attr := { name := spec.id } }))
  else if spec.HasCodes "MediaPlayback" "CurrentPlaybackState" then some (listedSensor spec)
  else none

/-- `speaker.compose`. -/
def speaker : Branch :=
  .ofListing speakerTrait
    (fun spec =>
      spec.HasCodes "MediaPlayback" "CurrentPlaybackState" ∧ spec.labels ≠ none)
    (fun spec descriptor picked => by
      rw [speakerTrait] at picked
      split at picked
      · next volume =>
        cases picked
        exact ⟨⟨rfl, rfl⟩, fun _ bad => by simp_all [TraitSpec.HasCodes], fun _ => rfl⟩
      · split at picked
        · next mute =>
          cases picked
          exact ⟨⟨rfl, rfl⟩, fun _ bad => by simp_all [TraitSpec.HasCodes], fun _ => rfl⟩
        · split at picked
          · next playback =>
            cases picked
            exact ⟨⟨rfl, rfl⟩, by simp [hashable_listedSensor_iff, playback]⟩
          · cases picked)
    fun spec bad => by
      simp only [TraitSpec.HasCodes] at bad
      simp [speakerTrait, TraitSpec.HasCodes, bad]

/-- The traits that `window_covering` takes. -/
def windowCoveringTrait (spec : TraitSpec) : Option AnyDescriptor :=
  if spec.functionCode = some "WindowCovering" then
    match spec.traitCode with
    | some "CurrentPositionPercentage" =>
        some (spec.described (.ofSensor { trait := spec, unit := (given spec.unit).getD "%" }))
    | some "TargetPositionPercentage" =>
        some (rangedNumber spec 0 100 1 ((given spec.unit).getD "%"))
    | some "MotorOperationStatus" => some (listedSensor spec)
    | _ => none
  else none

/-- `window_covering.compose`. -/
def windowCovering : Branch :=
  .ofListing windowCoveringTrait
    (fun spec =>
      spec.HasCodes "WindowCovering" "MotorOperationStatus" ∧ spec.labels ≠ none)
    (fun spec descriptor picked => by
      rw [windowCoveringTrait] at picked
      split at picked
      · next covering =>
        split at picked
        · next code =>
          cases picked
          exact ⟨⟨rfl, rfl⟩, fun _ bad => by simp_all [TraitSpec.HasCodes], fun _ => rfl⟩
        · next code =>
          cases picked
          exact ⟨⟨rfl, rfl⟩, fun _ bad => by simp_all [TraitSpec.HasCodes], fun _ => rfl⟩
        · next code =>
          cases picked
          exact ⟨⟨rfl, rfl⟩, by simp [hashable_listedSensor_iff, TraitSpec.HasCodes, covering, code]⟩
        · cases picked
      · cases picked)
    fun spec bad => by
      simp only [TraitSpec.HasCodes] at bad
      simp [windowCoveringTrait, bad]

/-- A temperature that can be set, in this range unless the trait has its own. -/
def temperatureNumber (spec : TraitSpec) (most : ℚ) : AnyDescriptor :=
  { rangedNumber spec 5 most (1 / 2) ((given spec.unit).getD "°C") with
    deviceClass := some "temperature" }

/-- A sensor of this class in this unit unless the trait has its own, without a precision. -/
def currentSensor (spec : TraitSpec) (deviceClass defaultUnit : String) : AnyDescriptor :=
  { spec.described (.ofSensor
      { trait := spec, stateClass := some "measurement",
        unit := (given spec.unit).getD defaultUnit }) with
    deviceClass := some deviceClass }

/-- The traits that `thermostat` takes. -/
def thermostatTrait (spec : TraitSpec) : Option AnyDescriptor :=
  if spec.functionCode = some "HeaterCooler" then
    match spec.traitCode with
    | some "CurrentTemperature" => some (currentSensor spec "temperature" "°C")
    | some "HeaterCoolerMode" =>
        some (spec.described (.select
          { attr := { name := spec.id },
            optionsMap := (spec.labels.map fun labels => labels.entries.map Prod.swap).getD [] }))
    | some "HeatingTemperature" | some "CoolingTemperature" => some (temperatureNumber spec 35)
    | some "CurrentHumidity" => some (currentSensor spec "humidity" "%")
    | some "AntiFreezeTemperature" =>
        some { temperatureNumber spec 15 with entityCategory := some .config }
    | _ => none
  else none

/-- `thermostat.compose`. -/
def thermostat : Branch :=
  .ofPick thermostatTrait fun spec descriptor picked => by
    rw [thermostatTrait] at picked
    split at picked
    · split at picked <;> cases picked <;> exact ⟨⟨rfl, rfl⟩, rfl⟩
    · cases picked

/-! ## Doorbells -/

/-- `find_trait`. -/
def findTrait (specs : List TraitSpec) (functionCode traitCode : String) : Option TraitSpec :=
  specs.find? fun spec => spec.HasCodes functionCode traitCode

theorem findTrait_spec {specs : List TraitSpec} {functionCode traitCode : String} {spec : TraitSpec}
    (found : findTrait specs functionCode traitCode = some spec) :
    spec ∈ specs ∧ spec.HasCodes functionCode traitCode := by
  have codes := List.find?_some
    (p := fun spec : TraitSpec => decide (spec.HasCodes functionCode traitCode)) found
  exact ⟨List.mem_of_find?_eq_some found, of_decide_eq_true codes⟩

/-- The labels of a doorbell's button: the first press is the ring, the others keep their labels. -/
def ringLabels : List (String × String) → List (String × String)
  | [] => []
  | first :: others => (first.1, "ring") :: others

theorem keys_ringLabels (entries : List (String × String)) :
    (ringLabels entries).map Prod.fst = entries.map Prod.fst := by
  cases entries <;> rfl

/-- `normalised_enum`. -/
def normalisedEnum (labels : Dictionary String String) : Dictionary String String where
  entries := ringLabels labels.entries
  nodup := by
    rw [keys_ringLabels]
    exact labels.nodup

/-- The event of a doorbell's button. -/
def ringEvent (buttonEvent : TraitSpec) : AnyDescriptor :=
  { buttonEvent.described (.event
      { triggerTrait := { buttonEvent with enumValues := buttonEvent.labels.map normalisedEnum },
        eventTypes := "ring" :: ((buttonEvent.labels.map Dictionary.values).getD []).tail }) with
    name := (given (some buttonEvent.name)).getD "Doorbell"
    deviceClass := some "doorbell" }

/-- `doorbell.compose`: the first button event becomes the ring, and none goes to the fallback. -/
def doorbell : Composer := fun specs =>
  ((findTrait specs "Doorbell" "ButtonEvent").map ringEvent).toList ++
    fallback (specs.filter fun spec => ¬ spec.HasCodes "Doorbell" "ButtonEvent")

/-! ## Lights -/

/-- `_LIGHT_ABSORBED`. -/
def lightAbsorbed : List (String × String) :=
  [("Output", "OnOff"), ("LevelControl", "CurrentLevel"), ("ColorControl", "ColorTemperature"),
    ("ColorControl", "ColorXY"), ("ColorControl", "CurrentX"), ("ColorControl", "CurrentY")]

/-- The trait is one of the components that a light endpoint absorbs. -/
def Absorbed (spec : TraitSpec) : Prop :=
  ∃ codes ∈ lightAbsorbed, spec.HasCodes codes.1 codes.2

instance (spec : TraitSpec) : Decidable (Absorbed spec) :=
  inferInstanceAs (Decidable (∃ codes ∈ lightAbsorbed, _))

/-- Python's `round`: a half goes to the even neighbour. -/
def roundHalfEven (value : ℚ) : ℤ :=
  if Int.fract value = 1 / 2 ∧ ⌊value⌋ % 2 = 0 then ⌊value⌋ else ⌊value + 1 / 2⌋

/-- Python's `int` of a number: towards zero. -/
def truncate (value : ℚ) : ℤ := value.num.tdiv value.den

/-- `_color_temp_bounds`: the bounds in kelvin, and the unit on the wire. -/
def colorTempBounds (spec : Option TraitSpec) : Option ℤ × Option ℤ × WireUnit :=
  match spec with
  | none => (none, none, .kelvin)
  | some spec =>
      if spec.unit ∈ [some "°K", some "K", some "Kelvin", some "kelvin"] then
        (spec.minValue.map truncate, spec.maxValue.map truncate, .kelvin)
      else if spec.unit ∈ [some "mired", some "mireds", none] then
        ((nonzero spec.maxValue).map fun mired => roundHalfEven (1000000 / mired),
          (nonzero spec.minValue).map fun mired => roundHalfEven (1000000 / mired), .mired)
      else (none, none, .kelvin)

/-- The light of an endpoint that has this power trait. -/
def fusedLight (specs : List TraitSpec) (onOff : TraitSpec) : AnyDescriptor :=
  let level := findTrait specs "LevelControl" "CurrentLevel"
  let colorTemp := findTrait specs "ColorControl" "ColorTemperature"
  let colorXy := (findTrait specs "ColorControl" "ColorXY").or
    (if (findTrait specs "ColorControl" "CurrentY").isSome then
      findTrait specs "ColorControl" "CurrentX"
    else none)
  let attr (spec : TraitSpec) : AttrSpec := { name := spec.id }
  let bounds := colorTempBounds colorTemp
  { onOff.described (.light
      { powerTrait := onOff, powerAttr := attr onOff,
        brightnessTrait := level, brightnessAttr := level.map attr,
        colorTempTrait := colorTemp, colorTempAttr := colorTemp.map attr,
        colorTempMinKelvin := bounds.1, colorTempMaxKelvin := bounds.2.1,
        colorTempWireUnit := bounds.2.2,
        colorXyTrait := colorXy, colorXyAttr := colorXy.map attr }) with
    name := (given (some onOff.name)).getD "Light" }

/-- `light.compose`: the components become one light if there is a power trait, and the other traits
go to the fallback. -/
def light : Composer := fun specs =>
  ((findTrait specs "Output" "OnOff").map (fusedLight specs)).toList ++
    fallback (specs.filter fun spec => ¬ Absorbed spec)

/-- A light is keyed by its power trait and stands for components of its endpoint. -/
theorem sourced_fusedLight {specs : List TraitSpec} {onOff : TraitSpec}
    (found : findTrait specs "Output" "OnOff" = some onOff) :
    Sourced specs (fusedLight specs onOff) where
  key := ⟨onOff, (findTrait_spec found).1, Or.inl List.mem_cons_self⟩
  paths path exposed := by
    obtain ⟨component, -, traitPath⟩ := List.mem_filterMap.mp exposed
    obtain ⟨spec, present, rfl⟩ := Option.map_eq_some_iff.mp traitPath
    refine ⟨spec, ?_, Or.inl rfl⟩
    cases component with
    | power => exact Option.some.inj present ▸ (findTrait_spec found).1
    | brightness => exact (findTrait_spec present).1
    | colorTemp => exact (findTrait_spec present).1
    | colorXy =>
        rcases Option.or_eq_some_iff.mp present with combined | ⟨-, pair⟩
        · exact (findTrait_spec combined).1
        · split at pair
          · exact (findTrait_spec pair).1
          · cases pair

/-! ## The table -/

/-- How a composer treats the traits of an endpoint. -/
inductive Composing where
  | fallback
  | each (branch : Branch)
  | doorbell
  | light

namespace Composing

/-- The `compose` of the composer. -/
def compose : Composing → Composer
  | fallback => Reference.fallback
  | each branch => branch.compose
  | doorbell => DeviceTypes.doorbell
  | light => DeviceTypes.light

/-- The composer takes the trait itself and does not leave it to the fallback. -/
def takes : Composing → TraitSpec → Bool
  | fallback, _ => false
  | each branch, spec => (branch.own spec).isSome
  | doorbell, spec => spec.HasCodes "Doorbell" "ButtonEvent"
  | light, spec => Absorbed spec

/-- What one of the traits becomes. -/
def become (composing : Composing) (specs : List TraitSpec) (spec : TraitSpec) :
    List AnyDescriptor :=
  match composing with
  | fallback => (descriptorForTrait spec).toList
  | each branch => branch.become spec
  | doorbell =>
      if spec.HasCodes "Doorbell" "ButtonEvent" then
        if findTrait specs "Doorbell" "ButtonEvent" = some spec then [ringEvent spec] else []
      else (descriptorForTrait spec).toList
  | light =>
      if Absorbed spec then
        if findTrait specs "Output" "OnOff" = some spec then [fusedLight specs spec] else []
      else (descriptorForTrait spec).toList

end Composing

/-- `_COMPOSERS`. -/
def composers : List (String × Composing) :=
  [("Button", .each button), ("Camera", .fallback), ("ContactSensor", .each contactSensor),
    ("Cube", .each cube), ("DoorLock", .each doorLock), ("Doorbell", .doorbell),
    ("ElectricalSensor", .each electricalSensor), ("Hub", .fallback),
    ("HumiditySensor", .each humiditySensor), ("IlluminanceSensor", .each illuminanceSensor),
    ("Knob", .each knob), ("Light", .light), ("OccupancySensor", .each occupancySensor),
    ("AtmosphericPressureSensor", .each pressureSensor), ("PressureSensor", .each pressureSensor),
    ("Public", .fallback), ("Root", .fallback), ("Speaker", .each speaker),
    ("Switch", .each switch), ("Outlet", .each switch),
    ("TemperatureSensor", .each temperatureSensor), ("Thermostat", .each thermostat),
    ("VibrationSensor", .each vibrationSensor), ("WindowCovering", .each windowCovering),
    ("AirConditioner", .each thermostat), ("IRDevice", .fallback),
    ("HumanDetector", .each humanDetector), ("FaceScanner", .each faceScanner),
    ("PetMonitor", .each petMonitor), ("PackageDetector", .each packageDetector),
    ("GestureSensor", .each gestureSensor), ("SmileDetector", .each smileDetector),
    ("VehicleDetector", .each vehicleDetector), ("SoundSensor", .each soundSensor),
    ("FireAlarm", .each fireAlarm), ("MotionSensor", .each motionSensor),
    ("VideoDoorbell", .fallback)]

/-- `get_composer`. -/
def getComposer (deviceType : String) : Composing := (composers.lookup deviceType).getD .fallback

/-! ## What one trait becomes -/

namespace Composing

variable {composing : Composing} {specs : List TraitSpec} {spec : TraitSpec}
  {descriptor : AnyDescriptor}

/-- A composer works off the traits of its endpoint one by one, in an order of its own. -/
theorem perm_compose (composing : Composing) (nodup : specs.Nodup) :
    (composing.compose specs).Perm (specs.flatMap (composing.become specs)) := by
  -- Two composers make one descriptor of the first trait with some codes, none of the other traits
  -- in its group, and leave the rest.
  have first (group : TraitSpec → Prop) [DecidablePred group] {functionCode traitCode : String}
      (inside : ∀ spec, spec.HasCodes functionCode traitCode → group spec)
      (chosen : TraitSpec → AnyDescriptor) :
      (((findTrait specs functionCode traitCode).map chosen).toList ++
          Reference.fallback (specs.filter fun spec => ¬ group spec)).Perm
        (specs.flatMap fun spec =>
          if group spec then
            if findTrait specs functionCode traitCode = some spec then [chosen spec] else []
          else (descriptorForTrait spec).toList) := by
    have one : ((findTrait specs functionCode traitCode).map chosen).toList =
        (specs.filter fun spec => group spec).flatMap fun spec =>
          if group spec then
            if findTrait specs functionCode traitCode = some spec then [chosen spec] else []
          else (descriptorForTrait spec).toList := by
      have within : ∀ spec : TraitSpec, decide (spec.HasCodes functionCode traitCode) = true →
          decide (group spec) = true :=
        fun spec codes => decide_eq_true (inside spec (of_decide_eq_true codes))
      have single := flatMap_find? nodup within fun spec => [chosen spec]
      rw [Option.toList_map, List.map_eq_flatMap, findTrait, ← single]
      refine List.flatMap_congr fun spec member => ?_
      rw [if_pos (of_decide_eq_true (List.mem_filter.mp member).2)]
    have rest : Reference.fallback (specs.filter fun spec => ¬ group spec) =
        (specs.filter fun spec => !decide (group spec)).flatMap fun spec =>
          if group spec then
            if findTrait specs functionCode traitCode = some spec then [chosen spec] else []
          else (descriptorForTrait spec).toList := by
      rw [fallback_eq_flatMap]
      simp only [decide_not]
      refine List.flatMap_congr fun spec member => ?_
      rw [if_neg (by simpa using (List.mem_filter.mp member).2)]
    rw [one, rest]
    exact perm_flatMap_filter _ _ _
  cases composing with
  | fallback =>
      rw [compose, fallback_eq_flatMap]
      exact List.Perm.refl _
  | each branch => exact branch.perm_compose specs
  | doorbell => exact first (·.HasCodes "Doorbell" "ButtonEvent") (fun _ codes => codes) ringEvent
  | light =>
      refine first Absorbed (fun spec codes => ⟨("Output", "OnOff"), by decide, codes⟩)
        (fusedLight specs)

/-- The trait is fused into the light of its endpoint, or with none becomes nothing. -/
def Absorbs : Composing → TraitSpec → Prop
  | light, spec => Absorbed spec
  | _, _ => False

/-- The trait is a button event of a doorbell, but not the first of its endpoint. -/
def Loses : Composing → List TraitSpec → TraitSpec → Prop
  | doorbell, specs, spec =>
      spec.HasCodes "Doorbell" "ButtonEvent" ∧
        findTrait specs "Doorbell" "ButtonEvent" ≠ some spec
  | _, _, _ => False

/-- The composer keeps the options of the trait in a list. -/
def Unhashable : Composing → TraitSpec → Prop
  | each branch, spec => branch.unhashable spec
  | _, _ => False

/-- What reports for the entities of the trait are routed by. -/
def route (composing : Composing) (spec : TraitSpec) : String :=
  if composing.takes spec then spec.id else spec.routeOn (inferredPlatform spec)

theorem become_eq_nil_of_loses (lost : composing.Loses specs spec) :
    composing.become specs spec = [] := by
  cases composing with
  | doorbell => rw [become, if_pos lost.1, if_neg lost.2]
  | fallback => exact lost.elim
  | each branch => exact lost.elim
  | light => exact lost.elim

theorem become_of_absorbs (absorbed : composing.Absorbs spec) :
    composing.become specs spec =
      if findTrait specs "Output" "OnOff" = some spec then [fusedLight specs spec] else [] := by
  cases composing with
  | light => exact if_pos absorbed
  | fallback => exact absorbed.elim
  | each branch => exact absorbed.elim
  | doorbell => exact absorbed.elim

/-- A trait that is neither absorbed nor lost has descriptors. -/
theorem made_become (free : ¬ composing.Absorbs spec) (first : ¬ composing.Loses specs spec) :
    Made spec (composing.route spec) (composing.become specs spec) := by
  cases composing with
  | fallback => exact (made_fallback spec).1
  | each branch =>
      cases owned : branch.own spec with
      | none =>
          simp only [route, takes, become, Branch.become, owned]
          exact (made_fallback spec).1
      | some descriptors =>
          simp only [route, takes, become, Branch.become, owned]
          exact branch.made spec descriptors owned
  | doorbell =>
      by_cases codes : spec.HasCodes "Doorbell" "ButtonEvent"
      · have found := not_not.mp fun missing => first ⟨codes, missing⟩
        simp only [route, takes, become, codes, found, if_true, decide_true]
        exact .of_stands ⟨rfl, rfl⟩
      · simp only [route, takes, become, codes, if_false, decide_false]
        exact (made_fallback spec).1
  | light =>
      have other : ¬ Absorbed spec := free
      simp only [route, takes, become, other, if_false, decide_false]
      exact (made_fallback spec).1

/-- A descriptor comes from one of the traits. -/
theorem exists_of_mem_compose (member : descriptor ∈ composing.compose specs) :
    ∃ spec ∈ specs, descriptor ∈ composing.become specs spec := by
  cases composing with
  | fallback =>
      obtain ⟨spec, known, built⟩ := List.mem_filterMap.mp member
      exact ⟨spec, known, Option.mem_toList.mpr built⟩
  | each branch => exact List.mem_flatMap.mp ((branch.perm_compose specs).mem_iff.mp member)
  | doorbell =>
      rcases List.mem_append.mp member with ring | rest
      · obtain ⟨buttonEvent, found, rfl⟩ := Option.map_eq_some_iff.mp (Option.mem_toList.mp ring)
        obtain ⟨known, codes⟩ := findTrait_spec found
        refine ⟨buttonEvent, known, ?_⟩
        rw [become, if_pos codes, if_pos found]
        exact List.mem_singleton_self _
      · obtain ⟨spec, left, built⟩ := List.mem_filterMap.mp rest
        obtain ⟨known, other⟩ := List.mem_filter.mp left
        refine ⟨spec, known, ?_⟩
        rw [become, if_neg (of_decide_eq_true other)]
        exact Option.mem_toList.mpr built
  | light =>
      rcases List.mem_append.mp member with fused | rest
      · obtain ⟨onOff, found, rfl⟩ := Option.map_eq_some_iff.mp (Option.mem_toList.mp fused)
        obtain ⟨known, codes⟩ := findTrait_spec found
        refine ⟨onOff, known, ?_⟩
        rw [become, if_pos ⟨("Output", "OnOff"), by decide, codes⟩, if_pos found]
        exact List.mem_singleton_self _
      · obtain ⟨spec, left, built⟩ := List.mem_filterMap.mp rest
        obtain ⟨known, other⟩ := List.mem_filter.mp left
        refine ⟨spec, known, ?_⟩
        rw [become, if_neg (of_decide_eq_true other)]
        exact Option.mem_toList.mpr built

/-- The descriptors of a trait are hashable unless its options are kept in a list. -/
theorem hashable_become_iff :
    (∀ descriptor ∈ composing.become specs spec, descriptor.hashable) ↔
      ¬ composing.Unhashable spec := by
  have single (light : Prop) [Decidable light] {made : AnyDescriptor} (hashable : made.hashable) :
      ∀ descriptor ∈ if light then [made] else [], descriptor.hashable := by
    split
    · exact List.forall_mem_singleton.mpr hashable
    · exact fun _ member => absurd member List.not_mem_nil
  cases composing with
  | fallback => exact iff_of_true (made_fallback spec).2 fun bad => bad
  | each branch =>
      cases owned : branch.own spec with
      | none =>
          refine iff_of_true ?_ fun bad => branch.own_ne_none spec bad owned
          simp only [become, Branch.become, owned]
          exact (made_fallback spec).2
      | some descriptors =>
          simp only [become, Branch.become, owned]
          exact branch.hashable_iff spec descriptors owned
  | doorbell =>
      refine iff_of_true ?_ fun bad => bad
      rw [become]
      split
      · exact single _ rfl
      · exact (made_fallback spec).2
  | light =>
      refine iff_of_true ?_ fun bad => bad
      rw [become]
      split
      · exact single _ rfl
      · exact (made_fallback spec).2

end Composing

/-! ## What the composers keep and what they lose -/

/-- The trait becomes a sensor with a list of options on an endpoint of this type. -/
def ListsOptions (deviceType : String) (spec : TraitSpec) : Prop :=
  spec.labels ≠ none ∧
    (deviceType = "WindowCovering" ∧ spec.HasCodes "WindowCovering" "MotorOperationStatus" ∨
      deviceType = "Speaker" ∧ spec.HasCodes "MediaPlayback" "CurrentPlaybackState")

/-- The trait is a button event of a doorbell, but not the first of its endpoint. -/
def LosesEvent (deviceType : String) (specs : List TraitSpec) (spec : TraitSpec) : Prop :=
  deviceType = "Doorbell" ∧ spec.HasCodes "Doorbell" "ButtonEvent" ∧
    findTrait specs "Doorbell" "ButtonEvent" ≠ some spec

/-- Only these device types treat a trait in a way of their own. -/
structure Fits (deviceType : String) (composing : Composing) : Prop where
  unhashable_iff : ∀ spec, composing.Unhashable spec ↔ ListsOptions deviceType spec
  loses_iff : ∀ specs spec, composing.Loses specs spec ↔ LosesEvent deviceType specs spec
  absorbs_iff : ∀ spec, composing.Absorbs spec ↔ deviceType = "Light" ∧ Absorbed spec

theorem fits_fallback {deviceType : String} (covering : deviceType ≠ "WindowCovering")
    (speaker : deviceType ≠ "Speaker") (doorbell : deviceType ≠ "Doorbell")
    (light : deviceType ≠ "Light") : Fits deviceType .fallback where
  unhashable_iff _ := iff_of_false id fun bad => by
    rcases bad.2 with ⟨same, -⟩ | ⟨same, -⟩
    · exact covering same
    · exact speaker same
  loses_iff _ _ := iff_of_false id fun lost => doorbell lost.1
  absorbs_iff _ := iff_of_false id fun absorbed => light absorbed.1

theorem fits_each {deviceType : String} (branch : Branch)
    (same : ∀ spec, branch.unhashable spec ↔ ListsOptions deviceType spec)
    (doorbell : deviceType ≠ "Doorbell") (light : deviceType ≠ "Light") :
    Fits deviceType (.each branch) where
  unhashable_iff := same
  loses_iff _ _ := iff_of_false id fun lost => doorbell lost.1
  absorbs_iff _ := iff_of_false id fun absorbed => light absorbed.1

/-- A branch without unhashable traits fits the device types that list no options. -/
theorem fits_plain {deviceType : String} (branch : Branch)
    (hashable : ∀ spec, ¬ branch.unhashable spec) (covering : deviceType ≠ "WindowCovering")
    (speaker : deviceType ≠ "Speaker") (doorbell : deviceType ≠ "Doorbell")
    (light : deviceType ≠ "Light") : Fits deviceType (.each branch) :=
  fits_each branch
    (fun spec => iff_of_false (hashable spec)
      (((fits_fallback covering speaker doorbell light).unhashable_iff spec).not.mp id))
    doorbell light

theorem fits_doorbell : Fits "Doorbell" .doorbell where
  unhashable_iff _ := iff_of_false id fun bad => by simp [ListsOptions] at bad
  loses_iff _ _ := by simp [Composing.Loses, LosesEvent]
  absorbs_iff _ := iff_of_false id fun absorbed => by simp at absorbed

theorem fits_light : Fits "Light" .light where
  unhashable_iff _ := iff_of_false id fun bad => by simp [ListsOptions] at bad
  loses_iff _ _ := iff_of_false id fun lost => by simp [LosesEvent] at lost
  absorbs_iff _ := by simp [Composing.Absorbs]

theorem fits_speaker : Fits "Speaker" (.each speaker) :=
  fits_each speaker
    (fun spec => by simp [speaker, Branch.ofListing, ListsOptions, and_comm]) (by decide) (by decide)

theorem fits_windowCovering : Fits "WindowCovering" (.each windowCovering) :=
  fits_each windowCovering
    (fun spec => by simp [windowCovering, Branch.ofListing, ListsOptions, and_comm]) (by decide)
    (by decide)

theorem fits_composers : ∀ entry ∈ composers, Fits entry.1 entry.2 := by
  simp only [composers, List.forall_mem_cons]
  and_intros
  all_goals first
    | exact fits_fallback (by decide) (by decide) (by decide) (by decide)
    | exact fits_plain _ (fun _ bad => bad) (by decide) (by decide) (by decide) (by decide)
    | exact fits_light
    | exact fits_doorbell
    | exact fits_speaker
    | exact fits_windowCovering
    | exact fun _ member => absurd member List.not_mem_nil

/-- Every device type has a composer that fits it. -/
theorem fits_getComposer (deviceType : String) : Fits deviceType (getComposer deviceType) := by
  cases found : composers.lookup deviceType with
  | some composing =>
      have listed := fits_composers (deviceType, composing) (mem_of_lookup found)
      rwa [getComposer, found]
  | none =>
      rw [getComposer, found]
      refine fits_fallback ?_ ?_ ?_ ?_
      · rintro rfl
        exact absurd found (by simp [composers])
      · rintro rfl
        exact absurd found (by simp [composers])
      · rintro rfl
        exact absurd found (by simp [composers])
      · rintro rfl
        exact absurd found (by simp [composers])

end DeviceTypes
end Reference
end AqaraLanLink
