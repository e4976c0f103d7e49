import AqaraLanLink.Reference.GapReport
import AqaraLanLink.Reference.Routing

/-!
# The labels of enumerated traits

`sensor.py`, `select.py` and `event.py`, as far as they read and write the values of a trait, and what
becomes there of the labels of the trait's `enum_values`.
-/

namespace AqaraLanLink
namespace Reference
namespace Enumerations

open Library DeviceTypes

/-! ## Sensors -/

/-- Python's floating-point numbers. -/
structure Arithmetic (F : Type) where
  /-- `float` of a text, unless it raises a `ValueError`. -/
  read : String → Option F
  /-- `float` of an integer, unless it raises an `OverflowError`. -/
  ofInt : ℤ → Option F
  times : F → ℚ → F

/-- What a sensor shows. -/
inductive NativeValue (F : Type) where
  | text (text : String)
  | int (value : ℤ)
  | float (value : F)
  deriving DecidableEq, Repr

/-- What `AqaraSensor` keeps. -/
structure SensorState (F : Type) where
  /-- `_attr_native_value`. -/
  nativeValue : Option (NativeValue F)
  /-- `_attr_extra_state_attributes`, by its `full_value`. -/
  fullValue : Option String
  deriving DecidableEq, Repr

/-- `MAX_LENGTH_STATE_STATE`. -/
def maxLengthState : ℕ := 255

/-- What is shown of a value that is too long for a state. -/
def shorten (text : String) : String :=
  String.ofList (text.toList.take (maxLengthState - 1) ++ ['…'])

/-- `_attr_options`, if there are any. -/
def sensorOptions (part : SensorPart) : Option (List String) :=
  part.options.map fun options =>
    match options with
    | .tuple labels => labels
    | .list labels => labels

section
variable {F : Type} (arithmetic : Arithmetic F)

/-- `descriptor.transform_in`, or `_default_transform_for`. -/
def transform (part : SensorPart) (raw : String) : NativeValue F :=
  match part.transformIn with
  | some labels => .text ((labels.get? raw).getD raw)
  | none =>
      if part.trait.dataType = "float" then ((arithmetic.read raw).map .float).getD (.text raw)
      else if part.trait.dataType = "int" then
        ((Python.int raw.toList).map .int).getD (.text raw)
      else .text raw

/-- `float(value) * scale`, if there is a scale, unless it raises an `OverflowError`. -/
def scaled (scale : Option ℚ) (value : NativeValue F) : Option (NativeValue F) :=
  match scale, value with
  | none, value => some value
  | some scale, .text text =>
      some (((arithmetic.read text).map fun number =>
        .float (arithmetic.times number scale)).getD (.text text))
  | some scale, .int number =>
      (arithmetic.ofInt number).map fun number => .float (arithmetic.times number scale)
  | some scale, .float number => some (.float (arithmetic.times number scale))

/-- A state, and an attribute for a text that is too long for it. -/
def bounded (value : NativeValue F) : SensorState F :=
  match value with
  | .text text =>
      if maxLengthState < text.length then ⟨some (.text (shorten text)), some text⟩
      else ⟨some value, none⟩
  | value => ⟨some value, none⟩

/-- `AqaraSensor.apply_value`, unless it raises an `OverflowError`. -/
def applySensor (part : SensorPart) (raw : String) : Option (SensorState F) :=
  if raw = "" then some ⟨none, none⟩
  else (scaled arithmetic part.scale (transform arithmetic part raw)).map bounded

end

/-! ## Selects -/

/-- `_attr_options`. -/
def selectOptions (part : SelectPart) : List String := part.optionsMap.map Prod.fst

/-- `AqaraSelect.apply_value`: the current option afterwards. -/
def applySelect (part : SelectPart) (currentOption : Option String) (raw : String) :
    Option String :=
  match part.optionsMap.find? fun option => option.2 = raw with
  | some option => some option.1
  | none => currentOption

/-- `async_select_option`: what is written and the current option afterwards, unless it raises a
`KeyError`. -/
def selectOption (part : SelectPart) (currentOption : Option String) (label : String) :
    Option ((AttrSpec × String) × Option String) :=
  (part.optionsMap.find? fun option => option.1 = label).map fun option =>
    ((part.attr, option.2), if part.optimistic then some label else currentOption)

/-! ## Events -/

/-- `AqaraEvent.__init__`: the event types, unless it raises a `ValueError`. -/
def initEvent (part : EventPart) : Option (List String) :=
  if 1 < part.eventTypes.length ∧ part.triggerTrait.labels = none then none
  else some part.eventTypes

/-- The type that stands in for a value without a type of its own. -/
def fallbackType (part : EventPart) : Option String :=
  part.unknownEventType.filter fun type => type ∈ part.eventTypes

/-- The type of event that a wire value is. -/
def eventType (part : EventPart) (raw : String) : Option String :=
  match part.triggerTrait.labels with
  | none => part.eventTypes.head?
  | some labels =>
      match labels.get? raw with
      | none => fallbackType part
      | some label => if label ∈ part.eventTypes then some label else fallbackType part

/-- `AqaraEvent.apply_value`: the event that is fired with its payload, if one is. -/
def applyEvent (part : EventPart) (raw : String) : Option (String × Option (String × String)) :=
  if part.eventTypes = [] then none
  else (eventType part raw).map fun type => (type, part.valuePayloadKey.map fun key => (key, raw))

/-! ## What is shown of a trait -/

/-- The trait is rendered without a transformation to its labels. -/
def LacksTransform (deviceType : String) (spec : TraitSpec) : Prop :=
  spec.platform = none ∧ ListsOptions deviceType spec

/-- The trait is rendered as an event with one type, whose payload tells the values apart. -/
def Identifies (deviceType : String) (spec : TraitSpec) : Prop :=
  spec.platform = none ∧ deviceType = "FaceScanner" ∧
    spec.HasCodes "FaceRecognition" "FaceIDReport"

/-- The trait is rendered as the ring of a doorbell. -/
def Rings (deviceType : String) (spec : TraitSpec) : Prop :=
  spec.platform = none ∧ deviceType = "Doorbell" ∧ spec.HasCodes "Doorbell" "ButtonEvent"

instance (deviceType : String) (spec : TraitSpec) : Decidable (Rings deviceType spec) :=
  inferInstanceAs (Decidable (_ ∧ _ ∧ _))

/-- The labels of an event: of a doorbell's button the first is the ring. -/
def eventLabels (deviceType : String) (spec : TraitSpec) (labels : Dictionary String String) :
    Dictionary String String :=
  if Rings deviceType spec then normalisedEnum labels else labels

section
variable {F : Type} (arithmetic : Arithmetic F)

/-- A sensor shows the label of each wire value. -/
structure SensorShows (labels : Dictionary String String) (part : SensorPart) : Prop where
  label : ∀ wire label, (wire, label) ∈ labels.entries → wire ≠ "" →
    applySensor arithmetic part wire = some (bounded (.text label))
  option : ∀ wire label, (wire, label) ∈ labels.entries →
    ∃ options, sensorOptions part = some options ∧ label ∈ options

/-- A select shows the label of each wire value, and writes a wire value of the label. -/
structure SelectShows (labels : Dictionary String String) (part : SelectPart) : Prop where
  label : ∀ wire label, (wire, label) ∈ labels.entries → ∀ currentOption,
    applySelect part currentOption wire = some label
  option : ∀ wire label, (wire, label) ∈ labels.entries → label ∈ selectOptions part
  wire : ∀ wire label, (wire, label) ∈ labels.entries → ∀ currentOption,
    ∃ wire' next, selectOption part currentOption label = some ((part.attr, wire'), next) ∧
      (wire', label) ∈ labels.entries

/-- An event fires the label of each wire value. -/
structure EventFires (labels : Dictionary String String) (part : EventPart) : Prop where
  init : initEvent part = some part.eventTypes
  label : ∀ wire label, (wire, label) ∈ labels.entries →
    (applyEvent part wire).map Prod.fst = some label
  type : ∀ wire label, (wire, label) ∈ labels.entries → label ∈ part.eventTypes

/-- What the descriptor of a trait on an endpoint makes of the labels of the trait. -/
def Shows (deviceType : String) (spec : TraitSpec) (labels : Dictionary String String)
    (descriptor : AnyDescriptor) : Prop :=
  match descriptor.binding with
  | .sensor part =>
      descriptor.deviceClass = some "enum" → ¬ LacksTransform deviceType spec →
        SensorShows arithmetic labels part
  | .select part => SelectShows labels part
  | .event part =>
      ¬ Identifies deviceType spec → EventFires (eventLabels deviceType spec labels) part
  | _ => True

variable {arithmetic}

/-! ## One descriptor -/

theorem snd_mem_values {labels : Dictionary String String} {wire label : String}
    (entry : (wire, label) ∈ labels.entries) : label ∈ labels.values :=
  List.mem_map.mpr ⟨(wire, label), entry, rfl⟩

/-- A sensor that looks up its labels. -/
theorem sensorShows_of_transformIn {labels : Dictionary String String} {part : SensorPart}
    (looks : part.transformIn = some labels) (plain : part.scale = none)
    (listed : sensorOptions part = some labels.values) : SensorShows arithmetic labels part where
  label wire label entry filled := by
    have found := Dictionary.get?_eq_some_iff.mpr entry
    have value : transform arithmetic part wire = .text label := by
      rw [transform, looks]
      simp only [found, Option.getD_some]
    rw [applySensor, if_neg filled, plain, scaled, value]
    rfl
  option _ _ entry := ⟨_, listed, snd_mem_values entry⟩

/-- A select whose options are the labels with their wire values. -/
theorem selectShows_of_optionsMap {labels : Dictionary String String} {part : SelectPart}
    (options : part.optionsMap = labels.entries.map Prod.swap) : SelectShows labels part where
  label wire label entry currentOption := by
    have there : (label, wire) ∈ part.optionsMap := by
      rw [options]
      exact List.mem_map.mpr ⟨(wire, label), entry, rfl⟩
    rw [applySelect]
    split
    · rename_i option found
      have same : option.2 = wire := by simpa using List.find?_some found
      have known := List.mem_of_find?_eq_some found
      rw [options] at known
      obtain ⟨other, member, rfl⟩ := List.mem_map.mp known
      have equal := labels.eq_of_mem member entry same
      exact congrArg some (congrArg Prod.snd equal)
    · rename_i missing
      exact absurd (decide_eq_true rfl) (List.find?_eq_none.mp missing _ there)
  option wire label entry := by
    rw [selectOptions, options, List.map_map]
    exact List.mem_map.mpr ⟨(wire, label), entry, rfl⟩
  wire wire label entry currentOption := by
    have there : (label, wire) ∈ part.optionsMap := by
      rw [options]
      exact List.mem_map.mpr ⟨(wire, label), entry, rfl⟩
    cases found : part.optionsMap.find? fun option => option.1 = label with
    | none => exact absurd (decide_eq_true rfl) (List.find?_eq_none.mp found _ there)
    | some option =>
        refine ⟨option.2, _, by rw [selectOption, found]; rfl, ?_⟩
        have same : option.1 = label := by simpa using List.find?_some found
        have known := List.mem_of_find?_eq_some found
        rw [options] at known
        obtain ⟨other, member, rfl⟩ := List.mem_map.mp known
        rw [← same]
        exact member

/-- An event whose types have the labels of its trait among them. -/
theorem eventFires_of_labels {labels : Dictionary String String} {part : EventPart}
    (looks : part.triggerTrait.labels = some labels) (types : labels.values ⊆ part.eventTypes) :
    EventFires labels part where
  init := by
    rw [initEvent, if_neg]
    rintro ⟨_, none⟩
    rw [looks] at none
    cases none
  label wire label entry := by
    have member := types (snd_mem_values entry)
    have fired : eventType part wire = some label := by
      rw [eventType, looks]
      simp only [Dictionary.get?_eq_some_iff.mpr entry, if_pos member]
    rw [applyEvent, if_neg (List.ne_nil_of_mem member), fired]
    rfl
  type _ _ entry := types (snd_mem_values entry)

variable {deviceType : String} {spec : TraitSpec} {labels : Dictionary String String}

theorem eventLabels_of_not_rings (quiet : ¬ Rings deviceType spec) :
    eventLabels deviceType spec labels = labels := if_neg quiet

/-- What `build_descriptor` makes of a trait shows its labels. -/
theorem shows_buildDescriptor (labelled : spec.labels = some labels)
    (quiet : ¬ Rings deviceType spec) {platform : Platform} {descriptor : AnyDescriptor}
    (built : buildDescriptor spec platform = some descriptor) :
    Shows arithmetic deviceType spec labels descriptor := by
  cases platform with
  | sensor =>
      simp only [buildDescriptor, labelled] at built
      cases built
      exact fun _ _ => sensorShows_of_transformIn rfl rfl rfl
  | select =>
      simp only [buildDescriptor, labelled] at built
      cases built
      exact selectShows_of_optionsMap rfl
  | event =>
      simp only [buildDescriptor, labelled] at built
      cases built
      intro _
      rw [eventLabels_of_not_rings quiet]
      exact eventFires_of_labels labelled fun _ member => member
  | binarySensor => cases built; trivial
  | number => cases built; trivial
  | switch => cases built; trivial
  | button => cases built; trivial

theorem shows_descriptorForTrait (labelled : spec.labels = some labels)
    (quiet : ¬ Rings deviceType spec) {descriptor : AnyDescriptor}
    (built : descriptorForTrait spec = some descriptor) :
    Shows arithmetic deviceType spec labels descriptor :=
  shows_buildDescriptor labelled quiet built

/-- An event of the labels of a trait shows them. -/
theorem shows_labelEvent (labelled : spec.labels = some labels) (quiet : ¬ Rings deviceType spec)
    (standIn : List String) : Shows arithmetic deviceType spec labels (labelEvent spec standIn) := by
  intro _
  rw [eventLabels_of_not_rings quiet]
  refine eventFires_of_labels labelled ?_
  rw [labelled]
  exact fun _ member => member

/-! ## Composers -/

variable (arithmetic deviceType) in
/-- Whatever a composer makes of a trait shows its labels. -/
def ShowsAll (composing : Composing) : Prop :=
  ∀ specs spec, (deviceType ≠ "Light" → spec.platform = none) →
    ∀ descriptor ∈ composing.become specs spec, ∀ labels, spec.labels = some labels →
      Shows arithmetic deviceType spec labels descriptor

variable (arithmetic deviceType) in
/-- Whatever a branch makes of its own traits shows their labels. -/
def ShowsOwn (branch : Branch) : Prop :=
  ∀ spec descriptors, spec.platform = none → branch.own spec = some descriptors →
    ∀ descriptor ∈ descriptors, ∀ labels, spec.labels = some labels →
      Shows arithmetic deviceType spec labels descriptor

theorem showsAll_fallback (other : deviceType ≠ "Doorbell") :
    ShowsAll arithmetic deviceType .fallback :=
  fun _ _ _ _ member _ labelled => shows_descriptorForTrait labelled
    (fun rings => other rings.2.1) (Option.mem_toList.mp member)

theorem showsAll_each {branch : Branch} (own : ShowsOwn arithmetic deviceType branch)
    (bell : deviceType ≠ "Doorbell") (light : deviceType ≠ "Light") :
    ShowsAll arithmetic deviceType (.each branch) := by
  intro specs spec free descriptor member labels labelled
  change descriptor ∈ branch.become spec at member
  cases owned : branch.own spec with
  | some descriptors =>
      rw [Branch.become, owned, Option.getD_some] at member
      exact own spec descriptors (free light) owned descriptor member labels labelled
  | none =>
      rw [Branch.become, owned, Option.getD_none] at member
      exact shows_descriptorForTrait labelled (fun rings => bell rings.2.1)
        (Option.mem_toList.mp member)

/-- A branch that makes one descriptor of each of its traits. -/
theorem showsOwn_of_own {branch : Branch} {pick : TraitSpec → Option AnyDescriptor}
    (own : ∀ spec, branch.own spec = (pick spec).map fun descriptor => [descriptor])
    (shown : ∀ spec labels descriptor, spec.platform = none → spec.labels = some labels →
      pick spec = some descriptor → Shows arithmetic deviceType spec labels descriptor) :
    ShowsOwn arithmetic deviceType branch := by
  intro spec descriptors free owned descriptor member labels labelled
  rw [own] at owned
  obtain ⟨picked, found, rfl⟩ := Option.map_eq_some_iff.mp owned
  rw [List.mem_singleton.mp member]
  exact shown spec labels picked free labelled found

theorem showsOwn_singleTrait {functionCode traitCode : String}
    {descriptorFactory : TraitSpec → AnyDescriptor}
    {faithful : ∀ spec, Stands (descriptorFactory spec) spec ∧ (descriptorFactory spec).hashable}
    (shown : ∀ spec labels, spec.platform = none → spec.HasCodes functionCode traitCode →
      spec.labels = some labels →
        Shows arithmetic deviceType spec labels (descriptorFactory spec)) :
    ShowsOwn arithmetic deviceType (.singleTrait functionCode traitCode descriptorFactory faithful) :=
  showsOwn_of_own (fun _ => rfl) fun spec labels descriptor free labelled picked => by
    split at picked
    · rename_i codes
      exact Option.some.inj picked ▸ shown spec labels free codes labelled
    · cases picked

/-- A sensor of another device class has no labels to show. -/
theorem shows_sensor {descriptor : AnyDescriptor} {part : SensorPart}
    (sensor : descriptor.binding = .sensor part) (other : descriptor.deviceClass ≠ some "enum") :
    Shows arithmetic deviceType spec labels descriptor := by
  rw [Shows, sensor]
  exact fun enum => absurd enum other

theorem showsOwn_measurementSensor {functionCode traitCode deviceClass defaultUnit : String}
    {useSpecUnit : Bool} (other : deviceClass ≠ "enum") :
    ShowsOwn arithmetic deviceType (.singleTrait functionCode traitCode
      (measurementSensor deviceClass defaultUnit useSpecUnit) fun _ => ⟨⟨rfl, rfl⟩, rfl⟩) :=
  showsOwn_singleTrait fun _ _ _ _ _ => shows_sensor rfl (by simpa [measurementSensor] using other)

theorem showsOwn_electricalSensor : ShowsOwn arithmetic deviceType electricalSensor := by
  refine showsOwn_of_own (fun _ => rfl) fun spec labels descriptor _ _ picked => ?_
  rw [electricalTrait] at picked
  split at picked
  · obtain ⟨classes, found, rfl⟩ := Option.map_eq_some_iff.mp picked
    refine shows_sensor rfl fun enum => ?_
    have same : classes.1 = "enum" := Option.some.inj enum
    have known := mem_of_lookup found
    simp only [electricalTraits, List.mem_cons, List.not_mem_nil, or_false, Prod.mk.injEq] at known
    rcases known with ⟨-, rfl⟩ | ⟨-, rfl⟩ | ⟨-, rfl⟩
    all_goals exact absurd same (by decide)
  · cases picked

theorem showsOwn_binary {functionCode traitCode : String}
    {descriptorFactory : TraitSpec → AnyDescriptor}
    {faithful : ∀ spec, Stands (descriptorFactory spec) spec ∧ (descriptorFactory spec).hashable}
    (binary : ∀ spec, ∃ part, (descriptorFactory spec).binding = .binarySensor part) :
    ShowsOwn arithmetic deviceType
      (.singleTrait functionCode traitCode descriptorFactory faithful) :=
  showsOwn_singleTrait fun spec _ _ _ _ => by
    obtain ⟨part, same⟩ := binary spec
    rw [Shows, same]
    trivial

theorem showsOwn_recognition (functionCode traitCode : String) (deviceClass : Option String) :
    ShowsOwn arithmetic deviceType (makeRecognitionComposer functionCode traitCode deviceClass) :=
  showsOwn_binary fun _ => ⟨_, rfl⟩

theorem showsOwn_detection (functionCode traitCode : String) (deviceClass : Option String) :
    ShowsOwn arithmetic deviceType (makeDetectionComposer functionCode traitCode deviceClass) :=
  showsOwn_binary fun _ => ⟨_, rfl⟩

theorem showsOwn_switch : ShowsOwn arithmetic deviceType DeviceTypes.switch :=
  showsOwn_singleTrait fun _ _ _ _ _ => trivial

theorem showsOwn_occupancy {occupancyDeviceClass : String} {occupancyName : Option String}
    {occupancyAutoClear : Option ℚ} : ShowsOwn arithmetic deviceType
      (.ofPick (occupancyTrait occupancyDeviceClass occupancyName occupancyAutoClear)
        (occupancyTrait_stands _ _ _)) := by
  refine showsOwn_of_own (fun _ => rfl) fun spec labels descriptor _ _ picked => ?_
  rw [occupancyTrait] at picked
  split at picked
  · cases picked
    trivial
  · split at picked
    · cases picked
      trivial
    · cases picked

theorem showsOwn_enumEvent (bell : deviceType ≠ "Doorbell") (functionCode traitCode : String) :
    ShowsOwn arithmetic deviceType (makeEnumEventComposer functionCode traitCode) :=
  showsOwn_singleTrait fun spec labels _ _ labelled => by
    intro _
    rw [eventLabels_of_not_rings fun rings => bell rings.2.1]
    refine eventFires_of_labels labelled ?_
    rw [labelled]
    exact List.subset_append_left _ _

/-- The values of a face scanner are told apart by the payload alone. -/
theorem showsOwn_faceScanner : ShowsOwn arithmetic "FaceScanner" faceScanner := by
  have own : ShowsOwn arithmetic "FaceScanner"
      (makeIdEventComposer "FaceRecognition" "FaceIDReport" "face_id") :=
    showsOwn_singleTrait fun _ _ free codes _ other => absurd ⟨free, rfl, codes⟩ other
  exact own

theorem showsOwn_button (bell : deviceType ≠ "Doorbell") :
    ShowsOwn arithmetic deviceType button :=
  showsOwn_singleTrait fun _ _ _ _ labelled =>
    shows_labelEvent labelled (fun rings => bell rings.2.1) _

theorem showsOwn_knob (bell : deviceType ≠ "Doorbell") : ShowsOwn arithmetic deviceType knob := by
  refine showsOwn_of_own (fun _ => rfl) fun spec labels descriptor _ labelled picked => ?_
  rw [knobTrait] at picked
  split at picked
  · cases picked
    exact shows_labelEvent labelled (fun rings => bell rings.2.1) _
  · cases picked

theorem showsOwn_cube (bell : deviceType ≠ "Doorbell") : ShowsOwn arithmetic deviceType cube := by
  refine showsOwn_of_own (fun _ => rfl) fun spec labels descriptor _ labelled picked => ?_
  have events : Shows arithmetic deviceType spec labels (labelEvent spec []) :=
    shows_labelEvent labelled (fun rings => bell rings.2.1) []
  rw [cubeTrait] at picked
  split at picked
  · split at picked
    · cases picked
      exact events
    · cases picked
      exact events
    · cases picked
      exact shows_sensor rfl (Option.some_ne_none _).symm
    · cases picked
  · cases picked

theorem showsOwn_vibrationSensor (bell : deviceType ≠ "Doorbell") :
    ShowsOwn arithmetic deviceType vibrationSensor := by
  refine showsOwn_of_own (fun _ => rfl) fun spec labels descriptor _ labelled picked => ?_
  rw [vibrationTrait] at picked
  split at picked
  · split at picked
    · cases picked
      exact shows_labelEvent labelled (fun rings => bell rings.2.1) _
    · cases picked
      exact shows_sensor rfl (Option.some_ne_none _).symm
    · cases picked
  · cases picked

theorem showsOwn_doorLock (bell : deviceType ≠ "Doorbell") :
    ShowsOwn arithmetic deviceType doorLock := by
  intro spec descriptors free owned descriptor member labels labelled
  have quiet : ¬ Rings deviceType spec := fun rings => bell rings.2.1
  have dual : ∀ deviceClass binaryName onValues,
      descriptor ∈ dualState spec deviceClass binaryName onValues →
        Shows arithmetic deviceType spec labels descriptor := by
    intro deviceClass binaryName onValues member
    rcases List.mem_append.mp member with sensor | binary
    · exact shows_buildDescriptor labelled quiet (Option.mem_toList.mp sensor)
    · rw [List.mem_singleton.mp binary]
      trivial
  change doorLockTraits spec = some descriptors at owned
  rw [doorLockTraits] at owned
  split at owned
  · split at owned
    · cases owned
      exact dual _ _ _ member
    · cases owned
      exact dual _ _ _ member
    · cases owned
      rw [List.mem_singleton.mp member]
      trivial
    · cases owned
      rw [List.mem_singleton.mp member]
      trivial
    · cases owned
  · cases owned

/-- A number has no labels to show. -/
theorem shows_rangedNumber (least most step : ℚ) (unit : Option String) :
    Shows arithmetic deviceType spec labels (rangedNumber spec least most step unit) := trivial

theorem showsOwn_speaker : ShowsOwn arithmetic "Speaker" speaker := by
  refine showsOwn_of_own (fun _ => rfl) fun spec labels descriptor free labelled picked => ?_
  rw [speakerTrait] at picked
  split at picked
  · cases picked
    exact shows_rangedNumber _ _ _ _
  · split at picked
    · cases picked
      trivial
    · split at picked
      · rename_i codes
        cases picked
        have some : spec.labels ≠ none := by simp [labelled]
        exact fun _ transforms => absurd ⟨free, some, Or.inr ⟨rfl, codes⟩⟩ transforms
      · cases picked

theorem showsOwn_windowCovering : ShowsOwn arithmetic "WindowCovering" windowCovering := by
  refine showsOwn_of_own (fun _ => rfl) fun spec labels descriptor free labelled picked => ?_
  rw [windowCoveringTrait] at picked
  split at picked
  · rename_i functionCode
    split at picked
    · cases picked
      exact shows_sensor rfl (Option.some_ne_none _).symm
    · cases picked
      exact shows_rangedNumber _ _ _ _
    · rename_i traitCode
      cases picked
      have some : spec.labels ≠ none := by simp [labelled]
      exact fun _ transforms =>
        absurd ⟨free, some, Or.inl ⟨rfl, functionCode, traitCode⟩⟩ transforms
    · cases picked
  · cases picked

theorem showsOwn_thermostat : ShowsOwn arithmetic deviceType thermostat := by
  refine showsOwn_of_own (fun _ => rfl) fun spec labels descriptor _ labelled picked => ?_
  have number (most : ℚ) :
      Shows arithmetic deviceType spec labels (temperatureNumber spec most) := trivial
  rw [thermostatTrait] at picked
  split at picked
  · split at picked
    · cases picked
      exact shows_sensor rfl (by simp [currentSensor])
    · cases picked
      refine selectShows_of_optionsMap ?_
      rw [labelled]
      rfl
    · cases picked
      exact number 35
    · cases picked
      exact number 35
    · cases picked
      exact shows_sensor rfl (by simp [currentSensor])
    · cases picked
      trivial
    · cases picked
  · cases picked

/-- The first press of a doorbell rings, and the others fire their labels. -/
theorem shows_ringEvent (labelled : spec.labels = some labels) (free : spec.platform = none)
    (codes : spec.HasCodes "Doorbell" "ButtonEvent") :
    Shows arithmetic "Doorbell" spec labels (ringEvent spec) := by
  intro _
  have rings : Rings "Doorbell" spec := ⟨free, rfl, codes⟩
  rw [eventLabels, if_pos rings]
  obtain ⟨_, filled⟩ := Option.filter_eq_some_iff.mp labelled
  have some : (normalisedEnum labels).entries ≠ [] := by
    cases entries : labels.entries with
    | nil => simp [entries] at filled
    | cons first others =>
        change ringLabels labels.entries ≠ []
        rw [entries]
        exact List.cons_ne_nil _ _
  refine eventFires_of_labels ?_ ?_
  · change (Option.filter _ (spec.labels.map normalisedEnum)) = _
    rw [labelled, Option.map_some, Option.filter_some, if_pos]
    simpa using some
  · change _ ⊆ "ring" :: ((spec.labels.map Dictionary.values).getD []).tail
    rw [labelled]
    intro label member
    obtain ⟨entry, known, rfl⟩ := List.mem_map.mp member
    change entry ∈ ringLabels labels.entries at known
    cases entries : labels.entries with
    | nil =>
        rw [entries] at known
        cases known
    | cons first others =>
        rw [entries, ringLabels] at known
        rcases List.mem_cons.mp known with rfl | later
        · exact List.mem_cons_self
        · refine List.mem_cons_of_mem _ ?_
          simp only [Option.map_some, Option.getD_some, Dictionary.values, entries, List.map_cons,
            List.tail_cons]
          exact List.mem_map_of_mem later

theorem showsAll_doorbell : ShowsAll arithmetic "Doorbell" .doorbell := by
  intro specs spec free descriptor member labels labelled
  rw [Composing.become] at member
  split at member
  · next codes =>
    split at member
    · obtain rfl := List.mem_singleton.mp member
      exact shows_ringEvent labelled (free (by decide)) codes
    · exact absurd member List.not_mem_nil
  · next other =>
    exact shows_descriptorForTrait labelled (fun rings => other rings.2.2)
      (Option.mem_toList.mp member)

theorem showsAll_light : ShowsAll arithmetic "Light" .light := by
  intro specs spec _ descriptor member labels labelled
  rw [Composing.become] at member
  split at member
  · split at member
    · obtain rfl := List.mem_singleton.mp member
      trivial
    · exact absurd member List.not_mem_nil
  · exact shows_descriptorForTrait labelled (fun rings => absurd rings.2.1 (by decide))
      (Option.mem_toList.mp member)

variable (arithmetic) in
theorem showsAll_composers : ∀ entry ∈ composers, ShowsAll arithmetic entry.1 entry.2 := by
  simp only [composers, List.forall_mem_cons]
  and_intros
  all_goals first
    | exact showsAll_fallback (by decide)
    | exact showsAll_light
    | exact showsAll_doorbell
    | exact fun _ member => absurd member List.not_mem_nil
    | refine showsAll_each ?_ (by decide) (by decide)
      first
        | exact showsOwn_binary fun _ => ⟨_, rfl⟩
        | exact showsOwn_recognition _ _ _
        | exact showsOwn_detection _ _ _
        | exact showsOwn_measurementSensor (by decide)
        | exact showsOwn_electricalSensor
        | exact showsOwn_switch
        | exact showsOwn_occupancy
        | exact showsOwn_enumEvent (by decide) _ _
        | exact showsOwn_faceScanner
        | exact showsOwn_button (by decide)
        | exact showsOwn_knob (by decide)
        | exact showsOwn_cube (by decide)
        | exact showsOwn_vibrationSensor (by decide)
        | exact showsOwn_doorLock (by decide)
        | exact showsOwn_speaker
        | exact showsOwn_windowCovering
        | exact showsOwn_thermostat

theorem showsAll_getComposer (deviceType : String) :
    ShowsAll arithmetic deviceType (getComposer deviceType) := by
  cases found : composers.lookup deviceType with
  | some composing =>
      have listed := showsAll_composers arithmetic (deviceType, composing) (mem_of_lookup found)
      rwa [getComposer, found]
  | none =>
      rw [getComposer, found]
      refine showsAll_fallback ?_
      rintro rfl
      exact absurd found (by simp [composers])

/-! ## A model -/

/-- An override forces a descriptor that shows the labels. -/
theorem shows_forced (labelled : spec.labels = some labels)
    {descriptor : AnyDescriptor} (built : forced spec = some descriptor) :
    Shows arithmetic deviceType spec labels descriptor := by
  obtain ⟨platform, chosen, made⟩ := Option.bind_eq_some_iff.mp built
  refine shows_buildDescriptor labelled (fun rings => ?_) made
  rw [rings.1] at chosen
  cases chosen

/-- What a trait becomes shows its labels. -/
theorem shows_become {specs : List TraitSpec} {descriptor : AnyDescriptor}
    (member : descriptor ∈ become deviceType specs spec) (labelled : spec.labels = some labels) :
    Shows arithmetic deviceType spec labels descriptor := by
  rw [become] at member
  split at member
  · next light =>
    exact showsAll_getComposer deviceType _ spec (fun other => absurd light other) descriptor
      member labels labelled
  · split at member
    · next absent =>
      exact showsAll_getComposer deviceType _ spec (fun _ => absent) descriptor member labels labelled
    · exact shows_forced labelled (Option.mem_toList.mp member)

/-- Where ids are wire paths, a descriptor that stands for a trait shows its labels. -/
theorem shows_classifyEndpoint (model : String) (endpoint : ℤ) {specs : List TraitSpec}
    (kept : Kept specs) {descriptor : AnyDescriptor}
    (member : descriptor ∈ (classifyEndpoint model deviceType endpoint specs).descriptors)
    (known : spec ∈ specs) (path : spec.id ∈ descriptor.traitPaths)
    (labelled : spec.labels = some labels) :
    Shows arithmetic deviceType spec labels descriptor := by
  obtain ⟨other, there, made⟩ := exists_of_mem_classifyEndpoint member
  rcases of_mem_become made with ⟨-, -, rfl⟩ | ⟨free, complete, first⟩
  · trivial
  · have own : spec.id = other.id := by
      have whole := made_become free complete first
      rw [whole.traitPaths_eq descriptor made, List.mem_singleton] at path
      rcases whole.route_eq with id | wire
      · exact path.trans id
      · exact (path.trans wire).trans (kept.path_eq other there)
    obtain rfl := kept.eq_of_id known there own
    exact shows_become made labelled

/-- `disambiguate_names` leaves the device class and the binding of a descriptor. -/
theorem exists_of_disambiguateNames {descriptors results : List AnyDescriptor}
    (done : disambiguateNames descriptors = .ok results) {result : AnyDescriptor}
    (member : result ∈ results) : ∃ descriptor ∈ descriptors,
      result.binding = descriptor.binding ∧ result.deviceClass = descriptor.deviceClass := by
  obtain ⟨source, known, renamed⟩ := exists_of_mapM done result member
  have there : source.1 ∈ descriptors := by
    have projected := List.mem_map_of_mem (f := Prod.fst) known
    rwa [List.zipIdx_map_fst] at projected
  refine ⟨source.1, there, (renames_of_disambiguated renamed).binding_eq, ?_⟩
  simp only [disambiguated] at renamed
  split at renamed
  · cases renamed
    rfl
  · obtain ⟨members, -, last⟩ := bind_eq_ok_iff.mp renamed
    cases last
    simp only [rename]
    split
    · rfl
    · split
      · rfl
      · rfl

/-- Whatever `classify_v3` makes of an enumerated trait shows the labels of the trait. -/
theorem enumerations_shown (arithmetic : Arithmetic F) (model : String) (endpoints : Endpoints)
    (traits : TraitMap) (activeEndpoints : Option (List ℤ)) {derived : Derived}
    (done : classifyV3 model endpoints traits.toDictionary activeEndpoints = .ok derived) :
    ∀ spec ∈ traits.values, ∀ labels, spec.labels = some labels →
      ∀ descriptor ∈ derived.descriptors, spec.id ∈ descriptor.traitPaths →
        Shows arithmetic (deviceTypeOf endpoints spec.endpoint) spec labels descriptor := by
  intro spec known labels labelled renamed member path
  have kept := traits.kept_values
  obtain ⟨descriptors, named, same⟩ := bind_eq_ok_iff.mp done
  cases same
  obtain ⟨descriptor, original, binding, deviceClass⟩ := exists_of_disambiguateNames named member
  have path' : spec.id ∈ descriptor.traitPaths := by
    rwa [AnyDescriptor.traitPaths, binding] at path
  rw [List.flatMap_map] at original
  obtain ⟨endpoint, -, inside⟩ := List.mem_flatMap.mp original
  have here := kept.sublist (endpointSpecs_sublist traits.toDictionary endpoint)
  obtain ⟨other, there, ids⟩ := (sourced_of_classifyEndpoint inside).exists_id here path'
  obtain ⟨otherKnown, rfl⟩ := mem_endpointSpecs.mp there
  obtain rfl := kept.eq_of_id known otherKnown ids
  have shown : Shows arithmetic (deviceTypeOf endpoints spec.endpoint) spec labels descriptor :=
    shows_classifyEndpoint model spec.endpoint here inside there path' labelled
  rwa [Shows, binding, deviceClass]

end

/-- The traits of a model that has one trait. -/
def singleTrait (spec : TraitSpec) (filed : Filed spec.id spec) : TraitMap where
  entries := [(spec.id, spec)]
  nodup := List.nodup_singleton _
  filed := List.forall_mem_singleton.mpr filed

/-- The floating-point numbers of an interpreter that reads none. -/
def noNumbers : Arithmetic Unit := ⟨fun _ => none, fun _ => none, fun _ _ => ()⟩

/-- The mode of a fan. -/
def fanMode : TraitSpec where
  id := "2.1.20010"
  wirePath := some "2.1.20010"
  name := "Mode"
  dataType := "enum"
  writable := true
  enumValues := some ⟨[("0", "Low"), ("1", "High")], by decide⟩
  endpointId := some 2

theorem filed_fanMode : Filed "2.1.20010" fanMode where
  dotted := by simp [Dotted]
  endpoint := by simp [ShortEndpoint, Python.maxStrDigits]
  id_eq := rfl
  path_eq := rfl

/-- The descriptor of that mode. -/
def fanModeSelect : AnyDescriptor :=
  { fanMode.described (.select
      { attr := { name := "2.1.20010" }, optionsMap := [("Low", "0"), ("High", "1")] }) with
    icon := none }

theorem enumerations_shown_fanMode :
    classifyV3 "lumi.switch.acn047" ⟨[(2, some "Switch")], List.nodup_singleton _⟩
        (singleTrait fanMode filed_fanMode).toDictionary none =
        .ok ⟨[fanModeSelect], []⟩ ∧
      Shows noNumbers "Switch" fanMode ⟨[("0", "Low"), ("1", "High")], by decide⟩ fanModeSelect := by
  have done : classifyV3 "lumi.switch.acn047" ⟨[(2, some "Switch")], List.nodup_singleton _⟩
      (singleTrait fanMode filed_fanMode).toDictionary none =
        .ok ⟨[fanModeSelect], []⟩ := by decide
  exact ⟨done, enumerations_shown noNumbers _ _ _ _ done fanMode List.mem_cons_self _ rfl
    fanModeSelect List.mem_cons_self List.mem_cons_self⟩

/-- The button of a doorbell. -/
def bellButton : TraitSpec where
  id := "1.1.20020"
  wirePath := some "1.1.20020"
  name := "Doorbell"
  dataType := "enum"
  enumValues := some ⟨[("1", "Single press"), ("2", "Double press")], by decide⟩
  functionCode := some "Doorbell"
  traitCode := some "ButtonEvent"
  endpointId := some 1

theorem filed_bellButton : Filed "1.1.20020" bellButton where
  dotted := by simp [Dotted]
  endpoint := by simp [ShortEndpoint, Python.maxStrDigits]
  id_eq := rfl
  path_eq := rfl

/-- The first press of a doorbell does not fire its own label, and the motor of a curtain does not
show its labels. -/
theorem enumerations_differ :
    classifyV3 "lumi.camera.agl002" ⟨[(1, some "Doorbell")], List.nodup_singleton _⟩
        (singleTrait bellButton filed_bellButton).toDictionary none =
        .ok ⟨[ringEvent bellButton], []⟩ ∧
      (∃ part, (ringEvent bellButton).binding = .event part ∧
        applyEvent part "1" = some ("ring", none)) ∧
      classifyV3 "lumi.curtain.vagl02" ⟨[(2, some "WindowCovering")], List.nodup_singleton _⟩
        (singleTrait motorStatus filed_motorStatus).toDictionary none =
        .ok ⟨[listedSensor motorStatus], []⟩ ∧
      ∃ part, (listedSensor motorStatus).binding = .sensor part ∧
        applySensor noNumbers part "2" = some ⟨some (.text "2"), none⟩ :=
  ⟨by decide, ⟨_, rfl, by decide⟩, by decide, ⟨_, rfl, by decide⟩⟩

end Enumerations
end Reference
end AqaraLanLink
