import AqaraLanLink.Library.Dictionary
import AqaraLanLink.Reference.Device
import Mathlib.Data.Rat.Floor

/-!
# The reference's catalogue

The data that descriptors are derived from and the descriptors themselves: `device/traits.py`,
`device/attrs.py`, `device/settings.py`, `device/units.py` and `device/descriptors.py`.  Device
classes, state classes and units are the text that Home Assistant's enumerations stand for.
-/

namespace AqaraLanLink
namespace Reference

open Library

/-! ## Traits, attributes and settings -/

/-- `_VALID_PLATFORMS`. -/
inductive Platform where
  | sensor
  | binarySensor
  | switch
  | number
  | select
  | event
  | button
  deriving DecidableEq, Repr

/-- Home Assistant's `EntityCategory`. -/
inductive EntityCategory where
  | config
  | diagnostic
  deriving DecidableEq, Repr

/-- `TraitSpec`. -/
structure TraitSpec where
  id : String
  name : String
  dataType : String := "unknown"
  unit : Option String := none
  /-- The label of each wire value. -/
  enumValues : Option (Dictionary String String) := none
  wirePath : Option String := none
  minValue : Option ℚ := none
  maxValue : Option ℚ := none
  step : Option ℚ := none
  writable : Bool := false
  defaultEnabled : Bool := true
  platform : Option Platform := none
  entityCategory : Option EntityCategory := none
  deviceClass : Option String := none
  stateClass : Option String := none
  unitOfMeasurement : Option String := none
  scale : Option ℚ := none
  suggestedDisplayPrecision : Option ℤ := none
  icon : Option String := none
  autoClearSeconds : Option ℚ := none
  functionCode : Option String := none
  traitCode : Option String := none
  endpointId : Option ℤ := none
  deriving DecidableEq

/-- `AttrSpec`. -/
structure AttrSpec where
  name : String
  /-- The resource id of a setting, which is written without a wire path. -/
  resourceId : Option String := none
  deriving DecidableEq, Repr

/-- `SettingSpec`. -/
structure SettingSpec where
  rid : String
  name : String
  platform : String
  enumValues : Option (Dictionary String String) := none
  min : Option ℚ := none
  max : Option ℚ := none
  unit : Option String := none
  isFloat : Bool := false
  pressValue : Option String := none
  entityCategory : String := "config"
  defaultEnabled : Bool := true
  optimistic : Bool := true
  onValue : String := "1"
  offValue : String := "0"
  deriving DecidableEq

/-- A text that Python takes for true. -/
def given (text : Option String) : Option String := text.filter fun text => text ≠ ""

/-- A number that Python takes for true. -/
def nonzero (number : Option ℚ) : Option ℚ := number.filter fun number => number ≠ 0

namespace TraitSpec

/-- `spec.wire_path or spec.id`. -/
def path (spec : TraitSpec) : String := (given spec.wirePath).getD spec.id

/-- The labels of a trait that has some: `enum_values` when Python takes it for true. -/
def labels (spec : TraitSpec) : Option (Dictionary String String) :=
  spec.enumValues.filter fun labels => !labels.entries.isEmpty

/-- The trait has this function code and this trait code. -/
def HasCodes (spec : TraitSpec) (functionCode traitCode : String) : Prop :=
  spec.functionCode = some functionCode ∧ spec.traitCode = some traitCode

instance (spec : TraitSpec) (functionCode traitCode : String) :
    Decidable (spec.HasCodes functionCode traitCode) :=
  inferInstanceAs (Decidable (_ ∧ _))

/-- `_ec`. -/
def ec (spec : TraitSpec) : Option EntityCategory :=
  if spec.entityCategory = some .diagnostic then some .diagnostic else none

end TraitSpec

/-- `_UNIT_ALIASES`. -/
def unitAliases : List (String × String) :=
  [("℃", "°C"), ("℉", "°F"), ("lux", "lx"), ("ug/m³", "µg/m³"), ("W·h", "Wh")]

/-- `normalize_unit`. -/
def normalizeUnit (unit : Option String) : Option String :=
  unit.map fun unit => (unitAliases.lookup unit).getD unit

/-! ## Descriptors -/

/-- The options of a sensor, in a sequence that cannot change or in one that can. -/
inductive Options where
  | tuple (labels : List String)
  | list (labels : List String)
  deriving DecidableEq, Repr

/-- What a `BinarySensorDescriptor` adds. -/
structure BinarySensorPart where
  trait : TraitSpec
  onValues : List String := ["1"]
  onAnyValue : Bool := false
  autoClearSeconds : Option ℚ := none
  deriving DecidableEq

/-- What a `SwitchDescriptor` adds. -/
structure SwitchPart where
  attr : AttrSpec
  onValue : String := "1"
  offValue : String := "0"
  optimistic : Bool := false
  deriving DecidableEq

/-- What a `SelectDescriptor` adds. -/
structure SelectPart where
  attr : AttrSpec
  /-- Pairs of a label and its wire value. -/
  optionsMap : List (String × String)
  optimistic : Bool := false
  deriving DecidableEq

/-- Home Assistant's `NumberMode`, as far as it is used. -/
inductive NumberMode where
  | auto
  | box
  deriving DecidableEq, Repr

/-- What a `NumberDescriptor` adds. -/
structure NumberPart where
  attr : AttrSpec
  minValue : ℚ
  maxValue : ℚ
  step : ℚ := 1
  mode : NumberMode := .auto
  unit : Option String := none
  scale : Option ℚ := none
  optimistic : Bool := false
  deriving DecidableEq

/-- What a `SensorDescriptor` adds. -/
structure SensorPart where
  trait : TraitSpec
  stateClass : Option String := none
  unit : Option String := none
  precision : Option ℤ := none
  options : Option Options := none
  /-- `transform_in`, by the labels it looks wire values up in. -/
  transformIn : Option (Dictionary String String) := none
  scale : Option ℚ := none
  deriving DecidableEq

/-- What an `EventDescriptor` adds. -/
structure EventPart where
  triggerTrait : TraitSpec
  eventTypes : List String
  valuePayloadKey : Option String := none
  unknownEventType : Option String := none
  deriving DecidableEq

/-- The unit in which a light takes its color temperature. -/
inductive WireUnit where
  | kelvin
  | mired
  deriving DecidableEq, Repr

/-- What a `LightDescriptor` adds. -/
structure LightPart where
  powerTrait : TraitSpec
  powerAttr : AttrSpec
  brightnessTrait : Option TraitSpec := none
  brightnessAttr : Option AttrSpec := none
  colorTempTrait : Option TraitSpec := none
  colorTempAttr : Option AttrSpec := none
  colorTempMinKelvin : Option ℤ := none
  colorTempMaxKelvin : Option ℤ := none
  colorTempWireUnit : WireUnit := .kelvin
  colorXyTrait : Option TraitSpec := none
  colorXyAttr : Option AttrSpec := none
  deriving DecidableEq

/-- What the platform of a descriptor adds to it. -/
inductive Binding where
  | binarySensor (part : BinarySensorPart)
  | switch (part : SwitchPart)
  | select (part : SelectPart)
  | number (part : NumberPart)
  | text (attr : AttrSpec) (optimistic : Bool)
  | sensor (part : SensorPart)
  | event (part : EventPart)
  | light (part : LightPart)
  | button (attr : AttrSpec) (pressValue : String)
  deriving DecidableEq

namespace Binding

/-- A number, whose unit its `__post_init__` normalizes. -/
def ofNumber (part : NumberPart) : Binding := number { part with unit := normalizeUnit part.unit }

/-- A sensor, whose unit its `__post_init__` normalizes. -/
def ofSensor (part : SensorPart) : Binding := sensor { part with unit := normalizeUnit part.unit }

end Binding

/-- `AnyDescriptor`. -/
structure AnyDescriptor where
  key : String
  name : String
  entityCategory : Option EntityCategory := none
  /-- `entity_registry_enabled_default`. -/
  enabledDefault : Bool := true
  deviceClass : Option String := none
  icon : Option String := none
  binding : Binding
  deriving DecidableEq

namespace LightPart

/-- The trait of each component. -/
def trait? (part : LightPart) : Component → Option TraitSpec
  | .power => some part.powerTrait
  | .brightness => part.brightnessTrait
  | .colorTemp => part.colorTempTrait
  | .colorXy => part.colorXyTrait

/-- The attribute of each component. -/
def attr? (part : LightPart) : Component → Option AttrSpec
  | .power => some part.powerAttr
  | .brightness => part.brightnessAttr
  | .colorTemp => part.colorTempAttr
  | .colorXy => part.colorXyAttr

end LightPart

namespace AnyDescriptor

/-- `hash(descriptor)` returns.  The hash of a frozen dataclass is that of the tuple of its fields,
and of all the values they can have only a list has none. -/
def hashable (descriptor : AnyDescriptor) : Bool :=
  match descriptor.binding with
  | .sensor { options := some (.list _), .. } => false
  | _ => true

/-- What the device reads of the descriptor to route reports and seeds. -/
def routed (descriptor : AnyDescriptor) : Descriptor :=
  match descriptor.binding with
  | .binarySensor part =>
      .binarySensor descriptor.key part.trait.id (nonzero part.autoClearSeconds).isSome
        part.onAnyValue
  | .switch { attr, .. } | .select { attr, .. } | .number { attr, .. } | .text attr _
  | .button attr _ => .attrBacked descriptor.key attr.name none
  | .sensor part => .sensor descriptor.key none (some part.trait.id)
  | .event part => .event descriptor.key (some part.triggerTrait.id)
  | .light part =>
      .light descriptor.key
        (lightComponents.filterMap fun component =>
          (part.trait? component).map fun trait => (component, trait.id))
        (lightComponents.filterMap fun component =>
          (part.attr? component).map fun attr => (component, attr.name))

/-- The wire paths of the traits that the descriptor stands for; a setting stands for none. -/
def traitPaths (descriptor : AnyDescriptor) : List String :=
  match descriptor.binding with
  | .binarySensor part => [part.trait.id]
  | .switch { attr, .. } | .select { attr, .. } | .number { attr, .. } | .text attr _
  | .button attr _ => if attr.resourceId = none then [attr.name] else []
  | .sensor part => [part.trait.id]
  | .event part => [part.triggerTrait.id]
  | .light part => lightComponents.filterMap fun component => (part.trait? component).map (·.id)

/-- The descriptor is in the routing index under a key. -/
def IndexedUnder (descriptor : AnyDescriptor) (key : String) : Prop :=
  key ∈ descriptor.routed.traitIds ∨ key ∈ descriptor.routed.attrNames

/-- A descriptor is in the routing index under the wire path of each trait it stands for. -/
theorem indexedUnder_of_mem_traitPaths {descriptor : AnyDescriptor} {path : String}
    (nonempty : path ≠ "") (member : path ∈ descriptor.traitPaths) :
    descriptor.IndexedUnder path := by
  obtain ⟨key, name, category, enabled, deviceClass, icon, binding⟩ := descriptor
  have own {attr : AttrSpec}
      (member : path ∈ if attr.resourceId = none then [attr.name] else []) :
      path ∈ (Descriptor.attrBacked key attr.name none).attrNames := by
    split at member
    · obtain rfl := List.mem_singleton.mp member
      simp [Descriptor.attrNames, nonempty]
    · exact absurd member List.not_mem_nil
  cases binding with
  | binarySensor part =>
      obtain rfl := List.mem_singleton.mp member
      exact Or.inl (by simp [routed, Descriptor.traitIds, Descriptor.named, nonempty])
  | switch part => exact Or.inr (own member)
  | select part => exact Or.inr (own member)
  | number part => exact Or.inr (own member)
  | text attr optimistic => exact Or.inr (own member)
  | button attr pressValue => exact Or.inr (own member)
  | sensor part =>
      obtain rfl := List.mem_singleton.mp member
      exact Or.inl (by simp [routed, Descriptor.traitIds, Descriptor.named, nonempty])
  | event part =>
      obtain rfl := List.mem_singleton.mp member
      exact Or.inl (by simp [routed, Descriptor.traitIds, Descriptor.named, nonempty])
  | light part =>
      obtain ⟨component, known, found⟩ := List.mem_filterMap.mp member
      obtain ⟨trait, present, rfl⟩ := Option.map_eq_some_iff.mp found
      refine Or.inl (List.mem_flatMap.mpr ⟨component, known, ?_⟩)
      have looked := lookup_filterMap (fun component => (part.trait? component).map (·.id)) known
      simp only [Option.map_map, Function.comp_def] at looked
      rw [looked, present]
      simp [Descriptor.named, nonempty]

end AnyDescriptor
end Reference
end AqaraLanLink
