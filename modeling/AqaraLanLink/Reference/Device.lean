import AqaraLanLink.Reference.Protocol
import Mathlib.Data.List.Basic

/-!
# The reference's device

The part of `device/base.py` that hands values to entities: the wire paths of a descriptor, the
indices that route reports, the seeds that wait for an entity, and `handle_report`.
-/

namespace AqaraLanLink
namespace Reference

/-! ## Descriptors -/

/-- A component that a light descriptor absorbs. -/
inductive Component where
  | power
  | brightness
  | colorTemp
  | colorXy
  deriving DecidableEq, Repr

/-- `_LIGHT_COMPONENT_FIELDS`, in its order. -/
def lightComponents : List Component := [.power, .brightness, .colorTemp, .colorXy]

/-- What the indices, the seeds and the reports read of a descriptor. -/
inductive Descriptor where
  /-- `autoClear` and `onAnyValue` mark a momentary sensor. -/
  | binarySensor (key trait : String) (autoClear onAnyValue : Bool)
  /-- A switch, a select, a number, a text or a button. -/
  | attrBacked (key attr : String) (attrWrite : Option String)
  | sensor (key : String) (attr trait : Option String)
  | event (key : String) (triggerTrait : Option String)
  /-- The trait id and the attr name of each component that is there. -/
  | light (key : String) (traits attrs : List (Component × String))
  deriving DecidableEq, Repr

namespace Descriptor

/-- A wire path, unless it is empty. -/
def named (path : String) : List String := if path = "" then [] else [path]

/-- `_descriptor_wire_paths`, without the components. -/
def wirePaths : Descriptor → List String
  | binarySensor _ trait _ _ => named trait
  | attrBacked _ attr _ => named attr
  | sensor _ _ (some trait) => named trait
  | sensor _ attr none => (attr.map named).getD []
  | event _ trigger => (trigger.map named).getD []
  | light _ traits _ =>
      lightComponents.flatMap fun component => ((traits.lookup component).map named).getD []

/-- The keys under which `_build_indices` puts a descriptor into `_by_trait_id`. -/
def traitIds : Descriptor → List String
  | binarySensor _ trait _ _ => named trait
  | attrBacked _ _ _ => []
  | sensor _ _ trait => (trait.map named).getD []
  | event _ trigger => (trigger.map named).getD []
  | light _ traits _ =>
      lightComponents.flatMap fun component => ((traits.lookup component).map named).getD []

/-- The keys under which `_build_indices` puts a descriptor into `_by_attr_name`. -/
def attrNames : Descriptor → List String
  | binarySensor _ _ _ _ => []
  | attrBacked _ attr attrWrite =>
      if attr = "" then [] else attr :: ((attrWrite.map named).getD []).filter fun name => name ≠ attr
  | sensor _ attr _ => (attr.map named).getD []
  | event _ _ => []
  | light _ _ attrs =>
      lightComponents.flatMap fun component => ((attrs.lookup component).map named).getD []

/-- `_should_replay_seed`: the descriptor is stateful. -/
def shouldReplaySeed : Descriptor → Bool
  | event _ _ => false
  | binarySensor _ _ autoClear onAnyValue => !autoClear && !onAnyValue
  | _ => true

/-- A descriptor is indexed under each of its wire paths. -/
theorem indexed_of_mem_wirePaths {descriptor : Descriptor} {path : String}
    (member : path ∈ descriptor.wirePaths) :
    path ∈ descriptor.traitIds ∨ path ∈ descriptor.attrNames := by
  cases descriptor with
  | binarySensor key trait autoClear onAnyValue => exact Or.inl member
  | attrBacked key attr attrWrite =>
      refine Or.inr ?_
      by_cases empty : attr = ""
      · simp [wirePaths, named, empty] at member
      · simp only [wirePaths, named, empty, if_false, List.mem_singleton] at member
        simp [attrNames, empty, member]
  | sensor key attr trait =>
      cases trait with
      | some trait => exact Or.inl member
      | none => exact Or.inr member
  | event key trigger => exact Or.inl member
  | light key traits attrs => exact Or.inl member

end Descriptor

/-! ## The device -/

/-- A device: its descriptors, the entities bound to them, the seeds that wait, and for each bound
descriptor and key the value its entity has been given last. -/
structure Device where
  /-- `_effective_descriptors`. -/
  descriptors : List Descriptor
  /-- The descriptors of `_entities_by_descriptor`. -/
  entities : List Descriptor
  /-- Entities are built from the descriptors of their device. -/
  entities_subset : entities ⊆ descriptors
  /-- `_pending_initial_values`. -/
  pendingInitialValues : String → List Json
  /-- `_delivered_initial_values`. -/
  deliveredInitialValues : List String
  /-- What `apply_value` was called with last, by descriptor and key. -/
  given : Descriptor → String → Option Json

namespace Device

/-- `_apply`: forward a value to the entity bound to a descriptor, when there is one. -/
def apply (device : Device) (descriptor : Descriptor) (value : Json) (path : String) : Device :=
  if descriptor ∈ device.entities then
    { device with
      given := fun other key =>
        if other = descriptor ∧ key = path then some value else device.given other key }
  else device

/-- One turn of the loop of `handle_report`: descriptors found by trait id come first, and a
descriptor is not served twice. -/
def handleEntry (device : Device) (entry : String × Json) : Device :=
  let key := canonicalizeReportKey entry.1
  let byTraitId := device.descriptors.filter fun descriptor => key ∈ descriptor.traitIds
  let byAttrName := device.descriptors.filter fun descriptor =>
    key ∈ descriptor.attrNames ∧ key ∉ descriptor.traitIds
  (byTraitId ++ byAttrName).foldl (fun device descriptor => device.apply descriptor entry.2 key)
    device

/-- `handle_report`, without the cache of observed paths. -/
def handleReport (device : Device) (values : List (String × Json)) : Device :=
  values.foldl handleEntry device

/-- `seed_initial_value`. -/
def seedInitialValue (device : Device) (path : String) (value : Json) : Device :=
  if path = "" ∨ path ∈ device.deliveredInitialValues then device
  else
    { device with
      pendingInitialValues := Function.update device.pendingInitialValues path
        (device.pendingInitialValues path ++ [value]) }

/-- The loop of `register_entity` over the wire paths that are left. -/
def deliverSeeds (device : Device) (descriptor : Descriptor) : List String → Device
  | [] => device
  | path :: paths =>
      if path ∈ device.deliveredInitialValues then device.deliverSeeds descriptor paths
      else
        let seeds := device.pendingInitialValues path
        let popped : Device :=
          { device with
            pendingInitialValues := Function.update device.pendingInitialValues path [] }
        if seeds = [] then popped.deliverSeeds descriptor paths
        else
          let delivered : Device :=
            { popped with deliveredInitialValues := path :: device.deliveredInitialValues }
          let replayed :=
            if descriptor.shouldReplaySeed then
              seeds.foldl (fun device value => device.apply descriptor value path) delivered
            else delivered
          replayed.deliverSeeds descriptor paths

/-- `register_entity` for a new entity. -/
def registerEntity (device : Device) (descriptor : Descriptor)
    (known : descriptor ∈ device.descriptors) : Device :=
  let bound : Device :=
    { device with
      entities := descriptor :: device.entities
      entities_subset := List.cons_subset.mpr ⟨known, device.entities_subset⟩
      given := fun other => if other = descriptor then fun _ => none else device.given other }
  bound.deliverSeeds descriptor descriptor.wirePaths

/-! ### What a report gives the entities -/

/-- Replace what the entities have been given. -/
def withGiven (device : Device) (given : Descriptor → String → Option Json) : Device :=
  { device with given }

theorem apply_eq_withGiven (device : Device) (descriptor : Descriptor) (value : Json)
    (path : String) :
    device.apply descriptor value path = device.withGiven fun other key =>
      if descriptor ∈ device.entities ∧ other = descriptor ∧ key = path then some value
      else device.given other key := by
  by_cases bound : descriptor ∈ device.entities
  · simp [apply, bound, withGiven]
  · simp [apply, bound, withGiven]

theorem foldl_apply_eq_withGiven (device : Device) (descriptors : List Descriptor) (value : Json)
    (path : String) :
    descriptors.foldl (fun device descriptor => device.apply descriptor value path) device =
      device.withGiven fun other key =>
        if other ∈ descriptors ∧ other ∈ device.entities ∧ key = path then some value
        else device.given other key := by
  induction descriptors generalizing device with
  | nil => simp [withGiven]
  | cons descriptor descriptors induction =>
      rw [List.foldl_cons, induction, apply_eq_withGiven]
      simp only [withGiven, List.mem_cons]
      congr 1
      funext other key
      grind

theorem handleEntry_eq_withGiven (device : Device) (raw : String) (value : Json) :
    device.handleEntry (raw, value) = device.withGiven fun other key =>
      if (key ∈ other.traitIds ∨ key ∈ other.attrNames) ∧ other ∈ device.entities ∧
          key = canonicalizeReportKey raw then some value
      else device.given other key := by
  rw [handleEntry, foldl_apply_eq_withGiven]
  congr 1
  funext other key
  have known := @device.entities_subset other
  simp only [List.mem_append, List.mem_filter, decide_eq_true_eq]
  grind

/-- After a report every entity has been given, for each key it is indexed under, the last value the
report has for that key. -/
theorem handleReport_eq_withGiven (device : Device) (values : List (String × Json)) :
    device.handleReport values = device.withGiven fun other key =>
      if (key ∈ other.traitIds ∨ key ∈ other.attrNames) ∧ other ∈ device.entities then
        Json.lastValue (fun raw => canonicalizeReportKey raw = key) values (device.given other key)
      else device.given other key := by
  induction values generalizing device with
  | nil => simp [handleReport, withGiven]
  | cons entry values induction =>
      obtain ⟨raw, value⟩ := entry
      have step : device.handleReport ((raw, value) :: values) =
          (device.handleEntry (raw, value)).handleReport values := rfl
      rw [step, induction, handleEntry_eq_withGiven]
      simp only [withGiven, Json.lastValue_cons]
      congr 1
      funext other key
      by_cases served : (key ∈ other.traitIds ∨ key ∈ other.attrNames) ∧ other ∈ device.entities
      · simp [served, eq_comm]
      · simp [served]
        grind

end Device
end Reference
end AqaraLanLink
