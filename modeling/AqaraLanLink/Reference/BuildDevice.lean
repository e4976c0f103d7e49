import AqaraLanLink.Reference.Routing
import Mathlib.Data.Finset.Dedup
import Mathlib.Data.Finset.Empty
import Mathlib.Data.Finset.Lattice.Basic

/-!
# The traits a device is built with

`_build_device` of `__init__.py` up to the cloud subscription: the descriptors that
`build_descriptors` derives, the paths that `handle_report` knows, and the paths that
`_subscribe_and_seed_traits` asks the cloud for, at setup and whenever it is re-armed.
-/

namespace AqaraLanLink
namespace Reference
namespace BuildDevice

open Library DeviceTypes

/-! ## Deriving -/

/-- What the shipped catalogue has for a model. -/
structure ModelData where
  /-- `all_traits_for_model`. -/
  traits : Dictionary String TraitSpec
  numbered : ∀ spec ∈ traits.values, Numbered spec
  /-- `endpoints_for_model`. -/
  endpoints : Endpoints
  /-- `settings_for_model`. -/
  settings : SettingMap
  /-- `dropped_paths_for_model`. -/
  droppedPaths : Finset String

/-- `Overlay.traits_for_model`: an entry adds a trait, replaces one or drops one. -/
structure OverlayTraits extends Dictionary String (Option TraitSpec) where
  numbered : ∀ spec, some spec ∈ toDictionary.values → Numbered spec

/-- The traits that `build_descriptors` classifies. -/
def mergedTraits (data : ModelData) (overlay : OverlayTraits) : Dictionary String TraitSpec :=
  mergeEntries data.traits overlay.entries

/-- `build_descriptors`, from its merged traits. -/
def deriveFrom (model : String) (endpoints : Endpoints) (traits : Dictionary String TraitSpec)
    (settings : SettingMap) : Except PythonError Derived := do
  let derived ← classifyV3 model endpoints traits none
  pure { derived with
    descriptors := derived.descriptors ++ buildSettingDescriptors settings.toDictionary }

/-- Where the wire paths are the keys, this is the derivation of a catalogue's descriptors. -/
theorem buildDescriptors_eq_deriveFrom (catalog : Catalog) (model : String)
    (overlay : String → OverlayMap) :
    buildDescriptors catalog model overlay =
      deriveFrom model (catalog.endpointsForModel model)
        (Reference.mergedTraits catalog model overlay).toDictionary
        (catalog.settingsForModel model) := rfl

/-- What an overlay makes of a table: its entry stands for a key, and else the table's. -/
theorem get?_mergeEntries {changes : List (String × Option TraitSpec)}
    (nodup : (changes.map Prod.fst).Nodup) (catalogue : Dictionary String TraitSpec)
    (key : String) :
    (mergeEntries catalogue changes).get? key =
      (changes.lookup key).getD (catalogue.get? key) := by
  induction changes generalizing catalogue with
  | nil => rfl
  | cons change changes induction =>
      obtain ⟨path, spec⟩ := change
      obtain ⟨fresh, others⟩ := List.nodup_cons.mp nodup
      have step : (mergeEntries catalogue ((path, spec) :: changes)).get? key =
          (changes.lookup key).getD (if key = path then spec else catalogue.get? key) := by
        cases spec with
        | none => rw [mergeEntries, induction others, Dictionary.get?_erase]
        | some spec => rw [mergeEntries, induction others, Dictionary.get?_set]
      rw [step, List.lookup_cons]
      by_cases same : key = path
      · rw [if_pos same, beq_iff_eq.mpr same, same, lookup_of_not_mem fresh]
        rfl
      · rw [if_neg same, beq_eq_false_iff_ne.mpr same]

theorem get?_mergedTraits (data : ModelData) (overlay : OverlayTraits) (key : String) :
    (mergedTraits data overlay).get? key =
      (overlay.toDictionary.get? key).getD (data.traits.get? key) :=
  get?_mergeEntries overlay.nodup data.traits key

theorem numbered_mergedTraits {data : ModelData} {overlay : OverlayTraits} {spec : TraitSpec}
    (member : spec ∈ (mergedTraits data overlay).values) : Numbered spec := by
  obtain ⟨key, found⟩ := Dictionary.mem_values_iff.mp member
  rw [get?_mergedTraits] at found
  cases change : overlay.toDictionary.get? key with
  | none =>
      rw [change] at found
      exact data.numbered spec (Dictionary.mem_values_iff.mpr ⟨key, found⟩)
  | some entry =>
      rw [change, Option.getD_some] at found
      exact overlay.numbered spec (Dictionary.mem_values_iff.mpr ⟨key, found ▸ change⟩)

/-- Deriving returns, and files each descriptor under ids and wire paths of the traits. -/
theorem deriveFrom_spec (model : String) (endpoints : Endpoints)
    {traits : Dictionary String TraitSpec} (settings : SettingMap)
    (numbered : ∀ spec ∈ traits.values, Numbered spec) :
    ∃ derived, deriveFrom model endpoints traits settings = .ok derived ∧
      ∀ descriptor ∈ derived.descriptors, ∀ path ∈ descriptor.traitPaths,
        ∃ spec ∈ traits.values, path = spec.id ∨ path = spec.path := by
  obtain ⟨classified, classifies, renames, -⟩ := classifyV3_spec model endpoints numbered
  refine ⟨{ classified with
    descriptors := classified.descriptors ++ buildSettingDescriptors settings.toDictionary }, ?_, ?_⟩
  · rw [deriveFrom, classifies]
    rfl
  · intro descriptor member path filed
    rcases List.mem_append.mp member with derived | setting
    · obtain ⟨original, there, same⟩ := exists_renames_right renames derived
      exact (sourced_of_classified there).paths path (same.traitPaths_eq ▸ filed)
    · obtain ⟨entry, -, built⟩ := List.mem_filterMap.mp setting
      rw [(settingDescriptor_spec built).2.1] at filed
      exact absurd filed List.not_mem_nil

/-! ## Building -/

/-- The exceptions that building a device can raise. -/
inductive BuildError where
  | raised (error : PythonError)
  /-- `None` has no attribute `wire_path`. -/
  | attributeError
  deriving DecidableEq, Repr

/-- The trait map of `_build_device`: the overlay, updated with the catalogue. -/
def deviceTraits (data : ModelData) (overlay : OverlayTraits) :
    Dictionary String (Option TraitSpec) :=
  overlay.toDictionary.update (data.traits.map some)

/-- `spec.wire_path`, where a trait map may hold `None` for the spec. -/
def wirePathOf : Option TraitSpec → Except BuildError (Option String)
  | some spec => .ok spec.wirePath
  | none => .error .attributeError

/-- `_known_wire_paths`. -/
def knownWirePaths (traits : Dictionary String (Option TraitSpec)) (droppedPaths : Finset String) :
    Except BuildError (Finset String) := do
  let paths ← traits.values.mapM wirePathOf
  pure ((paths.filterMap given).toFinset ∪ droppedPaths)

/-- The paths that `_subscribe_and_seed_traits` asks the cloud for.  It reads `wire_path` with a
default, so that `None` has no path here. -/
def subscribedPaths (traits : Dictionary String (Option TraitSpec)) : List String :=
  (traits.values.filterMap fun spec => given (spec.bind TraitSpec.wirePath)).dedup.insertionSort
    (· ≤ ·)

/-- What is kept of a device: its descriptors, its gate, and the trait map from which it is
subscribed at setup and whenever the subscription is armed again. -/
structure BuiltDevice where
  descriptors : List AnyDescriptor
  traits : Dictionary String (Option TraitSpec)
  known : Finset String

/-- The paths that are asked for at setup and at every re-arm. -/
def BuiltDevice.subscribed (built : BuiltDevice) : List String := subscribedPaths built.traits

/-- `_build_device`, without what it asks of the cloud. -/
def buildDevice (model : String) (data : ModelData) (overlay : OverlayTraits) :
    Except BuildError BuiltDevice := do
  let derived ← (deriveFrom model data.endpoints (mergedTraits data overlay) data.settings).mapError
    .raised
  let traits := deviceTraits data overlay
  let known ← knownWirePaths traits data.droppedPaths
  pure { descriptors := derived.descriptors, traits, known }

variable {model : String} {data : ModelData} {overlay : OverlayTraits} {built : BuiltDevice}
  {traits : Dictionary String (Option TraitSpec)} {droppedPaths known : Finset String}
  {path : String}

theorem mem_subscribedPaths :
    path ∈ subscribedPaths traits ↔
      ∃ spec, some spec ∈ traits.values ∧ given spec.wirePath = some path := by
  rw [subscribedPaths, (List.perm_insertionSort _ _).mem_iff, List.mem_dedup, List.mem_filterMap]
  constructor
  · rintro ⟨value, member, wire⟩
    cases value with
    | none => cases wire
    | some spec => exact ⟨spec, member, wire⟩
  · rintro ⟨spec, member, wire⟩
    exact ⟨some spec, member, wire⟩

/-- The gate raises when the trait map holds `None`. -/
theorem returns_knownWirePaths_iff :
    Returns (knownWirePaths traits droppedPaths) ↔ none ∉ traits.values := by
  rw [knownWirePaths, returns_bind_of_forall fun _ => returns_pure _]
  constructor
  · rintro ⟨paths, read⟩ member
    exact not_returns_error _ (returns_of_mapM read none member)
  · intro absent
    refine returns_mapM fun value member => ?_
    cases value with
    | none => exact absurd member absent
    | some spec => exact returns_ok spec.wirePath

/-- Known is what is subscribed and what the policy drops. -/
theorem mem_knownWirePaths (done : knownWirePaths traits droppedPaths = .ok known) :
    path ∈ known ↔ path ∈ subscribedPaths traits ∨ path ∈ droppedPaths := by
  obtain ⟨paths, read, last⟩ := bind_eq_ok_iff.mp done
  obtain rfl := Except.ok.inj last
  have each : List.Forall₂ (fun value wire => value.bind TraitSpec.wirePath = wire) traits.values
      paths := by
    refine (mapM_eq_ok_iff.mp read).imp fun value wire found => ?_
    cases value with
    | none => cases found
    | some spec => exact Except.ok.inj found
  obtain rfl : traits.values.map (·.bind TraitSpec.wirePath) = paths :=
    List.forall₂_eq_eq_eq ▸ List.forall₂_map_left_iff.mpr each
  rw [Finset.mem_union, List.mem_toFinset, List.filterMap_map, subscribedPaths,
    (List.perm_insertionSort _ _).mem_iff, List.mem_dedup]
  rfl

/-! ## Subscribed and known is what is derived -/

/-- What is built agrees with the traits that are classified. -/
structure Faithful (data : ModelData) (overlay : OverlayTraits) (built : BuiltDevice) : Prop where
  /-- The trait map is the merge. -/
  traits_eq : ∀ key, built.traits.get? key = ((mergedTraits data overlay).get? key).map some
  /-- Each descriptor is filed under traits whose wire paths are subscribed and known. -/
  described : ∀ descriptor ∈ built.descriptors, ∀ path ∈ descriptor.traitPaths,
    ∃ spec ∈ (mergedTraits data overlay).values, (path = spec.id ∨ path = spec.path) ∧
      ∀ wire, given spec.wirePath = some wire → wire ∈ built.subscribed ∧ wire ∈ built.known
  /-- Only wire paths of the merge are subscribed. -/
  subscribed_merged : ∀ wire ∈ built.subscribed,
    ∃ spec ∈ (mergedTraits data overlay).values, given spec.wirePath = some wire
  /-- Only wire paths of the merge and those that the policy drops are known. -/
  known_merged : ∀ wire ∈ built.known, wire ∈ data.droppedPaths ∨
    ∃ spec ∈ (mergedTraits data overlay).values, given spec.wirePath = some wire

/-- The overlay removes nothing, and replaces no trait by a different one. -/
def Agrees (data : ModelData) (overlay : OverlayTraits) : Prop :=
  ∀ entry ∈ overlay.entries, ∃ spec, entry.2 = some spec ∧
    ∀ held, data.traits.get? entry.1 = some held → held = spec

theorem get?_deviceTraits (key : String) :
    (deviceTraits data overlay).get? key =
      ((data.traits.get? key).map some).or (overlay.toDictionary.get? key) := by
  rw [deviceTraits, Dictionary.get?_update, Dictionary.get?_map]

/-- The two merges are the same exactly when catalogue and overlay agree. -/
theorem deviceTraits_eq_mergedTraits_iff :
    (∀ key, (deviceTraits data overlay).get? key =
      ((mergedTraits data overlay).get? key).map some) ↔ Agrees data overlay := by
  constructor
  · intro same entry member
    have found : overlay.toDictionary.get? entry.1 = some entry.2 :=
      Dictionary.get?_eq_some_iff.mpr member
    have here := same entry.1
    rw [get?_deviceTraits, get?_mergedTraits, found, Option.getD_some] at here
    cases change : entry.2 with
    | none =>
        rw [change] at here
        cases held : data.traits.get? entry.1 with
        | none => rw [held] at here; cases here
        | some spec => rw [held] at here; cases here
    | some spec =>
        refine ⟨spec, rfl, fun held known => ?_⟩
        rw [change, known] at here
        exact Option.some.inj (Option.some.inj here)
  · intro agrees key
    rw [get?_deviceTraits, get?_mergedTraits]
    cases change : overlay.toDictionary.get? key with
    | none => rw [Option.or_none, Option.getD_none]
    | some entry =>
        obtain ⟨spec, rfl, unique⟩ := agrees (key, entry) (Dictionary.get?_eq_some_iff.mp change)
        cases held : data.traits.get? key with
        | none => rfl
        | some other =>
            obtain rfl := unique other held
            rfl

theorem some_mem_deviceTraits_iff (agrees : Agrees data overlay) {value : Option TraitSpec} :
    value ∈ (deviceTraits data overlay).values ↔
      ∃ spec ∈ (mergedTraits data overlay).values, value = some spec := by
  have same := deviceTraits_eq_mergedTraits_iff.mpr agrees
  simp only [Dictionary.mem_values_iff, same, Option.map_eq_some_iff]
  constructor
  · rintro ⟨key, spec, found, rfl⟩
    exact ⟨spec, ⟨key, found⟩, rfl⟩
  · rintro ⟨spec, ⟨key, found⟩, rfl⟩
    exact ⟨key, spec, found, rfl⟩

theorem mem_subscribed_iff (agrees : Agrees data overlay) :
    path ∈ subscribedPaths (deviceTraits data overlay) ↔
      ∃ spec ∈ (mergedTraits data overlay).values, given spec.wirePath = some path := by
  rw [mem_subscribedPaths]
  constructor
  · rintro ⟨spec, member, wire⟩
    obtain ⟨other, merged, same⟩ := (some_mem_deviceTraits_iff agrees).mp member
    obtain rfl := Option.some.inj same
    exact ⟨spec, merged, wire⟩
  · rintro ⟨spec, merged, wire⟩
    exact ⟨spec, (some_mem_deviceTraits_iff agrees).mpr ⟨spec, merged, rfl⟩, wire⟩

/-- What `_build_device` returns, when it does. -/
theorem buildDevice_eq_ok_iff :
    buildDevice model data overlay = .ok built ↔
      ∃ derived, deriveFrom model data.endpoints (mergedTraits data overlay) data.settings =
        .ok derived ∧ built.descriptors = derived.descriptors ∧
        built.traits = deviceTraits data overlay ∧
        knownWirePaths (deviceTraits data overlay) data.droppedPaths = .ok built.known := by
  rw [buildDevice, bind_eq_ok_iff]
  constructor
  · rintro ⟨derived, derives, rest⟩
    obtain ⟨known, gated, last⟩ := bind_eq_ok_iff.mp rest
    obtain rfl := Except.ok.inj last
    exact ⟨derived, mapError_eq_ok_iff.mp derives, rfl, rfl, gated⟩
  · rintro ⟨derived, derives, descriptors, traits, gated⟩
    refine ⟨derived, mapError_eq_ok_iff.mpr derives, bind_eq_ok_iff.mpr ⟨built.known, gated, ?_⟩⟩
    rw [← descriptors, ← traits]
    rfl

/-- A device is built, and what is subscribed and known is what is derived, exactly when the overlay
only adds to the catalogue or repeats it. -/
theorem builds_faithfully_iff (model : String) (data : ModelData) (overlay : OverlayTraits) :
    (∃ built, buildDevice model data overlay = .ok built ∧ Faithful data overlay built) ↔
      Agrees data overlay := by
  constructor
  · rintro ⟨built, done, faithful⟩
    obtain ⟨derived, -, -, traits, -⟩ := buildDevice_eq_ok_iff.mp done
    refine deviceTraits_eq_mergedTraits_iff.mp fun key => ?_
    rw [← traits, faithful.traits_eq key]
  · intro agrees
    have whole : none ∉ (deviceTraits data overlay).values := by
      intro member
      obtain ⟨spec, -, same⟩ := (some_mem_deviceTraits_iff agrees).mp member
      cases same
    have gate : Returns (knownWirePaths (deviceTraits data overlay) data.droppedPaths) :=
      returns_knownWirePaths_iff.mpr whole
    obtain ⟨known, gated⟩ := gate
    obtain ⟨derived, derives, filed⟩ := deriveFrom_spec model data.endpoints data.settings
      fun spec member => numbered_mergedTraits member
    refine ⟨⟨derived.descriptors, deviceTraits data overlay, known⟩,
      buildDevice_eq_ok_iff.mpr ⟨derived, derives, rfl, rfl, gated⟩,
      deviceTraits_eq_mergedTraits_iff.mpr agrees, ?_, ?_, ?_⟩
    · intro descriptor member path there
      obtain ⟨spec, merged, same⟩ := filed descriptor member path there
      refine ⟨spec, merged, same, fun wire given => ?_⟩
      have subscribed := (mem_subscribed_iff agrees).mpr ⟨spec, merged, given⟩
      exact ⟨subscribed, (mem_knownWirePaths gated).mpr (.inl subscribed)⟩
    · exact fun wire member => (mem_subscribed_iff agrees).mp member
    · intro wire member
      rcases (mem_knownWirePaths gated).mp member with subscribed | dropped
      · exact .inr ((mem_subscribed_iff agrees).mp subscribed)
      · exact .inl dropped

/-- A trait as the catalogue has it. -/
def shippedTrait : TraitSpec where
  id := "4.1.85"
  name := "OnOff"
  dataType := "bool"
  wirePath := some "4.1.85"

theorem numbered_shippedTrait : Numbered shippedTrait where
  id := by simp [shippedTrait, Dotted]
  path := by simp [shippedTrait, TraitSpec.path, given, Option.filter, Dotted]
  idEndpoint := by simp [shippedTrait, ShortEndpoint, Python.maxStrDigits]
  pathEndpoint := by
    simp [shippedTrait, TraitSpec.path, given, Option.filter, ShortEndpoint, Python.maxStrDigits]

/-- A catalogue with one trait. -/
def oneTrait : ModelData where
  traits := ⟨[("4.1.85", shippedTrait)], List.nodup_singleton _⟩
  numbered := List.forall_mem_singleton.mpr numbered_shippedTrait
  endpoints := .empty
  settings := ⟨.empty, SettingMap.dotted_empty⟩
  droppedPaths := ∅

/-- An overlay that removes it. -/
def removal : OverlayTraits where
  toDictionary := ⟨[("4.1.85", none)], List.nodup_singleton _⟩
  numbered spec member := by
    cases List.mem_singleton.mp member

/-- The trait that the overlay removes is subscribed all the same. -/
theorem removed_trait_subscribed :
    ¬ ∃ built, buildDevice "lumi.switch.n2acn1" oneTrait removal = .ok built ∧
      Faithful oneTrait removal built := by
  rintro ⟨built, done, faithful⟩
  obtain ⟨derived, -, -, traits, -⟩ := buildDevice_eq_ok_iff.mp done
  have held : built.traits.get? "4.1.85" = some (some shippedTrait) := by rw [traits]; rfl
  have merged := faithful.traits_eq "4.1.85"
  rw [held] at merged
  cases merged

end BuildDevice
end Reference
end AqaraLanLink
