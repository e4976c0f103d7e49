import AqaraLanLink.Reference.Classify

/-!
# Derived descriptors on the reference's device

`register_entity` and `handle_report` of `device/base.py` look descriptors up by their hashes, and a
descriptor without a hash makes them raise.  The derived descriptors of a model have hashes and keys
of their own and cover its traits, unless the model has a trait of one of two kinds.
-/

namespace AqaraLanLink
namespace Reference

open Library DeviceTypes

/-! ## The device and its dictionary of entities -/

/-- `register_entity`: the descriptor becomes a key of `_entities_by_descriptor`. -/
def registerEntity (device : Device) (descriptor : AnyDescriptor)
    (known : descriptor.routed ∈ device.descriptors) : Except PythonError Device :=
  if descriptor.hashable then .ok (device.registerEntity descriptor.routed known)
  else .error .unhashable

/-- `_apply`: the lookup of the entity is outside the `try`. -/
def apply (device : Device) (descriptor : AnyDescriptor) (value : Json) (path : String) :
    Except PythonError Device :=
  if descriptor.hashable then .ok (device.apply descriptor.routed value path)
  else .error .unhashable

/-- One turn of the loop of `handle_report` on a device with these descriptors. -/
def handleEntry (descriptors : List AnyDescriptor) (device : Device) (entry : String × Json) :
    Except PythonError Device :=
  let key := canonicalizeReportKey entry.1
  let byTraitId := descriptors.filter fun descriptor => key ∈ descriptor.routed.traitIds
  let byAttrName := descriptors.filter fun descriptor =>
    key ∈ descriptor.routed.attrNames ∧ key ∉ descriptor.routed.traitIds
  (byTraitId ++ byAttrName).foldlM (fun device descriptor => apply device descriptor entry.2 key)
    device

/-- `handle_report` on a device with these descriptors. -/
def handleReport (descriptors : List AnyDescriptor) (device : Device)
    (values : List (String × Json)) : Except PythonError Device :=
  values.foldlM (handleEntry descriptors) device

section Hashable

variable {descriptors : List AnyDescriptor} {device : Device}

theorem foldlM_apply (hashable : ∀ descriptor ∈ descriptors, descriptor.hashable) (device : Device)
    (value : Json) (path : String) :
    descriptors.foldlM (fun device descriptor => apply device descriptor value path) device =
      .ok ((descriptors.map (·.routed)).foldl
        (fun device descriptor => device.apply descriptor value path) device) := by
  induction descriptors generalizing device with
  | nil => rfl
  | cons descriptor descriptors induction =>
      obtain ⟨first, rest⟩ := List.forall_mem_cons.mp hashable
      rw [List.foldlM_cons, apply, if_pos first, ok_bind, induction rest]
      rfl

theorem handleEntry_eq_ok (hashable : ∀ descriptor ∈ descriptors, descriptor.hashable)
    (bound : device.descriptors = descriptors.map (·.routed)) (entry : String × Json) :
    handleEntry descriptors device entry = .ok (device.handleEntry entry) := by
  rw [handleEntry, foldlM_apply]
  · simp only [Device.handleEntry, bound, List.map_append, List.filter_map, Function.comp_def]
  · intro descriptor member
    rcases List.mem_append.mp member with there | there
    · exact hashable descriptor (List.mem_of_mem_filter there)
    · exact hashable descriptor (List.mem_of_mem_filter there)

/-- With hashable descriptors `handle_report` returns, and does what it does on the routed device. -/
theorem handleReport_eq_ok (hashable : ∀ descriptor ∈ descriptors, descriptor.hashable)
    (bound : device.descriptors = descriptors.map (·.routed)) (values : List (String × Json)) :
    handleReport descriptors device values = .ok (device.handleReport values) := by
  induction values generalizing device with
  | nil => rfl
  | cons entry values induction =>
      have later : (device.handleEntry entry).descriptors = descriptors.map (·.routed) := by
        rw [Device.handleEntry_eq_withGiven]
        exact bound
      rw [handleReport, List.foldlM_cons, handleEntry_eq_ok hashable bound, ok_bind]
      exact induction later

theorem foldlM_apply_raises {descriptor : AnyDescriptor} (member : descriptor ∈ descriptors)
    (unhashable : descriptor.hashable = false) (device : Device) (value : Json) (path : String) :
    descriptors.foldlM (fun device descriptor => apply device descriptor value path) device =
      .error .unhashable := by
  induction descriptors generalizing device with
  | nil => exact absurd member List.not_mem_nil
  | cons head descriptors induction =>
      rw [List.foldlM_cons]
      by_cases first : head.hashable
      · have later : descriptor ∈ descriptors :=
          (List.mem_cons.mp member).resolve_left fun same => by simp [← same, unhashable] at first
        rw [apply, if_pos first, ok_bind, induction later]
      · rw [apply, if_neg first, error_bind]

/-- A descriptor without a hash makes every report for one of its paths raise. -/
theorem handleReport_raises {descriptor : AnyDescriptor} (member : descriptor ∈ descriptors)
    (unhashable : descriptor.hashable = false) {raw : String}
    (routed : descriptor.IndexedUnder (canonicalizeReportKey raw)) (device : Device) (value : Json)
    (later : List (String × Json)) :
    handleReport descriptors device ((raw, value) :: later) = .error .unhashable := by
  have served : descriptor ∈
      (descriptors.filter fun other => canonicalizeReportKey raw ∈ other.routed.traitIds) ++
        descriptors.filter fun other => canonicalizeReportKey raw ∈ other.routed.attrNames ∧
          canonicalizeReportKey raw ∉ other.routed.traitIds := by
    by_cases byTraitId : canonicalizeReportKey raw ∈ descriptor.routed.traitIds
    · exact List.mem_append_left _ (List.mem_filter.mpr ⟨member, decide_eq_true byTraitId⟩)
    · refine List.mem_append_right _ (List.mem_filter.mpr ⟨member, decide_eq_true ?_⟩)
      exact ⟨routed.resolve_left byTraitId, byTraitId⟩
  rw [handleReport, List.foldlM_cons, handleEntry,
    foldlM_apply_raises served unhashable device value, error_bind]

end Hashable

/-! ## What is derived can be registered and routed -/

/-- The trait has entities of its own: no light absorbs it and its override does not lack labels. -/
def Entitled (endpoints : Endpoints) (spec : TraitSpec) : Prop :=
  ¬ Fused (deviceTypeOf endpoints spec.endpoint) spec ∧
    ¬ Unlabelled (deviceTypeOf endpoints spec.endpoint) spec

/-- The light of an endpoint is keyed by this trait. -/
def Powers (endpoints : Endpoints) (traits : Dictionary String TraitSpec) (spec : TraitSpec) : Prop :=
  Fused (deviceTypeOf endpoints spec.endpoint) spec ∧
    findTrait (endpointSpecs traits spec.endpoint) "Output" "OnOff" = some spec

/-- The derived descriptors have keys and hashes, entities of theirs can be registered, reports for
them are handled, and they cover the traits of the model. -/
structure Routable (model : String) (endpoints : Endpoints) (traits : Dictionary String TraitSpec)
    (derived : Derived) : Prop where
  nodup : (derived.descriptors.map (·.key)).Nodup
  hashable : ∀ descriptor ∈ derived.descriptors, descriptor.hashable
  registers : ∀ device : Device, device.descriptors = derived.descriptors.map (·.routed) →
    ∀ descriptor ∈ derived.descriptors, ∀ known, Returns (registerEntity device descriptor known)
  handles : ∀ device : Device, device.descriptors = derived.descriptors.map (·.routed) →
    ∀ values, Returns (handleReport derived.descriptors device values)
  /-- A descriptor of every trait is indexed under its wire path, unless a light absorbs the trait or
  its override lacks labels. -/
  covers : ∀ spec ∈ traits.values,
    Fused (deviceTypeOf endpoints spec.endpoint) spec ∨
    (Unlabelled (deviceTypeOf endpoints spec.endpoint) spec ∧
      .traitDropped model spec.endpoint .select spec.id ∈ derived.warnings) ∨
    ∃ descriptor ∈ derived.descriptors,
      (∃ entity ∈ entitiesOf endpoints traits spec, Renames entity descriptor) ∧
        spec.path ∈ descriptor.traitPaths ∧ descriptor.IndexedUnder spec.path

/-- No trait without an override becomes a sensor with a list of options, and no doorbell has two
button events without an override.  A wire path that is not the id of its trait is the one that the
entity writes, no two entities have the same wire path, and none has the id that keys a light. -/
structure Unspoiled (endpoints : Endpoints) (traits : Dictionary String TraitSpec) : Prop where
  noList : ∀ spec ∈ traits.values, spec.platform = none →
    ¬ ListsOptions (deviceTypeOf endpoints spec.endpoint) spec
  oneEvent : ∀ one ∈ traits.values, ∀ other ∈ traits.values, one.endpoint = other.endpoint →
    deviceTypeOf endpoints one.endpoint = "Doorbell" →
    one.platform = none → one.HasCodes "Doorbell" "ButtonEvent" →
    other.platform = none → other.HasCodes "Doorbell" "ButtonEvent" → one = other
  routed : ∀ spec ∈ traits.values, Entitled endpoints spec →
    spec.path = spec.id ∨ Settable (deviceTypeOf endpoints spec.endpoint) spec
  apart : ∀ one ∈ traits.values, ∀ other ∈ traits.values, Entitled endpoints one →
    Entitled endpoints other → one.path = other.path → one = other
  lightsApart : ∀ spec ∈ traits.values, Entitled endpoints spec → ∀ power ∈ traits.values,
    Powers endpoints traits power → spec.path ≠ power.id

section Derivation

variable {model : String} {endpoints : Endpoints} {traits : Dictionary String TraitSpec}
  {settings : SettingMap} {derived : Derived} {spec : TraitSpec}

/-- What `build_descriptors` returns: the descriptors of all endpoints up to their names, and the
settings. -/
structure Derives (model : String) (endpoints : Endpoints) (traits : Dictionary String TraitSpec)
    (settings : SettingMap) (derived : Derived) : Prop where
  split : ∃ named, derived.descriptors = named ++ buildSettingDescriptors settings.toDictionary ∧
    List.Forall₂ Renames
      ((classifiedEndpoints endpoints traits none).flatMap fun endpoint =>
        (classified model endpoints traits endpoint).descriptors) named
  warnings_eq : derived.warnings =
    (classifiedEndpoints endpoints traits none).flatMap fun endpoint =>
      (classified model endpoints traits endpoint).warnings

/-- `build_descriptors` always returns. -/
theorem buildDescriptors_spec (catalog : Catalog) (model : String) (overlay : String → OverlayMap) :
    ∃ derived, buildDescriptors catalog model overlay = .ok derived ∧
      Derives model (catalog.endpointsForModel model)
        (mergedTraits catalog model overlay).toDictionary (catalog.settingsForModel model)
        derived := by
  obtain ⟨classified, done, named, warned⟩ := classifyV3_spec model
    (catalog.endpointsForModel model) (mergedTraits catalog model overlay).numbered
  refine ⟨⟨classified.descriptors ++ buildSettingDescriptors
    (catalog.settingsForModel model).toDictionary, classified.warnings⟩, ?_,
    ⟨classified.descriptors, rfl, named⟩, warned⟩
  rw [buildDescriptors, done, ok_bind]
  rfl

theorem Renames.hashable_eq {before after : AnyDescriptor} (renames : Renames before after) :
    after.hashable = before.hashable := by
  simp only [AnyDescriptor.hashable, renames.binding_eq]

theorem Renames.traitPaths_eq {before after : AnyDescriptor} (renames : Renames before after) :
    after.traitPaths = before.traitPaths := by
  simp only [AnyDescriptor.traitPaths, renames.binding_eq]

theorem map_key_eq_of_renames {before after : List AnyDescriptor}
    (renames : List.Forall₂ Renames before after) :
    after.map (·.key) = before.map (·.key) := by
  induction renames with
  | nil => rfl
  | cons first _ induction => rw [List.map_cons, List.map_cons, first.key_eq, induction]

/-- An item of the first of two related lists is related to one of the second. -/
theorem exists_of_forall₂ {α β : Type} {R : α → β → Prop} {first : List α} {second : List β}
    (related : List.Forall₂ R first second) {item : α} (member : item ∈ first) :
    ∃ other ∈ second, R item other := by
  induction related with
  | nil => exact absurd member List.not_mem_nil
  | cons head _ induction =>
      rcases List.mem_cons.mp member with rfl | later
      · exact ⟨_, List.mem_cons_self, head⟩
      · obtain ⟨other, there, same⟩ := induction later
        exact ⟨other, List.mem_cons_of_mem _ there, same⟩

theorem exists_renames_right {before after : List AnyDescriptor}
    (renames : List.Forall₂ Renames before after) {descriptor : AnyDescriptor}
    (member : descriptor ∈ after) : ∃ original ∈ before, Renames original descriptor :=
  exists_of_forall₂ (List.Forall₂.flip (R := flip Renames) renames) member

theorem mem_buildSettingDescriptors {settings : Dictionary String SettingSpec}
    {descriptor : AnyDescriptor} (member : descriptor ∈ buildSettingDescriptors settings) :
    ∃ entry ∈ settings.entries, descriptor.key = entry.1 ∧ descriptor.traitPaths = [] ∧
      descriptor.hashable := by
  obtain ⟨entry, known, built⟩ := List.mem_filterMap.mp member
  exact ⟨entry, known, settingDescriptor_spec built⟩

theorem nodup_buildSettingDescriptors (settings : Dictionary String SettingSpec) :
    ((buildSettingDescriptors settings).map (·.key)).Nodup := by
  refine settings.nodup.sublist ?_
  rw [buildSettingDescriptors]
  induction settings.entries with
  | nil => exact List.Sublist.slnil
  | cons entry entries induction =>
      cases built : settingDescriptor entry.1 entry.2 with
      | none =>
          simp only [List.filterMap_cons, built]
          exact induction.cons _
      | some descriptor =>
          simp only [List.filterMap_cons, built, List.map_cons, (settingDescriptor_spec built).1]
          exact induction.cons_cons _

/-! ## The entities of one trait -/

theorem made_entitiesOf (entitled : Entitled endpoints spec)
    (first : ¬ Lost (deviceTypeOf endpoints spec.endpoint) (endpointSpecs traits spec.endpoint) spec) :
    Made spec (route (deviceTypeOf endpoints spec.endpoint) spec)
      (entitiesOf endpoints traits spec) :=
  made_become entitled.1 entitled.2 first

theorem entitiesOf_of_powers (powers : Powers endpoints traits spec) :
    entitiesOf endpoints traits spec =
      [fusedLight (endpointSpecs traits spec.endpoint) spec] := by
  rw [entitiesOf, become_of_fused powers.1, if_pos powers.2]

/-- Only a trait that has entities of its own or keys a light becomes anything. -/
theorem entitled_or_powers {descriptor : AnyDescriptor}
    (member : descriptor ∈ entitiesOf endpoints traits spec) :
    Entitled endpoints spec ∨ Powers endpoints traits spec := by
  rcases of_mem_become member with ⟨fused, found, -⟩ | ⟨free, labelled, -⟩
  · exact Or.inr ⟨fused, found⟩
  · exact Or.inl ⟨free, labelled⟩

/-- A trait that a doorbell loses has entities to become. -/
theorem entitled_of_lost {specs : List TraitSpec}
    (lost : Lost (deviceTypeOf endpoints spec.endpoint) specs spec) : Entitled endpoints spec := by
  refine ⟨fun fused => ?_, fun unlabelled => ?_⟩
  · have light := fused.1
    simp [lost.2.1] at light
  · have chosen := unlabelled.2.1
    simp [lost.1] at chosen

/-- The traits that a doorbell loses are the later ones of two button events without overrides. -/
theorem lost_iff :
    (∀ spec ∈ traits.values, ¬ Lost (deviceTypeOf endpoints spec.endpoint)
        (endpointSpecs traits spec.endpoint) spec) ↔
      ∀ one ∈ traits.values, ∀ other ∈ traits.values, one.endpoint = other.endpoint →
        deviceTypeOf endpoints one.endpoint = "Doorbell" →
        one.platform = none → one.HasCodes "Doorbell" "ButtonEvent" →
        other.platform = none → other.HasCodes "Doorbell" "ButtonEvent" → one = other := by
  constructor
  · intro kept one oneMember other otherMember same type oneFree oneCodes otherFree otherCodes
    have first (spec : TraitSpec) (member : spec ∈ traits.values) (free : spec.platform = none)
        (codes : spec.HasCodes "Doorbell" "ButtonEvent")
        (type : deviceTypeOf endpoints spec.endpoint = "Doorbell") :
        findTrait ((endpointSpecs traits spec.endpoint).filter fun spec =>
          spec.platform = none) "Doorbell" "ButtonEvent" = some spec :=
      not_not.mp fun lost => kept spec member ⟨free, type, codes, lost⟩
    have found := first one oneMember oneFree oneCodes type
    rw [same, first other otherMember otherFree otherCodes (same ▸ type)] at found
    exact (Option.some.inj found).symm
  · rintro single spec member ⟨free, type, codes, lost⟩
    have here : spec ∈ (endpointSpecs traits spec.endpoint).filter fun spec =>
        spec.platform = none :=
      List.mem_filter.mpr ⟨mem_endpointSpecs.mpr ⟨member, rfl⟩, decide_eq_true free⟩
    cases found : findTrait ((endpointSpecs traits spec.endpoint).filter fun spec =>
        spec.platform = none) "Doorbell" "ButtonEvent" with
    | none =>
        have missing := List.find?_eq_none.mp found spec here
        exact missing (decide_eq_true codes)
    | some first =>
        obtain ⟨known, firstCodes⟩ := findTrait_spec found
        obtain ⟨inside, firstFree⟩ := List.mem_filter.mp known
        obtain ⟨firstMember, same⟩ := mem_endpointSpecs.mp inside
        have equal := single spec member first firstMember same.symm type free codes
          (of_decide_eq_true firstFree) firstCodes
        exact lost (equal ▸ found)

/-! ## The entities of a model -/

namespace Derives

/-- What a trait becomes is derived, up to names. -/
theorem exists_renamed (derives : Derives model endpoints traits settings derived)
    (nodup : traits.values.Nodup) (member : spec ∈ traits.values) {entity : AnyDescriptor}
    (made : entity ∈ entitiesOf endpoints traits spec) :
    ∃ descriptor ∈ derived.descriptors, Renames entity descriptor := by
  obtain ⟨named, split, renames⟩ := derives.split
  have there := (perm_classified model endpoints nodup).mem_iff.mpr
    (List.mem_flatMap.mpr ⟨spec, member, made⟩)
  obtain ⟨descriptor, here, same⟩ := exists_of_forall₂ renames there
  exact ⟨descriptor, split ▸ List.mem_append_left _ here, same⟩

/-- A derived descriptor is of a trait, or hashable as those of settings are. -/
theorem exists_entity (derives : Derives model endpoints traits settings derived)
    (nodup : traits.values.Nodup) {descriptor : AnyDescriptor}
    (member : descriptor ∈ derived.descriptors) :
    (∃ spec ∈ traits.values, ∃ entity ∈ entitiesOf endpoints traits spec,
      Renames entity descriptor) ∨ descriptor.hashable := by
  obtain ⟨named, split, renames⟩ := derives.split
  rw [split] at member
  rcases List.mem_append.mp member with here | setting
  · obtain ⟨entity, original, same⟩ := exists_renames_right renames here
    obtain ⟨spec, known, made⟩ :=
      List.mem_flatMap.mp ((perm_classified model endpoints nodup).mem_iff.mp original)
    exact Or.inl ⟨spec, known, entity, made, same⟩
  · obtain ⟨-, -, -, -, hashable⟩ := mem_buildSettingDescriptors setting
    exact Or.inr hashable

/-- The keys are distinct when those of the traits' entities are. -/
theorem nodup_iff (derives : Derives model endpoints traits settings derived)
    (nodup : traits.values.Nodup) :
    (derived.descriptors.map (·.key)).Nodup ↔
      (traits.values.flatMap fun spec =>
        (entitiesOf endpoints traits spec).map (·.key)).Nodup := by
  obtain ⟨named, split, renames⟩ := derives.split
  have keys : (named.map (·.key)).Perm
      (traits.values.flatMap fun spec => (entitiesOf endpoints traits spec).map (·.key)) := by
    rw [map_key_eq_of_renames renames, ← List.map_flatMap]
    exact (perm_classified model endpoints nodup).map _
  rw [← keys.nodup_iff, split, List.map_append, List.nodup_append']
  refine ⟨And.left, fun own => ⟨own, nodup_buildSettingDescriptors _, ?_⟩⟩
  intro key classifiedKey settingKey
  obtain ⟨renamed, member, rfl⟩ := List.mem_map.mp classifiedKey
  obtain ⟨setting, settingMember, same⟩ := List.mem_map.mp settingKey
  obtain ⟨descriptor, original, renamed⟩ := exists_renames_right renames member
  obtain ⟨entry, known, settingIs, -⟩ := mem_buildSettingDescriptors settingMember
  have dotted : Dotted descriptor.key := by
    rw [← renamed.key_eq, ← same, settingIs]
    exact settings.dotted entry known
  obtain ⟨spec, -, key | key⟩ := (sourced_of_classified original).key
  · exact not_dotted_of_mem_keysOf key dotted
  · exact not_dotted_of_mem_keysOf key dotted

end Derives

theorem hashable_entitiesOf_iff :
    (∀ entity ∈ entitiesOf endpoints traits spec, entity.hashable) ↔
      ¬ (spec.platform = none ∧ ListsOptions (deviceTypeOf endpoints spec.endpoint) spec) :=
  hashable_become_iff

/-! ## What can be routed is not spoiled -/

namespace Routable

variable (routable : Routable model endpoints traits derived)
include routable

theorem path_mem (member : spec ∈ traits.values) (entitled : Entitled endpoints spec) :
    ∃ entity ∈ entitiesOf endpoints traits spec, spec.path ∈ entity.traitPaths := by
  obtain ⟨descriptor, -, ⟨entity, made, renames⟩, path, -⟩ :=
    ((routable.covers spec member).resolve_left entitled.1).resolve_left
      fun dropped => entitled.2 dropped.1
  exact ⟨entity, made, renames.traitPaths_eq ▸ path⟩

theorem not_lost (member : spec ∈ traits.values) :
    ¬ Lost (deviceTypeOf endpoints spec.endpoint) (endpointSpecs traits spec.endpoint) spec := by
  intro lost
  obtain ⟨entity, made, -⟩ := routable.path_mem member (entitled_of_lost lost)
  rw [entitiesOf, become_eq_nil_of_lost lost] at made
  exact List.not_mem_nil made

theorem routed (member : spec ∈ traits.values) (entitled : Entitled endpoints spec) :
    route (deviceTypeOf endpoints spec.endpoint) spec = spec.path :=
  (made_entitiesOf entitled (routable.not_lost member)).path_mem_iff.mp
    (routable.path_mem member entitled)

/-- An entity that is routed by the wire path of its trait is keyed by it. -/
theorem autoKey_mem (member : spec ∈ traits.values) (entitled : Entitled endpoints spec) :
    autoKey spec.path ∈ (entitiesOf endpoints traits spec).map (·.key) := by
  have made : Made spec _ (entitiesOf endpoints traits spec) :=
    made_entitiesOf entitled (routable.not_lost member)
  rcases made.keys_eq_of_path (routable.routed member entitled) with keys | keys
  · exact keys ▸ List.mem_cons_self
  · exact keys ▸ List.mem_cons_self

theorem unspoiled (derives : Derives model endpoints traits settings derived)
    (nodup : traits.values.Nodup) : Unspoiled endpoints traits where
  noList spec member absent lists := by
    have hashable : ∀ entity ∈ entitiesOf endpoints traits spec, entity.hashable := by
      intro entity made
      obtain ⟨renamed, here, same⟩ := derives.exists_renamed nodup member made
      exact same.hashable_eq ▸ routable.hashable renamed here
    exact hashable_entitiesOf_iff.mp hashable ⟨absent, lists⟩
  oneEvent := lost_iff.mp fun _ member => routable.not_lost member
  routed _ member entitled := route_eq_path_iff.mp (routable.routed member entitled)
  apart one oneMember other otherMember oneEntitled otherEntitled same :=
    eq_of_nodup_flatMap ((derives.nodup_iff nodup).mp routable.nodup) oneMember otherMember
      (routable.autoKey_mem oneMember oneEntitled)
      (same ▸ routable.autoKey_mem otherMember otherEntitled)
  lightsApart spec member entitled power powerMember powers same := by
    have light : autoKey power.id ∈ (entitiesOf endpoints traits power).map (·.key) := by
      rw [entitiesOf_of_powers powers]
      exact List.mem_cons_self
    obtain rfl := eq_of_nodup_flatMap ((derives.nodup_iff nodup).mp routable.nodup) member
      powerMember (routable.autoKey_mem member entitled) (same ▸ light)
    exact entitled.1 powers.1

end Routable

/-! ## What is not spoiled can be routed -/

namespace Unspoiled

variable (unspoiled : Unspoiled endpoints traits)
include unspoiled

/-- The entities of a trait have keys of its wire path, and are routed by it. -/
theorem made (member : spec ∈ traits.values) (entitled : Entitled endpoints spec) :
    Made spec spec.path (entitiesOf endpoints traits spec) := by
  have whole := made_entitiesOf entitled (lost_iff.mpr unspoiled.oneEvent spec member)
  rwa [route_eq_path_iff.mpr (unspoiled.routed spec member entitled)] at whole

/-- The key of an entity comes from the wire path of its trait, or from the id if that is a light's. -/
theorem key_mem (member : spec ∈ traits.values) {key : String}
    (keyed : key ∈ (entitiesOf endpoints traits spec).map (·.key)) :
    Entitled endpoints spec ∧ key ∈ keysOf spec.path ∨
      Powers endpoints traits spec ∧ key ∈ keysOf spec.id := by
  obtain ⟨entity, made, rfl⟩ := List.mem_map.mp keyed
  rcases entitled_or_powers made with entitled | powers
  · refine Or.inl ⟨entitled, ?_⟩
    rcases (unspoiled.made member entitled).keys_eq_of_path rfl with keys | keys
    · rw [keys] at keyed
      exact List.mem_cons.mpr (Or.inl (List.mem_singleton.mp keyed))
    · rw [keys] at keyed
      exact keyed
  · rw [entitiesOf_of_powers powers, List.mem_singleton] at made
    exact Or.inr ⟨powers, made ▸ List.mem_cons_self⟩

theorem nodup_keys (numbered : Numbered spec) (member : spec ∈ traits.values) :
    ((entitiesOf endpoints traits spec).map (·.key)).Nodup := by
  cases known : entitiesOf endpoints traits spec with
  | nil => exact List.nodup_nil
  | cons entity others =>
      have made : entity ∈ entitiesOf endpoints traits spec := known ▸ List.mem_cons_self
      rw [← known]
      rcases entitled_or_powers made with entitled | powers
      · rcases (unspoiled.made member entitled).keys_eq_of_path rfl with keys | keys
        · exact keys ▸ List.nodup_singleton _
        · have different := autoKey_ne_binary numbered.path spec.path
          rw [keys]
          exact List.nodup_cons.mpr
            ⟨fun same => different (List.mem_singleton.mp same), List.nodup_singleton _⟩
      · rw [entitiesOf_of_powers powers]
        exact List.nodup_singleton _

/-- No two traits share a key. -/
theorem eq_of_key_mem (ids : (traits.values.map (·.id)).Nodup)
    (numbered : ∀ spec ∈ traits.values, Numbered spec) {one other : TraitSpec}
    (oneMember : one ∈ traits.values) (otherMember : other ∈ traits.values) {key : String}
    (oneKey : key ∈ (entitiesOf endpoints traits one).map (·.key))
    (otherKey : key ∈ (entitiesOf endpoints traits other).map (·.key)) : one = other := by
  have oneNumbered := numbered one oneMember
  have otherNumbered := numbered other otherMember
  rcases unspoiled.key_mem oneMember oneKey with ⟨oneEntitled, left⟩ | ⟨onePowers, left⟩
  · rcases unspoiled.key_mem otherMember otherKey with ⟨otherEntitled, right⟩ | ⟨otherPowers, right⟩
    · exact unspoiled.apart one oneMember other otherMember oneEntitled otherEntitled
        (eq_of_mem_keysOf oneNumbered.path otherNumbered.path left right)
    · exact absurd (eq_of_mem_keysOf oneNumbered.path otherNumbered.id left right)
        (unspoiled.lightsApart one oneMember oneEntitled other otherMember otherPowers)
  · rcases unspoiled.key_mem otherMember otherKey with ⟨otherEntitled, right⟩ | ⟨otherPowers, right⟩
    · exact absurd (eq_of_mem_keysOf otherNumbered.path oneNumbered.id right left)
        (unspoiled.lightsApart other otherMember otherEntitled one oneMember onePowers)
    · exact List.inj_on_of_nodup_map ids oneMember otherMember
        (eq_of_mem_keysOf oneNumbered.id otherNumbered.id left right)

theorem nodup (derives : Derives model endpoints traits settings derived)
    (ids : (traits.values.map (·.id)).Nodup) (numbered : ∀ spec ∈ traits.values, Numbered spec) :
    (derived.descriptors.map (·.key)).Nodup := by
  have distinct : traits.values.Nodup := ids.of_map _
  refine (derives.nodup_iff distinct).mpr (List.nodup_flatMap.mpr ⟨fun spec member => ?_, ?_⟩)
  · exact unspoiled.nodup_keys (numbered spec member) member
  · exact distinct.imp_of_mem fun oneMember otherMember different _ oneKey otherKey =>
      different (unspoiled.eq_of_key_mem ids numbered oneMember otherMember oneKey otherKey)

theorem hashable (derives : Derives model endpoints traits settings derived)
    (nodup : traits.values.Nodup) : ∀ descriptor ∈ derived.descriptors, descriptor.hashable := by
  intro descriptor member
  rcases derives.exists_entity nodup member with ⟨spec, known, entity, made, same⟩ | setting
  · rw [same.hashable_eq]
    exact hashable_entitiesOf_iff.mpr (fun bad => unspoiled.noList spec known bad.1 bad.2) entity made
  · exact setting

theorem routable (derives : Derives model endpoints traits settings derived)
    (ids : (traits.values.map (·.id)).Nodup) (numbered : ∀ spec ∈ traits.values, Numbered spec) :
    Routable model endpoints traits derived where
  nodup := unspoiled.nodup derives ids numbered
  hashable := unspoiled.hashable derives (ids.of_map _)
  registers device _ descriptor member known := by
    rw [registerEntity, if_pos (unspoiled.hashable derives (ids.of_map _) descriptor member)]
    exact returns_ok _
  handles device bound values := by
    rw [handleReport_eq_ok (unspoiled.hashable derives (ids.of_map _)) bound values]
    exact returns_ok _
  covers spec member := by
    by_cases fused : Fused (deviceTypeOf endpoints spec.endpoint) spec
    · exact Or.inl fused
    refine Or.inr ?_
    by_cases unlabelled : Unlabelled (deviceTypeOf endpoints spec.endpoint) spec
    · refine Or.inl ⟨unlabelled, ?_⟩
      rw [derives.warnings_eq]
      exact List.mem_flatMap.mpr ⟨spec.endpoint, endpoint_mem_classifiedEndpoints member,
        mem_warnings_classifyEndpoint unlabelled.1 (mem_endpointSpecs.mpr ⟨member, rfl⟩)
          unlabelled.2.1 unlabelled.2.2⟩
    · obtain ⟨entity, made, path⟩ :=
        (unspoiled.made member ⟨fused, unlabelled⟩).path_mem_iff.mpr rfl
      obtain ⟨descriptor, here, same⟩ := derives.exists_renamed (ids.of_map _) member made
      have exposed : spec.path ∈ descriptor.traitPaths := same.traitPaths_eq ▸ path
      exact Or.inr ⟨descriptor, here, ⟨entity, made, same⟩, exposed,
        AnyDescriptor.indexedUnder_of_mem_traitPaths (numbered spec member).path.1 exposed⟩

end Unspoiled

end Derivation

/-- The descriptors of a model can be registered and routed exactly when its traits are not
spoiled. -/
theorem derived_routable_iff (catalog : Catalog) (model : String) (overlay : String → OverlayMap) :
    (∃ derived, buildDescriptors catalog model overlay = .ok derived ∧
        Routable model (catalog.endpointsForModel model)
          (mergedTraits catalog model overlay).toDictionary derived) ↔
      Unspoiled (catalog.endpointsForModel model)
        (mergedTraits catalog model overlay).toDictionary := by
  obtain ⟨derived, built, derives⟩ := buildDescriptors_spec catalog model overlay
  have ids := (mergedTraits catalog model overlay).nodup_ids
  have numbered := (mergedTraits catalog model overlay).numbered
  constructor
  · rintro ⟨other, same, routable⟩
    obtain rfl := Except.ok.inj (built.symm.trans same)
    exact routable.unspoiled derives (ids.of_map _)
  · exact fun unspoiled => ⟨derived, built, unspoiled.routable derives ids numbered⟩

/-! ## A curtain -/

/-- The motor of a curtain, as the catalogue has it. -/
def motorStatus : TraitSpec where
  id := "2.137.20031"
  wirePath := some "2.137.20031"
  name := "Motor operation status"
  dataType := "enum"
  enumValues := some
    ⟨[("0", "Closing"), ("1", "Opening"), ("2", "Stopped"), ("3", "Obstacle stop")], by decide⟩
  functionCode := some "WindowCovering"
  traitCode := some "MotorOperationStatus"
  endpointId := some 2

theorem filed_motorStatus : Filed "2.137.20031" motorStatus where
  dotted := by simp [Dotted]
  endpoint := by simp [ShortEndpoint, Python.maxStrDigits]
  id_eq := rfl
  path_eq := rfl

/-- A catalogue of one curtain. -/
def curtainCatalog : Catalog where
  traitsForModel _ :=
    { entries := [("2.137.20031", motorStatus)]
      nodup := List.nodup_singleton _
      filed := List.forall_mem_singleton.mpr filed_motorStatus }
  endpointsForModel _ := ⟨[(2, some "WindowCovering")], List.nodup_singleton _⟩
  settingsForModel _ :=
    { Dictionary.empty with dotted := fun _ member => absurd member List.not_mem_nil }

/-- An overlay without entries. -/
def noOverlay (_ : String) : OverlayMap :=
  { Dictionary.empty with named := fun _ member => absurd member List.not_mem_nil }

/-- The status of the curtain's motor cannot be routed: its report raises. -/
theorem curtain_report_raises :
    ∃ derived, buildDescriptors curtainCatalog "lumi.curtain.vagl02" noOverlay = .ok derived ∧
      ¬ Routable "lumi.curtain.vagl02" (curtainCatalog.endpointsForModel "lumi.curtain.vagl02")
        (mergedTraits curtainCatalog "lumi.curtain.vagl02" noOverlay).toDictionary derived ∧
      ∀ device value, handleReport derived.descriptors device [("2.137.20031.1", value)] =
        .error .unhashable := by
  have unhashable : (listedSensor motorStatus).hashable = false := by decide
  have served : (listedSensor motorStatus).IndexedUnder (canonicalizeReportKey "2.137.20031.1") :=
    Or.inl (by decide)
  refine ⟨⟨[listedSensor motorStatus], []⟩, by decide, fun routable => ?_, fun device value => ?_⟩
  · have hash := routable.hashable (listedSensor motorStatus) List.mem_cons_self
    simp [unhashable] at hash
  · exact handleReport_raises List.mem_cons_self unhashable served device value []

end Reference
end AqaraLanLink
