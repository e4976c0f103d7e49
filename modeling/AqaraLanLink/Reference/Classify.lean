import AqaraLanLink.Library.Fallible
import AqaraLanLink.Reference.DeviceTypes
import Mathlib.Data.List.Dedup
import Mathlib.Data.List.Sort

/-!
# The reference's classification

`device/classify_v3.py`, `device/naming.py` and `device/build_descriptors.py`: the descriptors of a
device, derived from the catalogue, the overlay and the settings of its model.
-/

namespace AqaraLanLink
namespace Reference

open Library DeviceTypes

/-- The exceptions that the modelled functions can raise. -/
inductive PythonError where
  /-- `int` refuses the text. -/
  | invalidLiteral (text : List Char)
  /-- `int` refuses to read so many digits. -/
  | exceedsLimit (count : ℕ)
  /-- A value has no hash. -/
  | unhashable
  deriving DecidableEq, Repr

/-! ## Names -/

/-- The code points of the digit zero in the scripts whose digits `int` reads. -/
def decimalZeros : List ℕ :=
  [0x30, 0x660, 0x6F0, 0x7C0, 0x966, 0x9E6, 0xA66, 0xAE6, 0xB66, 0xBE6, 0xC66, 0xCE6, 0xD66,
    0xDE6, 0xE50, 0xED0, 0xF20, 0x1040, 0x1090, 0x17E0, 0x1810, 0x1946, 0x19D0, 0x1A80, 0x1A90,
    0x1B50, 0x1BB0, 0x1C40, 0x1C50, 0xA620, 0xA8D0, 0xA900, 0xA9D0, 0xA9F0, 0xAA50, 0xABF0,
    0xFF10, 0x104A0, 0x10D30, 0x11066, 0x110F0, 0x11136, 0x111D0, 0x112F0, 0x11450, 0x114D0,
    0x11650, 0x116C0, 0x11730, 0x118E0, 0x11950, 0x11C50, 0x11D50, 0x11DA0, 0x11F50, 0x16A60,
    0x16AC0, 0x16B50, 0x1D7CE, 0x1D7D8, 0x1D7E2, 0x1D7EC, 0x1D7F6, 0x1E140, 0x1E2F0, 0x1E4F0,
    0x1E950, 0x1FBF0]

/-- The value of a decimal digit. -/
def decimalValue (char : Char) : Option ℕ :=
  (decimalZeros.find? fun start => start ≤ char.toNat ∧ char.toNat < start + 10).map fun start =>
    char.toNat - start

/-- Python's `int` of a text for which `isdigit` holds. -/
def intOf (text : List Char) : Except PythonError ℕ := do
  -- Digits are counted up to the first character that `int` does not read.
  let count := (text.takeWhile fun char => (decimalValue char).isSome).length
  if Python.maxStrDigits < count then .error (.exceedsLimit count)
  else
    let digits ← text.mapM fun char =>
      match decimalValue char with
      | some digit => .ok digit
      | none => .error (.invalidLiteral text)
    pure (digits.foldl (fun value digit => 10 * value + digit) 0)

/-- `_endpoint_of`. -/
def endpointOf (key : String) : Except PythonError (Option ℕ) :=
  match key.toList.splitOn '_' with
  | first :: second :: _ =>
      if first = "auto".toList ∧ isdigit second then (intOf second).map some else .ok none
  | _ => .ok none

theorem head?_splitOn (text : List Char) (separator : Char) :
    (text.splitOn separator).head? = some (text.takeWhile fun char => char ≠ separator) := by
  induction text with
  | nil => rw [List.splitOn_nil, List.takeWhile_nil, List.head?_cons]
  | cons head text induction =>
      rw [List.splitOn_cons_eq_if_modifyHead]
      by_cases same : head = separator
      · rw [if_pos (beq_iff_eq.mpr same), List.head?_cons, List.takeWhile_cons_of_neg (by simp [same])]
      · rw [if_neg (by simp [same]), List.head?_modifyHead, induction,
          List.takeWhile_cons_of_pos (by simp [same]), Option.map_some]

theorem decimalValue_ne_none {char : Char} (digit : char.isDigit) : decimalValue char ≠ none := by
  have bounds : 48 ≤ char.toNat ∧ char.toNat ≤ 57 := Char.isDigit_iff_toNat.mp digit
  rw [decimalValue, Ne, Option.map_eq_none_iff, List.find?_eq_none]
  intro missing
  have start : 48 ∈ decimalZeros := List.mem_cons_self
  exact missing 48 start (decide_eq_true ⟨bounds.1, by omega⟩)

theorem returns_intOf {text : List Char} (digits : ∀ char ∈ text, char.isDigit)
    (short : text.length ≤ Python.maxStrDigits) : Returns (intOf text) := by
  have count : (text.takeWhile fun char => (decimalValue char).isSome).length ≤ text.length :=
    (List.takeWhile_sublist _).length_le
  rw [intOf, if_neg (by omega)]
  refine (returns_bind_of_forall fun values => returns_pure _).mpr (returns_mapM ?_)
  intro char member
  obtain ⟨value, read⟩ := Option.ne_none_iff_exists'.mp (decimalValue_ne_none (digits char member))
  rw [read]
  exact returns_ok value

/-- The endpoint in a key of a dotted number is its first number. -/
theorem takeWhile_key {text : List Char} (dotted : ∀ char ∈ text, char.isDigit ∨ char = '.')
    {suffix : List Char} (ends : suffix.takeWhile (fun char => char ≠ '_') = []) :
    ((text.map fun char => if char = '.' then '_' else char) ++ suffix).takeWhile
        (fun char => char ≠ '_') = text.takeWhile Char.isDigit := by
  induction text with
  | nil => exact ends
  | cons char text induction =>
      obtain ⟨digit | rfl, rest⟩ := List.forall_mem_cons.mp dotted
      · have dot : char ≠ '.' := fun same => by simp [same] at digit
        have line : char ≠ '_' := fun same => by simp [same] at digit
        rw [List.map_cons, if_neg dot, List.cons_append, List.takeWhile_cons_of_pos (by simp [line]),
          List.takeWhile_cons_of_pos digit, induction rest]
      · rfl

/-- The endpoint in the key of a trait's descriptor can be read. -/
theorem returns_endpointOf_of_mem_keysOf {id key : String} (dotted : Dotted id)
    (short : ShortEndpoint id) (member : key ∈ keysOf id) : Returns (endpointOf key) := by
  obtain ⟨suffix, ends, letters⟩ : ∃ suffix : List Char,
      suffix.takeWhile (fun char => char ≠ '_') = [] ∧ key.toList = "auto".toList ++ '_' ::
        ((id.toList.map fun char => if char = '.' then '_' else char) ++ suffix) := by
    simp only [keysOf, List.mem_cons, List.not_mem_nil, or_false] at member
    rcases member with rfl | rfl
    · exact ⟨[], rfl, by rw [toList_autoKey, List.append_nil]; rfl⟩
    · exact ⟨"_binary".toList, rfl, by rw [String.toList_append, toList_autoKey]; rfl⟩
  have second := head?_splitOn
    ((id.toList.map fun char => if char = '.' then '_' else char) ++ suffix) '_'
  rw [takeWhile_key dotted.2 ends] at second
  obtain ⟨others, parts⟩ := List.head?_eq_some_iff.mp second
  have read : Returns (intOf (id.toList.takeWhile Char.isDigit)) :=
    returns_intOf (List.all_eq_true.mp List.all_takeWhile) short
  rw [endpointOf, letters, List.splitOn_append_cons_self_of_not_mem (by simp), parts]
  obtain ⟨value, number⟩ := read
  simp only [number, true_and]
  split
  · exact ⟨some value, rfl⟩
  · exact returns_ok none

/-- `ZONE_ENDPOINT_BASE`. -/
def zoneEndpointBase : ℕ := 100

/-- The descriptor at an index, in a group of at least two of the same name.  The members are given
by their indices and endpoints. -/
def rename (members : List (ℕ × Option ℕ)) (descriptor : AnyDescriptor) (index : ℕ) :
    AnyDescriptor :=
  let base := members.filter fun member => member.2.getD 0 < zoneEndpointBase
  let endpoint := (members.lookup index).join.getD 0
  if zoneEndpointBase ≤ endpoint then
    { descriptor with
      name := descriptor.name ++ " (zone " ++ toString (endpoint - zoneEndpointBase) ++ ")"
      enabledDefault := false }
  else if 1 < base.length then
    let ordered := base.insertionSort fun left right => left.2.getD 0 ≤ right.2.getD 0
    let position := ordered.findIdx fun member => member.1 = index
    { descriptor with name := descriptor.name ++ " " ++ toString (position + 1) }
  else descriptor

/-- The descriptor at an index after `disambiguate_names`. -/
def disambiguated (descriptors : List AnyDescriptor) (descriptor : AnyDescriptor) (index : ℕ) :
    Except PythonError AnyDescriptor := do
  let group := descriptors.zipIdx.filter fun member => member.1.name = descriptor.name
  if group.length < 2 then pure descriptor
  else
    let members ← group.mapM fun member => do
      let endpoint ← endpointOf member.1.key
      pure (member.2, endpoint)
    pure (rename members descriptor index)

/-- `disambiguate_names`. -/
def disambiguateNames (descriptors : List AnyDescriptor) :
    Except PythonError (List AnyDescriptor) :=
  descriptors.zipIdx.mapM fun member => disambiguated descriptors member.1 member.2

/-- Only the name and the enabled default have changed. -/
structure Renames (before after : AnyDescriptor) : Prop where
  key_eq : after.key = before.key
  binding_eq : after.binding = before.binding

theorem renames_rename (members : List (ℕ × Option ℕ)) (descriptor : AnyDescriptor) (index : ℕ) :
    Renames descriptor (rename members descriptor index) := by
  simp only [rename]
  split
  · exact ⟨rfl, rfl⟩
  · split
    · exact ⟨rfl, rfl⟩
    · exact ⟨rfl, rfl⟩

theorem renames_of_disambiguated {descriptors : List AnyDescriptor}
    {descriptor result : AnyDescriptor} {index : ℕ}
    (done : disambiguated descriptors descriptor index = .ok result) :
    Renames descriptor result := by
  simp only [disambiguated] at done
  split at done
  · exact Except.ok.inj done ▸ ⟨rfl, rfl⟩
  · obtain ⟨members, -, last⟩ := bind_eq_ok_iff.mp done
    exact Except.ok.inj last ▸ renames_rename members descriptor index

/-- The descriptors keep their keys and bindings. -/
theorem renames_of_disambiguateNames {descriptors results : List AnyDescriptor}
    (done : disambiguateNames descriptors = .ok results) :
    List.Forall₂ Renames descriptors results := by
  have each := mapM_eq_ok_iff.mp done
  have indexed : List.Forall₂ (fun member result => Renames member.1 result) descriptors.zipIdx
      results := each.imp fun _ _ => renames_of_disambiguated
  have whole := List.forall₂_map_left_iff (f := Prod.fst).mpr indexed
  rwa [List.zipIdx_map_fst] at whole

/-- The pass raises only when the endpoint of a key cannot be read. -/
theorem returns_disambiguateNames {descriptors : List AnyDescriptor}
    (readable : ∀ descriptor ∈ descriptors, Returns (endpointOf descriptor.key)) :
    Returns (disambiguateNames descriptors) := by
  refine returns_mapM fun member _ => ?_
  simp only [disambiguated]
  split
  · exact returns_pure _
  · refine returns_bind_iff.mpr ?_
    obtain ⟨members, read⟩ : Returns ((descriptors.zipIdx.filter fun other =>
        other.1.name = member.1.name).mapM fun other => do
          let endpoint ← endpointOf other.1.key
          pure (other.2, endpoint)) := by
      refine returns_mapM fun other known => ?_
      have there : other.1 ∈ descriptors := by
        have projected := List.mem_map_of_mem (f := Prod.fst) (List.mem_of_mem_filter known)
        rwa [List.zipIdx_map_fst] at projected
      obtain ⟨endpoint, found⟩ := readable other.1 there
      exact ⟨(other.2, endpoint), by rw [found, ok_bind]; rfl⟩
    exact ⟨members, read, returns_pure _⟩

/-! ## The maps of a model -/

/-- A trait stands under its id, which is a dotted number and its wire path. -/
structure Filed (path : String) (spec : TraitSpec) : Prop where
  dotted : Dotted path
  endpoint : ShortEndpoint path
  id_eq : spec.id = path
  path_eq : spec.path = path

/-- A trait stands under its id, and has a wire path of its own. -/
structure Named (id : String) (spec : TraitSpec) : Prop where
  id_eq : spec.id = id
  numbered : Numbered spec

theorem Filed.named {path : String} {spec : TraitSpec} (filed : Filed path spec) :
    Named path spec where
  id_eq := filed.id_eq
  numbered := ⟨filed.id_eq ▸ filed.dotted, filed.path_eq ▸ filed.dotted,
    filed.id_eq ▸ filed.endpoint, filed.path_eq ▸ filed.endpoint⟩

/-- The traits of a model, as the loader files them. -/
structure TraitMap extends Dictionary String TraitSpec where
  filed : ∀ entry ∈ entries, Filed entry.1 entry.2

/-- The overlay of a model: it sets the trait of an id, or drops it.  A row has its wire path apart
from its id. -/
structure OverlayMap extends Dictionary String (Option TraitSpec) where
  named : ∀ entry ∈ entries, ∀ spec, entry.2 = some spec → Named entry.1 spec

/-- The traits of a model under its overlay. -/
structure MergedMap extends Dictionary String TraitSpec where
  named : ∀ entry ∈ entries, Named entry.1 entry.2

/-- The settings of a model by their resource ids. -/
structure SettingMap extends Dictionary String SettingSpec where
  dotted : ∀ entry ∈ entries, Dotted entry.1

theorem SettingMap.dotted_empty :
    ∀ entry ∈ (.empty : Dictionary String SettingSpec).entries, Dotted entry.1 :=
  fun _ member => absurd member List.not_mem_nil

/-- `_merge_overlay_into_catalogue`, from the entries of the overlay. -/
def mergeEntries (catalogue : Dictionary String TraitSpec) :
    List (String × Option TraitSpec) → Dictionary String TraitSpec
  | [] => catalogue
  | (path, none) :: entries => mergeEntries (catalogue.erase path) entries
  | (path, some spec) :: entries => mergeEntries (catalogue.set path spec) entries

theorem named_mergeEntries {catalogue : Dictionary String TraitSpec}
    {overlay : List (String × Option TraitSpec)}
    (catalogueNamed : ∀ entry ∈ catalogue.entries, Named entry.1 entry.2)
    (overlayNamed : ∀ entry ∈ overlay, ∀ spec, entry.2 = some spec → Named entry.1 spec) :
    ∀ entry ∈ (mergeEntries catalogue overlay).entries, Named entry.1 entry.2 := by
  induction overlay generalizing catalogue with
  | nil => exact catalogueNamed
  | cons change overlay induction =>
      obtain ⟨path, spec⟩ := change
      have later := List.forall_mem_cons.mp overlayNamed
      cases spec with
      | none =>
          exact induction
            (fun entry member => catalogueNamed entry (Dictionary.mem_of_mem_erase member)) later.2
      | some spec =>
          refine induction (fun entry member => ?_) later.2
          rcases Dictionary.mem_set member with rfl | old
          · exact later.1 spec rfl
          · exact catalogueNamed entry old

/-- The catalogue of a model under its overlay. -/
def TraitMap.merge (catalogue : TraitMap) (overlay : OverlayMap) : MergedMap where
  toDictionary := mergeEntries catalogue.toDictionary overlay.entries
  named := named_mergeEntries (fun entry member => (catalogue.filed entry member).named)
    overlay.named

theorem nodup_ids {traits : Dictionary String TraitSpec}
    (ids : ∀ entry ∈ traits.entries, entry.2.id = entry.1) : (traits.values.map (·.id)).Nodup := by
  have keys : traits.values.map (·.id) = traits.entries.map Prod.fst := by
    rw [Dictionary.values, List.map_map]
    exact List.map_congr_left ids
  exact keys ▸ traits.nodup

theorem MergedMap.numbered (traits : MergedMap) : ∀ spec ∈ traits.values, Numbered spec := by
  intro spec member
  obtain ⟨entry, known, rfl⟩ := List.mem_map.mp member
  exact (traits.named entry known).numbered

theorem MergedMap.nodup_ids (traits : MergedMap) : (traits.values.map (·.id)).Nodup :=
  Reference.nodup_ids fun entry member => (traits.named entry member).id_eq

theorem TraitMap.kept_values (traits : TraitMap) : Kept traits.values where
  nodup := nodup_ids fun entry member => (traits.filed entry member).id_eq
  dotted spec member := by
    obtain ⟨entry, known, rfl⟩ := List.mem_map.mp member
    exact (traits.filed entry known).id_eq ▸ (traits.filed entry known).dotted
  path_eq spec member := by
    obtain ⟨entry, known, rfl⟩ := List.mem_map.mp member
    rw [(traits.filed entry known).path_eq, (traits.filed entry known).id_eq]

/-! ## Endpoints -/

/-- What `classify_v3` logs. -/
inductive Warning where
  | unknownDeviceType (model : String) (endpoint : ℤ) (deviceType : String)
  | overridesIgnored (model : String) (endpoint : ℤ) (deviceType : String) (ids : List String)
  /-- A platform override produced no descriptor. -/
  | traitDropped (model : String) (endpoint : ℤ) (platform : Platform) (id : String)
  deriving DecidableEq

/-- The descriptors that have been derived, and what has been logged. -/
structure Derived where
  descriptors : List AnyDescriptor
  warnings : List Warning
  deriving DecidableEq

/-- The device type of each endpoint of a model that has one. -/
abbrev Endpoints := Dictionary ℤ (Option String)

/-- The device type of an endpoint; no type and an empty one are the same to the code. -/
def deviceTypeOf (endpoints : Endpoints) (endpoint : ℤ) : String :=
  ((endpoints.get? endpoint).getD none).getD ""

/-- The endpoint of a trait; one without is on the root. -/
def TraitSpec.endpoint (spec : TraitSpec) : ℤ := spec.endpointId.getD 0

/-- `_select_composer`, and the warnings that it logs. -/
def selectComposer (deviceType model : String) (endpoint : ℤ) : Composer × List Warning :=
  if deviceType ≠ "" ∧ composers.lookup deviceType = none then
    (fallback, [.unknownDeviceType model endpoint deviceType])
  else if deviceType ≠ "" then ((getComposer deviceType).compose, [])
  else (fallback, [])

theorem selectComposer_fst (deviceType model : String) (endpoint : ℤ) :
    (selectComposer deviceType model endpoint).1 = (getComposer deviceType).compose := by
  rw [selectComposer]
  split
  · next unknown => rw [getComposer, unknown.2]; rfl
  · split
    · rfl
    · next absent =>
      obtain rfl := not_not.mp absent
      rfl

/-- What a platform override makes of its trait. -/
def forced (spec : TraitSpec) : Option AnyDescriptor := spec.platform.bind (buildDescriptor spec)

/-- The warning about an override that lacks what its platform needs. -/
def dropped (model : String) (endpoint : ℤ) (spec : TraitSpec) : Option Warning :=
  spec.platform.bind fun platform =>
    if buildDescriptor spec platform = none then
      some (.traitDropped model endpoint platform spec.id)
    else none

/-- `_apply_platform_overrides`: the descriptors that overrides force, the traits that are left to the
composer, and the warnings.  A light fuses its traits and ignores overrides. -/
def applyPlatformOverrides (specs : List TraitSpec) (deviceType model : String) (endpoint : ℤ) :
    List AnyDescriptor × List TraitSpec × List Warning :=
  if deviceType = "Light" then
    let overridden := (specs.filter fun spec => spec.platform ≠ none).map (·.id)
    ([], specs,
      if overridden = [] then []
      else [.overridesIgnored model endpoint deviceType overridden])
  else
    (specs.filterMap forced, specs.filter fun spec => spec.platform = none,
      specs.filterMap (dropped model endpoint))

/-- The turn of the loop of `classify_v3` for one endpoint. -/
def classifyEndpoint (model deviceType : String) (endpoint : ℤ) (specs : List TraitSpec) : Derived :=
  let composer := selectComposer deviceType model endpoint
  let overrides := applyPlatformOverrides specs deviceType model endpoint
  { descriptors := overrides.1 ++ composer.1 overrides.2.1
    warnings := composer.2 ++ overrides.2.2 }

theorem classifyEndpoint_light (model : String) (endpoint : ℤ) (specs : List TraitSpec) :
    (classifyEndpoint model "Light" endpoint specs).descriptors =
      (getComposer "Light").compose specs := by
  simp only [classifyEndpoint, selectComposer_fst, applyPlatformOverrides, if_true,
    List.nil_append]

theorem classifyEndpoint_of_ne_light (model : String) {deviceType : String}
    (other : deviceType ≠ "Light") (endpoint : ℤ) (specs : List TraitSpec) :
    (classifyEndpoint model deviceType endpoint specs).descriptors =
      specs.filterMap forced ++
        (getComposer deviceType).compose (specs.filter fun spec => spec.platform = none) := by
  simp only [classifyEndpoint, selectComposer_fst, applyPlatformOverrides, if_neg other]

/-- A trait becomes nothing by its override when it has none, or when a select has no labels. -/
theorem forced_eq_none_iff {spec : TraitSpec} :
    forced spec = none ↔
      spec.platform = none ∨ spec.platform = some .select ∧ spec.labels = none := by
  cases chosen : spec.platform with
  | none => simp [forced, chosen]
  | some platform => simp [forced, chosen, buildDescriptor_eq_none_iff]

variable {model deviceType : String} {endpoint : ℤ} {specs : List TraitSpec}

/-- What one trait of an endpoint becomes. -/
def become (deviceType : String) (specs : List TraitSpec) (spec : TraitSpec) : List AnyDescriptor :=
  if deviceType = "Light" then (getComposer deviceType).become specs spec
  else if spec.platform = none then
    (getComposer deviceType).become (specs.filter fun spec => spec.platform = none) spec
  else (forced spec).toList

/-- An endpoint's traits become descriptors one by one. -/
theorem perm_classifyEndpoint (nodup : specs.Nodup) :
    (classifyEndpoint model deviceType endpoint specs).descriptors.Perm
      (specs.flatMap (become deviceType specs)) := by
  by_cases light : deviceType = "Light"
  · subst light
    rw [classifyEndpoint_light]
    exact (getComposer "Light").perm_compose nodup
  · rw [classifyEndpoint_of_ne_light model light]
    have overridden : specs.filterMap forced =
        (specs.filter fun spec => !decide (spec.platform = none)).flatMap
          (become deviceType specs) := by
      have only : specs.filterMap forced =
          (specs.filter fun spec => !decide (spec.platform = none)).filterMap forced := by
        rw [List.filterMap_filter]
        refine List.filterMap_congr fun spec _ => ?_
        by_cases chosen : spec.platform = none
        · simp [forced, chosen]
        · simp [chosen]
      rw [only, List.filterMap_eq_flatMap_toList]
      refine List.flatMap_congr fun spec member => ?_
      rw [become, if_neg light, if_neg (by simpa using (List.mem_filter.mp member).2)]
    have left := (getComposer deviceType).perm_compose
      (nodup.filter fun spec => decide (spec.platform = none))
    have composed : (specs.filter fun spec => spec.platform = none).flatMap
          ((getComposer deviceType).become (specs.filter fun spec => spec.platform = none)) =
        (specs.filter fun spec => spec.platform = none).flatMap (become deviceType specs) := by
      refine List.flatMap_congr fun spec member => ?_
      rw [become, if_neg light, if_pos (of_decide_eq_true (List.mem_filter.mp member).2)]
    rw [composed] at left
    rw [overridden]
    exact ((left.append_left _).trans List.perm_append_comm).trans (perm_flatMap_filter _ _ _)

/-- A descriptor of an endpoint comes from one of its traits. -/
theorem exists_of_mem_classifyEndpoint {descriptor : AnyDescriptor}
    (member : descriptor ∈ (classifyEndpoint model deviceType endpoint specs).descriptors) :
    ∃ spec ∈ specs, descriptor ∈ become deviceType specs spec := by
  by_cases light : deviceType = "Light"
  · subst light
    rw [classifyEndpoint_light] at member
    exact Composing.exists_of_mem_compose member
  · rw [classifyEndpoint_of_ne_light model light] at member
    rcases List.mem_append.mp member with overridden | composed
    · obtain ⟨spec, known, built⟩ := List.mem_filterMap.mp overridden
      have chosen : spec.platform ≠ none := fun absent => by simp [forced, absent] at built
      refine ⟨spec, known, ?_⟩
      rw [become, if_neg light, if_neg chosen]
      exact Option.mem_toList.mpr built
    · obtain ⟨spec, left, made⟩ := Composing.exists_of_mem_compose composed
      obtain ⟨known, free⟩ := List.mem_filter.mp left
      refine ⟨spec, known, ?_⟩
      rwa [become, if_neg light, if_pos (of_decide_eq_true free)]

/-- The platform on which `build_descriptor` makes an entity of the trait, unless the composer of the
endpoint takes the trait itself. -/
def builtOn (deviceType : String) (spec : TraitSpec) : Option Platform :=
  if deviceType ≠ "Light" ∧ spec.platform ≠ none then spec.platform
  else if (getComposer deviceType).takes spec then none
  else some (inferredPlatform spec)

/-- The entity of the trait is written under the wire path of the trait. -/
def Settable (deviceType : String) (spec : TraitSpec) : Prop :=
  ∃ platform ∈ builtOn deviceType spec, platform.settable

/-- What reports for the entities of the trait are routed by. -/
def route (deviceType : String) (spec : TraitSpec) : String :=
  ((builtOn deviceType spec).map spec.routeOn).getD spec.id

/-- Reports are routed by the wire path of a trait when it is the id or what is written. -/
theorem route_eq_path_iff {spec : TraitSpec} :
    route deviceType spec = spec.path ↔ spec.path = spec.id ∨ Settable deviceType spec := by
  rw [route, Settable]
  cases builtOn deviceType spec with
  | none => simpa using eq_comm
  | some platform =>
      cases written : platform.settable with
      | true => simp [TraitSpec.routeOn, written]
      | false => simpa [TraitSpec.routeOn, written] using eq_comm

/-- The trait is one of the components that the light of its endpoint absorbs. -/
def Fused (deviceType : String) (spec : TraitSpec) : Prop := deviceType = "Light" ∧ Absorbed spec

/-- The override of the trait makes a select of it, which lacks labels. -/
def Unlabelled (deviceType : String) (spec : TraitSpec) : Prop :=
  deviceType ≠ "Light" ∧ spec.platform = some .select ∧ spec.labels = none

/-- The composer of the endpoint loses the trait. -/
def Lost (deviceType : String) (specs : List TraitSpec) (spec : TraitSpec) : Prop :=
  spec.platform = none ∧
    LosesEvent deviceType (specs.filter fun spec => spec.platform = none) spec

variable {spec : TraitSpec}

theorem become_of_fused (fused : Fused deviceType spec) :
    become deviceType specs spec =
      if findTrait specs "Output" "OnOff" = some spec then [fusedLight specs spec] else [] := by
  rw [become, if_pos fused.1]
  exact Composing.become_of_absorbs (((fits_getComposer deviceType).absorbs_iff spec).mpr fused)

theorem become_eq_nil_of_unlabelled (unlabelled : Unlabelled deviceType spec) :
    become deviceType specs spec = [] := by
  obtain ⟨other, select, bare⟩ := unlabelled
  rw [become, if_neg other, if_neg (by simp [select]),
    forced_eq_none_iff.mpr (Or.inr ⟨select, bare⟩)]
  rfl

theorem become_eq_nil_of_lost (lost : Lost deviceType specs spec) :
    become deviceType specs spec = [] := by
  have other : deviceType ≠ "Light" := by
    rw [lost.2.1]
    decide
  rw [become, if_neg other, if_pos lost.1]
  exact Composing.become_eq_nil_of_loses
    (((fits_getComposer deviceType).loses_iff _ spec).mpr lost.2)

/-- Every other trait becomes descriptors of its own. -/
theorem made_become (free : ¬ Fused deviceType spec) (labelled : ¬ Unlabelled deviceType spec)
    (first : ¬ Lost deviceType specs spec) :
    Made spec (route deviceType spec) (become deviceType specs spec) := by
  have fits := fits_getComposer deviceType
  have composed {left : List TraitSpec} (overridden : ¬ (deviceType ≠ "Light" ∧ spec.platform ≠ none))
      (kept : ¬ LosesEvent deviceType left spec) :
      Made spec (route deviceType spec) ((getComposer deviceType).become left spec) := by
    have same : route deviceType spec = (getComposer deviceType).route spec := by
      rw [route, builtOn, if_neg overridden, Composing.route]
      split <;> rfl
    rw [same]
    exact Composing.made_become (fun absorbed => free ((fits.absorbs_iff spec).mp absorbed))
      fun lost => kept ((fits.loses_iff left spec).mp lost)
  rw [become]
  split
  · next light =>
    refine composed (fun overridden => overridden.1 light) fun lost => ?_
    simp [light, LosesEvent] at lost
  · next other =>
    split
    · next absent =>
      exact composed (fun overridden => overridden.2 absent) fun lost => first ⟨absent, lost⟩
    · next chosen =>
      have built : forced spec ≠ none := fun none =>
        (forced_eq_none_iff.mp none).elim chosen fun bare => labelled ⟨other, bare⟩
      obtain ⟨descriptor, made⟩ := Option.ne_none_iff_exists'.mp built
      obtain ⟨platform, on, builds⟩ := Option.bind_eq_some_iff.mp made
      rw [made, route, builtOn, if_pos ⟨other, chosen⟩, on]
      exact made_of_buildDescriptor builds

/-- What a trait becomes is the light that it keys, or of its own. -/
theorem of_mem_become {descriptor : AnyDescriptor}
    (member : descriptor ∈ become deviceType specs spec) :
    (Fused deviceType spec ∧ findTrait specs "Output" "OnOff" = some spec ∧
        descriptor = fusedLight specs spec) ∨
      ¬ Fused deviceType spec ∧ ¬ Unlabelled deviceType spec ∧ ¬ Lost deviceType specs spec := by
  by_cases fused : Fused deviceType spec
  · rw [become_of_fused fused] at member
    split at member
    · next found => exact Or.inl ⟨fused, found, List.mem_singleton.mp member⟩
    · exact absurd member List.not_mem_nil
  · refine Or.inr ⟨fused, fun unlabelled => ?_, fun lost => ?_⟩
    · rw [become_eq_nil_of_unlabelled unlabelled] at member
      exact List.not_mem_nil member
    · rw [become_eq_nil_of_lost lost] at member
      exact List.not_mem_nil member

theorem sourced_of_mem_become {descriptor : AnyDescriptor} (known : spec ∈ specs)
    (member : descriptor ∈ become deviceType specs spec) : Sourced specs descriptor := by
  rcases of_mem_become member with ⟨-, found, rfl⟩ | ⟨free, labelled, first⟩
  · exact sourced_fusedLight found
  · exact .of_made (made_become free labelled first) member known

theorem sourced_of_classifyEndpoint {descriptor : AnyDescriptor}
    (member : descriptor ∈ (classifyEndpoint model deviceType endpoint specs).descriptors) :
    Sourced specs descriptor := by
  obtain ⟨spec, known, made⟩ := exists_of_mem_classifyEndpoint member
  exact sourced_of_mem_become known made

/-- The descriptors of a trait are hashable unless it has no override and its options are kept in a
list. -/
theorem hashable_become_iff :
    (∀ descriptor ∈ become deviceType specs spec, descriptor.hashable) ↔
      ¬ (spec.platform = none ∧ ListsOptions deviceType spec) := by
  have fits := fits_getComposer deviceType
  rw [become]
  split
  · next light =>
    rw [Composing.hashable_become_iff, fits.unhashable_iff]
    exact iff_of_true (fun bad => by simp [light, ListsOptions] at bad)
      fun bad => by simp [light, ListsOptions] at bad
  · split
    · next absent =>
      rw [Composing.hashable_become_iff, fits.unhashable_iff, and_iff_right absent]
    · next chosen =>
      refine iff_of_true (fun descriptor member => ?_) fun bad => chosen bad.1
      obtain ⟨platform, -, made⟩ := Option.bind_eq_some_iff.mp (Option.mem_toList.mp member)
      exact (buildDescriptor_spec made).2.2

/-- A select without labels is dropped with a warning. -/
theorem mem_warnings_classifyEndpoint (other : deviceType ≠ "Light") {spec : TraitSpec}
    (member : spec ∈ specs) (select : spec.platform = some .select)
    (unlabelled : spec.labels = none) :
    .traitDropped model endpoint .select spec.id ∈
      (classifyEndpoint model deviceType endpoint specs).warnings := by
  simp only [classifyEndpoint, applyPlatformOverrides, if_neg other]
  refine List.mem_append_right _ (List.mem_filterMap.mpr ⟨spec, member, ?_⟩)
  have none := buildDescriptor_eq_none_iff.mpr ⟨rfl, unlabelled⟩
  simp [dropped, select, none]

/-- The traits of an endpoint. -/
def endpointSpecs (traits : Dictionary String TraitSpec) (endpoint : ℤ) : List TraitSpec :=
  traits.values.filter fun spec => spec.endpoint = endpoint

/-- The endpoints that the loop of `classify_v3` turns to, in order. -/
def classifiedEndpoints (endpoints : Endpoints) (traits : Dictionary String TraitSpec)
    (activeEndpoints : Option (List ℤ)) : List ℤ :=
  ((traits.values.map TraitSpec.endpoint ++ endpoints.keys).dedup.insertionSort (· ≤ ·)).filter
    fun endpoint =>
      (activeEndpoints.all fun active => endpoint ∈ active) ∧ endpointSpecs traits endpoint ≠ []

/-- `classify_v3`. -/
def classifyV3 (model : String) (endpoints : Endpoints) (traits : Dictionary String TraitSpec)
    (activeEndpoints : Option (List ℤ)) : Except PythonError Derived := do
  let parts := (classifiedEndpoints endpoints traits activeEndpoints).map fun endpoint =>
    classifyEndpoint model (deviceTypeOf endpoints endpoint) endpoint
      (endpointSpecs traits endpoint)
  let descriptors ← disambiguateNames (parts.flatMap (·.descriptors))
  pure { descriptors, warnings := parts.flatMap (·.warnings) }

/-! ## All endpoints -/

theorem endpointSpecs_sublist (traits : Dictionary String TraitSpec) (endpoint : ℤ) :
    (endpointSpecs traits endpoint).Sublist traits.values :=
  List.filter_sublist

theorem mem_endpointSpecs {traits : Dictionary String TraitSpec} {endpoint : ℤ} {spec : TraitSpec} :
    spec ∈ endpointSpecs traits endpoint ↔ spec ∈ traits.values ∧ spec.endpoint = endpoint := by
  simp [endpointSpecs]

theorem nodup_classifiedEndpoints (endpoints : Endpoints) (traits : Dictionary String TraitSpec)
    (activeEndpoints : Option (List ℤ)) :
    (classifiedEndpoints endpoints traits activeEndpoints).Nodup := by
  refine List.Nodup.filter _ ?_
  exact (List.perm_insertionSort _ _).nodup_iff.mpr (List.nodup_dedup _)

theorem endpoint_mem_classifiedEndpoints {endpoints : Endpoints}
    {traits : Dictionary String TraitSpec} {spec : TraitSpec} (member : spec ∈ traits.values) :
    spec.endpoint ∈ classifiedEndpoints endpoints traits none := by
  have here : endpointSpecs traits spec.endpoint ≠ [] :=
    List.ne_nil_of_mem (mem_endpointSpecs.mpr ⟨member, rfl⟩)
  refine List.mem_filter.mpr ⟨?_, by simp [here]⟩
  rw [(List.perm_insertionSort _ _).mem_iff, List.mem_dedup]
  exact List.mem_append_left _ (List.mem_map_of_mem member)

/-- What `classify_v3` has derived for an endpoint before names are disambiguated. -/
def classified (model : String) (endpoints : Endpoints) (traits : Dictionary String TraitSpec)
    (endpoint : ℤ) : Derived :=
  classifyEndpoint model (deviceTypeOf endpoints endpoint) endpoint (endpointSpecs traits endpoint)

/-- What a trait becomes on its endpoint. -/
def entitiesOf (endpoints : Endpoints) (traits : Dictionary String TraitSpec) (spec : TraitSpec) :
    List AnyDescriptor :=
  become (deviceTypeOf endpoints spec.endpoint) (endpointSpecs traits spec.endpoint) spec

/-- The traits of a model become descriptors one by one. -/
theorem perm_classified (model : String) (endpoints : Endpoints)
    {traits : Dictionary String TraitSpec} (nodup : traits.values.Nodup) :
    ((classifiedEndpoints endpoints traits none).flatMap fun endpoint =>
        (classified model endpoints traits endpoint).descriptors).Perm
      (traits.values.flatMap (entitiesOf endpoints traits)) := by
  refine List.Perm.trans (List.Perm.flatMap_left _ fun endpoint _ => ?_)
    (perm_flatMap_groups TraitSpec.endpoint (nodup_classifiedEndpoints endpoints traits none) nodup
      (fun spec member => endpoint_mem_classifiedEndpoints member) (entitiesOf endpoints traits))
  have here : (endpointSpecs traits endpoint).flatMap
        (become (deviceTypeOf endpoints endpoint) (endpointSpecs traits endpoint)) =
      (endpointSpecs traits endpoint).flatMap (entitiesOf endpoints traits) := by
    refine List.flatMap_congr fun spec member => ?_
    obtain ⟨-, rfl⟩ := mem_endpointSpecs.mp member
    rfl
  exact here ▸ perm_classifyEndpoint (nodup.filter _)

theorem sourced_of_classified {model : String} {endpoints : Endpoints}
    {traits : Dictionary String TraitSpec} {descriptor : AnyDescriptor}
    (member : descriptor ∈ (classifiedEndpoints endpoints traits none).flatMap fun endpoint =>
      (classified model endpoints traits endpoint).descriptors) :
    Sourced traits.values descriptor := by
  obtain ⟨endpoint, -, inside⟩ := List.mem_flatMap.mp member
  exact (sourced_of_classifyEndpoint inside).mono (endpointSpecs_sublist traits endpoint).subset

/-- `classify_v3` returns the descriptors of all endpoints, up to their names. -/
theorem classifyV3_spec (model : String) (endpoints : Endpoints)
    {traits : Dictionary String TraitSpec} (numbered : ∀ spec ∈ traits.values, Numbered spec) :
    ∃ derived, classifyV3 model endpoints traits none = .ok derived ∧
      List.Forall₂ Renames
        ((classifiedEndpoints endpoints traits none).flatMap fun endpoint =>
          (classified model endpoints traits endpoint).descriptors)
        derived.descriptors ∧
      derived.warnings =
        (classifiedEndpoints endpoints traits none).flatMap fun endpoint =>
          (classified model endpoints traits endpoint).warnings := by
  have readable : Returns (disambiguateNames
      ((classifiedEndpoints endpoints traits none).flatMap fun endpoint =>
        (classified model endpoints traits endpoint).descriptors)) := by
    refine returns_disambiguateNames fun descriptor member => ?_
    obtain ⟨spec, known, own | wire⟩ := (sourced_of_classified member).key
    · exact returns_endpointOf_of_mem_keysOf (numbered spec known).id
        (numbered spec known).idEndpoint own
    · exact returns_endpointOf_of_mem_keysOf (numbered spec known).path
        (numbered spec known).pathEndpoint wire
  obtain ⟨descriptors, done⟩ := readable
  refine ⟨⟨descriptors, _⟩, ?_, renames_of_disambiguateNames done, rfl⟩
  simp only [classified] at done
  simp only [classifyV3, List.flatMap_map, done, ok_bind]
  rfl

/-! ## Settings -/

/-- `WIDE_MIN`. -/
def wideMin : ℚ := -1000000

/-- `WIDE_MAX`. -/
def wideMax : ℚ := 1000000

/-- What `build_setting_descriptors` makes of one setting, if its platform is known. -/
def settingDescriptor (rid : String) (spec : SettingSpec) : Option AnyDescriptor :=
  let attr : AttrSpec := { name := rid, resourceId := some rid }
  let category : EntityCategory :=
    if spec.entityCategory = "diagnostic" then .diagnostic else .config
  let common (binding : Binding) : AnyDescriptor :=
    { key := rid, name := spec.name, entityCategory := some category,
      enabledDefault := spec.defaultEnabled, binding }
  match spec.platform with
  | "switch" =>
      some (common (.switch
        { attr, onValue := spec.onValue, offValue := spec.offValue,
          optimistic := spec.optimistic }))
  | "select" =>
      some (common (.select
        { attr, optimistic := spec.optimistic,
          optionsMap := (spec.enumValues.map fun labels => labels.entries.map Prod.swap).getD [] }))
  | "number" =>
      some (common (.ofNumber
        { attr, minValue := spec.min.getD wideMin, maxValue := spec.max.getD wideMax,
          step := if spec.isFloat then 1 / 100 else 1,
          mode := if spec.min = none ∧ spec.max = none then .box else .auto,
          unit := spec.unit, optimistic := spec.optimistic }))
  | "text" => some (common (.text attr true))
  | "button" => some (common (.button attr ((given spec.pressValue).getD "1")))
  | _ => none

/-- `build_setting_descriptors`. -/
def buildSettingDescriptors (settings : Dictionary String SettingSpec) : List AnyDescriptor :=
  settings.entries.filterMap fun entry => settingDescriptor entry.1 entry.2

/-- A setting is keyed by its resource id, stands for no trait, and has a hash. -/
theorem settingDescriptor_spec {rid : String} {spec : SettingSpec} {descriptor : AnyDescriptor}
    (built : settingDescriptor rid spec = some descriptor) :
    descriptor.key = rid ∧ descriptor.traitPaths = [] ∧ descriptor.hashable := by
  simp only [settingDescriptor] at built
  split at built <;> cases built <;> exact ⟨rfl, rfl, rfl⟩

/-! ## The descriptors of a device -/

/-- What the catalogue knows of each model. -/
structure Catalog where
  /-- `all_traits_for_model`. -/
  traitsForModel : String → TraitMap
  /-- `endpoints_for_model`. -/
  endpointsForModel : String → Endpoints
  /-- `settings_for_model`. -/
  settingsForModel : String → SettingMap

/-- The traits that `build_descriptors` classifies. -/
def mergedTraits (catalog : Catalog) (model : String) (overlay : String → OverlayMap) :
    MergedMap :=
  (catalog.traitsForModel model).merge (overlay model)

/-- `build_descriptors`. -/
def buildDescriptors (catalog : Catalog) (model : String) (overlay : String → OverlayMap) :
    Except PythonError Derived := do
  let derived ← classifyV3 model (catalog.endpointsForModel model)
    (mergedTraits catalog model overlay).toDictionary none
  pure { derived with
    descriptors := derived.descriptors ++
      buildSettingDescriptors (catalog.settingsForModel model).toDictionary }

end Reference
end AqaraLanLink
