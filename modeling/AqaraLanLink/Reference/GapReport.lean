import AqaraLanLink.Reference.Classify
import AqaraLanLink.Reference.Overlay

/-!
# The gap report

`gap_report.py`, and what its proposals go through before a classification sees them again: the
issue of a scan and its review in `services/scan_device.py` and `repairs.py`, or the flow that adds
a device, and then the overlay store.
-/

namespace AqaraLanLink
namespace Reference

open Library

/-! ## Reading numbers -/

namespace Python

/-- A character for which `isspace` holds. -/
def isSpace (char : Char) : Bool :=
  [(0x09, 0x0D), (0x1C, 0x20), (0x85, 0x85), (0xA0, 0xA0), (0x1680, 0x1680), (0x2000, 0x200A),
    (0x2028, 0x2029), (0x202F, 0x202F), (0x205F, 0x205F), (0x3000, 0x3000)].any fun range =>
      decide (range.1 ≤ char.toNat) && decide (char.toNat ≤ range.2)

/-- `strip`. -/
def strip (text : List Char) : List Char :=
  ((text.dropWhile isSpace).reverse.dropWhile isSpace).reverse

/-- The digits of a number, between which single underscores can stand. -/
def digits : Bool → List Char → Option (List ℕ)
  | after, [] => if after then some [] else none
  | after, char :: text =>
      match decimalValue char with
      | some digit => (digits true text).map (digit :: ·)
      | none => if char = '_' ∧ after then digits false text else none

/-- Whether a number has a minus sign, and what is left of it. -/
def sign : List Char → Bool × List Char
  | '-' :: text => (true, text)
  | '+' :: text => (false, text)
  | text => (false, text)

/-- `int`, unless it raises a `ValueError`. -/
def int (text : List Char) : Option ℤ :=
  let signed := sign (strip text)
  ((digits false signed.2).filter fun digits => digits.length ≤ maxStrDigits).map fun digits =>
    let value : ℤ := digits.foldl (fun value digit => 10 * value + digit) 0
    if signed.1 then -value else value

/-- A run of digits. -/
def isDigits (text : List Char) : Bool := (digits false text).isSome

/-- A number with a fraction and an exponent, each of which can be missing. -/
def isDecimal (text : List Char) : Bool :=
  let marks (char : Char) : Bool := char = 'e' || char = 'E'
  let mantissa := text.takeWhile fun char => !marks char
  let whole := mantissa.takeWhile fun char => char ≠ '.'
  let exponent :=
    match text.dropWhile fun char => !marks char with
    | [] => true
    | _ :: exponent => isDigits (sign exponent).2
  let mantissa :=
    match mantissa.dropWhile fun char => char ≠ '.' with
    | [] => isDigits whole
    | _ :: fraction =>
        if whole = [] then isDigits fraction
        else isDigits whole && (fraction = [] || isDigits fraction)
  mantissa && exponent

/-- `float` does not raise a `ValueError`. -/
def isFloat (text : List Char) : Bool :=
  let unsigned := (sign (strip text)).2
  unsigned.map Char.toLower ∈ ["inf".toList, "infinity".toList, "nan".toList] ||
    isDecimal unsigned

end Python

/-! ## Names -/

/-- The tokens that `_TOKEN_RE` finds in a text of at most the given length. -/
def tokens : ℕ → List Char → List (List Char)
  | 0, _ | _, [] => []
  | bound + 1, char :: text =>
      let capitals := (char :: text).takeWhile Char.isUpper
      let after := (char :: text).drop capitals.length
      let lowers := after.takeWhile Char.isLower
      if capitals ≠ [] then
        if lowers = [] then
          -- A run of capitals that no small letter follows.
          capitals :: tokens bound after
        else if capitals.length = 1 then
          (capitals ++ lowers) :: tokens bound (after.drop lowers.length)
        else
          -- The last capital of the run begins the next word.
          capitals.dropLast :: tokens bound ((char :: text).drop (capitals.length - 1))
      else if lowers ≠ [] then lowers :: tokens bound (after.drop lowers.length)
      else
        let digits := (char :: text).takeWhile fun char => (decimalValue char).isSome
        if digits ≠ [] then digits :: tokens bound ((char :: text).drop digits.length)
        else tokens bound text

/-- A token in the name: capitals are kept, and the first token begins with one. -/
def displayed (token : List Char) (index : ℕ) : List Char :=
  if token.all Char.isUpper then token
  else if index = 0 then (token.take 1).map Char.toUpper ++ (token.drop 1).map Char.toLower
  else token.map Char.toLower

/-- `humanize_name`. -/
def humanizeName (name : String) : String :=
  let tokens := tokens name.length name.toList
  if tokens = [] then name
  else String.ofList ([' '].intercalate (tokens.zipIdx.map fun token => displayed token.1 token.2))

/-! ## The report -/

/-- The function id of a wire path, its second part, if it is a number. -/
def fnIdOf (wirePath : String) : Option ℤ := (splitDots wirePath)[1]?.bind Python.int

/-- `_build_fn_id_to_code`: the code that most traits of the catalogue with a function id have. -/
def fnIdToCode (catalogue : List TraitSpec) (fnId : ℤ) : Option String :=
  let codes := catalogue.filterMap fun spec =>
    (given spec.wirePath).bind fun path =>
      (given spec.functionCode).filter fun _ => fnIdOf path = some fnId
  let ranked := codes.dedup.insertionSort fun left right =>
    codes.count right < codes.count left ∨
      codes.count left = codes.count right ∧ left ≤ right
  ranked.head?

/-- `_propose_name`. -/
def proposeName (wirePath : String) (functionCode : Option String) : String :=
  (given ((given functionCode).map humanizeName)).getD ("auto_" ++ wirePath)

/-- `_infer_data_type`. -/
def inferDataType (value : String) : String :=
  let text := Python.strip value.toList
  if text.map Char.toLower ∈ ["true".toList, "false".toList, "0".toList, "1".toList] then "bool"
  else if (Python.int text).isSome then "number"
  else if Python.isFloat text then "number"
  else "string"

/-- `_propose_trait_spec`. -/
def proposeTraitSpec (catalogue : List TraitSpec) (wirePath value : String) : Option TraitSpec :=
  let functionCode := (fnIdOf wirePath).bind (fnIdToCode catalogue)
  let spec : TraitSpec :=
    { id := wirePath
      wirePath := some wirePath
      endpointId := some (((splitDots wirePath).head?.bind Python.int).getD 0)
      functionCode
      name := proposeName wirePath functionCode
      dataType := inferDataType value }
  if spec.valid then some spec else none

/-- `_stringify_value`, by Python's `str`. -/
def stringifyValue (str : Json → String) : Json → String
  | .null => ""
  | .string value => value
  | value => str value

/-- `GapEntry`. -/
structure GapEntry where
  pid : String
  wirePath : String
  proposedSpec : TraitSpec
  cloudValue : Json
  cloudUnit : Option String

/-- `GapReport`. -/
structure GapReport where
  model : String
  entries : List GapEntry

/-- `build_gap_report`. -/
def buildGapReport (catalogue : List TraitSpec) (str : Json → String)
    (pushed : Dictionary String Json) (known : Dictionary String (Option TraitSpec))
    (model : String) : GapReport :=
  let entries := pushed.entries.filterMap fun entry =>
    if entry.1 = "" ∨ entry.1 ∈ known.keys then none
    else
      (proposeTraitSpec catalogue entry.1 (stringifyValue str entry.2)).map fun proposed =>
        { pid := entry.1, wirePath := entry.1, proposedSpec := proposed, cloudValue := entry.2,
          cloudUnit := none }
  { model, entries := entries.insertionSort fun left right => left.wirePath ≤ right.wirePath }

/-! ## The trip -/

/-- What `_spec_to_dict` puts into the data of an issue. -/
structure SpecDict where
  id : String
  name : String
  wirePath : Option String
  dataType : String
  unit : Option String
  platform : Option String
  deviceClass : Option String
  enumValues : Option (Dictionary String String)
  writable : Bool

/-- `_spec_to_dict`. -/
def specToDict (spec : TraitSpec) : SpecDict where
  id := spec.id
  name := spec.name
  wirePath := spec.wirePath
  dataType := spec.dataType
  unit := spec.unit
  platform := spec.platform.map Platform.text
  deviceClass := spec.deviceClass
  enumValues := spec.labels
  writable := spec.writable

/-- The trait that `_ScanReviewFlow._accept` constructs, unless the constructor refuses it. -/
def specOfDict (dict : SpecDict) : Option TraitSpec :=
  let platform :=
    match dict.platform with
    | none => some none
    | some text => (Platform.ofText text).map some
  platform.bind fun platform =>
    let spec : TraitSpec :=
      { id := dict.id
        name := dict.name
        wirePath := dict.wirePath
        dataType := dict.dataType
        unit := dict.unit
        enumValues := dict.enumValues
        platform
        deviceClass := dict.deviceClass
        writable := dict.writable }
    if spec.valid then some spec else none

/-- The two flows in which a proposal is accepted. -/
inductive AcceptPath where
  /-- The review of a scan. -/
  | review
  /-- `_write_bootstrap_acceptance`. -/
  | bootstrap
  deriving DecidableEq, Repr

/-- The trait that a flow files for a proposal. -/
def AcceptPath.filed : AcceptPath → TraitSpec → Option TraitSpec
  | .review, spec => specOfDict (specToDict spec)
  | .bootstrap, spec => some spec

/-- The trait that is loaded after an entry of the report has been accepted and written. -/
def reloaded (path : AcceptPath) (overlay : Overlay) (model : String) (entry : GapEntry) :
    Option TraitSpec :=
  (path.filed entry.proposedSpec).bind fun spec =>
    let key : OverlayKey := (model, entry.pid)
    OverlayStore.asyncLoad (.ok (OverlayStore.asyncWrite
      (OverlayStore.setTraits overlay [(key, spec)]))) key

/-- What a store keeps of a proposal. -/
def TraitSpec.shorn (spec : TraitSpec) : TraitSpec :=
  { spec with endpointId := none, functionCode := none }

/-- What is known of a proposal. -/
structure Proposed (entry : GapEntry) : Prop where
  nonempty : entry.pid ≠ ""
  valid : entry.proposedSpec.valid = true
  made : ∃ endpoint functionCode dataType,
    dataType ∈ ["bool", "number", "string"] ∧
    entry.proposedSpec =
      { id := entry.pid, wirePath := some entry.pid, endpointId := some endpoint, functionCode,
        name := proposeName entry.pid functionCode, dataType }

theorem inferDataType_mem (value : String) : inferDataType value ∈ ["bool", "number", "string"] := by
  rw [inferDataType]
  split
  · simp
  · split
    · simp
    · split
      · simp
      · simp

theorem proposed_of_mem {catalogue : List TraitSpec} {str : Json → String}
    {pushed : Dictionary String Json} {known : Dictionary String (Option TraitSpec)}
    {model : String} {entry : GapEntry}
    (member : entry ∈ (buildGapReport catalogue str pushed known model).entries) :
    Proposed entry := by
  rw [buildGapReport, List.mem_insertionSort, List.mem_filterMap] at member
  obtain ⟨⟨path, value⟩, -, built⟩ := member
  split at built
  · cases built
  · next kept =>
    obtain ⟨spec, proposed, rfl⟩ := Option.map_eq_some_iff.mp built
    simp only [proposeTraitSpec, Option.ite_none_right_eq_some, Option.some.injEq] at proposed
    obtain ⟨valid, rfl⟩ := proposed
    exact ⟨fun empty => kept (.inl empty), valid, _, _, _, inferDataType_mem _, rfl⟩

theorem valid_shorn (spec : TraitSpec) : spec.shorn.valid = spec.valid := rfl

/-- Both flows file a proposal so that the store keeps the same of it. -/
theorem filed_proposal {entry : GapEntry} (proposed : Proposed entry) (path : AcceptPath) :
    ∃ spec, path.filed entry.proposedSpec = some spec ∧ spec.valid = true ∧
      spec.id = entry.pid ∧ spec.stored = entry.proposedSpec.shorn := by
  obtain ⟨nonempty, valid, endpoint, functionCode, dataType, -, made⟩ := proposed
  have named : given (some entry.pid) = some entry.pid := by simp [given, nonempty]
  cases path with
  | review =>
      refine ⟨entry.proposedSpec.shorn, ?_, valid, by rw [made]; rfl, ?_⟩
      · rw [← valid_shorn] at valid
        rw [AcceptPath.filed, specOfDict, specToDict]
        rw [made] at valid ⊢
        exact if_pos valid
      · rw [made]
        simp only [TraitSpec.stored, TraitSpec.shorn, named]
        rfl
  | bootstrap =>
      refine ⟨entry.proposedSpec, rfl, valid, by rw [made], ?_⟩
      rw [made]
      simp only [TraitSpec.stored, TraitSpec.shorn, named]
      rfl

theorem reloaded_eq {entry : GapEntry} (proposed : Proposed entry) (path : AcceptPath)
    (overlay : Overlay) (model : String) :
    reloaded path overlay model entry = some entry.proposedSpec.shorn := by
  obtain ⟨spec, filed, valid, named, stored⟩ := filed_proposal proposed path
  have set : OverlayStore.setTraits overlay [((model, entry.pid), spec)] (model, entry.pid) =
      some spec := by
    simp [OverlayStore.setTraits, overlayAll, overlay_of_some, OverlayStore.accepts]
  rw [reloaded, filed, Option.bind_some]
  simp only [OverlayStore.asyncLoad, OverlayStore.asyncWrite, set, Option.map_some,
    Option.bind_some]
  rw [← named, rowToTraitspec_traitspecToRow valid, stored]

/-! ## The classification -/

/-- The device whose only trait is the given one, without any device type. -/
def lone (spec : TraitSpec) : Dictionary String TraitSpec := Dictionary.empty.set spec.id spec

theorem disambiguateNames_singleton (descriptor : AnyDescriptor) :
    disambiguateNames [descriptor] = .ok [descriptor] := by
  have alone : disambiguated [descriptor] descriptor 0 = .ok descriptor := by
    simp [disambiguated]
    rfl
  simp [disambiguateNames, alone]

/-- The fallback classifies a lone trait, if its endpoint is active. -/
theorem classifyV3_lone {spec : TraitSpec} {descriptor : AnyDescriptor}
    (plain : spec.platform = none) (built : descriptorForTrait spec = some descriptor)
    (model : String) (active : Option (List ℤ)) :
    classifyV3 model Dictionary.empty (lone spec) active =
      .ok ⟨if active.all (fun active => spec.endpoint ∈ active) then [descriptor] else [], []⟩ := by
  have values : (lone spec).values = [spec] := rfl
  have specs : endpointSpecs (lone spec) spec.endpoint = [spec] := by
    simp [endpointSpecs, values]
  have turns : classifiedEndpoints Dictionary.empty (lone spec) active =
      if active.all (fun active => spec.endpoint ∈ active) then [spec.endpoint] else [] := by
    have all : ((lone spec).values.map TraitSpec.endpoint ++
        (Dictionary.empty : Endpoints).keys).dedup.insertionSort (· ≤ ·) = [spec.endpoint] := by
      rw [values]
      rfl
    rw [classifiedEndpoints, all, List.filter_singleton]
    simp [specs]
  have turn : classifyEndpoint model "" spec.endpoint [spec] = ⟨[descriptor], []⟩ := by
    simp [classifyEndpoint, applyPlatformOverrides, selectComposer, forced, dropped, fallback, plain,
      built]
  have untyped : deviceTypeOf Dictionary.empty spec.endpoint = "" := rfl
  rw [classifyV3, turns]
  split
  · simp only [List.map_cons, List.map_nil, untyped, specs, turn, List.flatMap_cons,
      List.flatMap_nil, List.append_nil, disambiguateNames_singleton]
    rfl
  · rfl

/-- The trait that a sensor or a binary sensor is bound to. -/
def Binding.trait? : Binding → Option TraitSpec
  | .sensor part => some part.trait
  | .binarySensor part => some part.trait
  | _ => none

/-- The fallback makes a sensor or a binary sensor of a trait of a proposal's kind. -/
theorem descriptorForTrait_of_kind {spec : TraitSpec} (readOnly : spec.writable = false)
    (dataType : spec.dataType ∈ ["bool", "number", "string"]) :
    ∃ descriptor, descriptorForTrait spec = some descriptor ∧
      descriptor.binding.trait? = some spec := by
  have platform : inferredPlatform spec = .binarySensor ∨ inferredPlatform spec = .sensor := by
    simp only [List.mem_cons, List.not_mem_nil, or_false] at dataType
    rcases dataType with kind | kind | kind
    · simp [inferredPlatform, buttonTraits, kind, readOnly]
    · simp [inferredPlatform, buttonTraits, kind]
    · simp [inferredPlatform, buttonTraits, kind]
  have unpressed : descriptorForTrait spec = buildDescriptor spec (inferredPlatform spec) := rfl
  rw [unpressed]
  rcases platform with binary | sensor
  · rw [binary]
    exact ⟨_, rfl, rfl⟩
  · rw [sensor, buildDescriptor]
    cases spec.labels with
    | some labels => exact ⟨_, rfl, rfl⟩
    | none => exact ⟨_, rfl, rfl⟩

/-- `classify_v3` cannot tell the traits apart. -/
def ClassifiedAlike (proposed loaded : TraitSpec) : Prop :=
  ∀ model endpoints (others : Dictionary String TraitSpec) active,
    classifyV3 model endpoints (others.set proposed.id loaded) active =
      classifyV3 model endpoints (others.set proposed.id proposed) active

/-- A proposal survives in the trait that is loaded. -/
structure Survives (proposed loaded : TraitSpec) : Prop where
  endpointId_eq : loaded.endpointId = proposed.endpointId
  functionCode_eq : loaded.functionCode = proposed.functionCode
  classified : ClassifiedAlike proposed loaded

/-- The descriptors of a proposal and of what is loaded of it. -/
theorem descriptors_of_proposed {entry : GapEntry} (proposed : Proposed entry) :
    (∃ descriptor, descriptorForTrait entry.proposedSpec = some descriptor ∧
      descriptor.binding.trait? = some entry.proposedSpec) ∧
    ∃ descriptor, descriptorForTrait entry.proposedSpec.shorn = some descriptor ∧
      descriptor.binding.trait? = some entry.proposedSpec.shorn := by
  obtain ⟨-, -, endpoint, functionCode, dataType, kind, made⟩ := proposed
  constructor
  · exact descriptorForTrait_of_kind (by rw [made]) (by rw [made]; exact kind)
  · exact descriptorForTrait_of_kind (by rw [made]; rfl) (by rw [made]; exact kind)

theorem endpointId_shorn_ne {entry : GapEntry} (proposed : Proposed entry) :
    entry.proposedSpec.shorn.endpointId ≠ entry.proposedSpec.endpointId := by
  obtain ⟨-, -, endpoint, functionCode, dataType, -, made⟩ := proposed
  rw [made]
  simp [TraitSpec.shorn]

/-- The descriptors of the two are bound to different traits. -/
theorem not_classifiedAlike {entry : GapEntry} (proposed : Proposed entry) :
    ¬ ClassifiedAlike entry.proposedSpec entry.proposedSpec.shorn := by
  intro alike
  obtain ⟨⟨one, built, bound⟩, other, built', bound'⟩ := descriptors_of_proposed proposed
  have plain : entry.proposedSpec.platform = none := by
    obtain ⟨-, -, endpoint, functionCode, dataType, -, made⟩ := proposed
    rw [made]
  have shornPlain : entry.proposedSpec.shorn.platform = none := plain
  have same : classifyV3 "" Dictionary.empty (lone entry.proposedSpec.shorn) none =
      classifyV3 "" Dictionary.empty (lone entry.proposedSpec) none :=
    alike "" Dictionary.empty Dictionary.empty none
  rw [classifyV3_lone shornPlain built', classifyV3_lone plain built] at same
  simp only [Option.all_none, if_true, Except.ok.injEq, Derived.mk.injEq, List.cons.injEq, and_true]
    at same
  rw [same, bound] at bound'
  exact endpointId_shorn_ne proposed
    (congrArg TraitSpec.endpointId (Option.some.inj bound')).symm

/-- While only its own endpoint is active, a proposal has a descriptor, and what is loaded of it has
none unless that endpoint is the root. -/
theorem classifyV3_own_endpoint {entry : GapEntry} (proposed : Proposed entry)
    (elsewhere : entry.proposedSpec.endpoint ≠ 0) (model : String) :
    (∃ descriptor, classifyV3 model Dictionary.empty (lone entry.proposedSpec)
        (some [entry.proposedSpec.endpoint]) = .ok ⟨[descriptor], []⟩) ∧
      classifyV3 model Dictionary.empty (lone entry.proposedSpec.shorn)
        (some [entry.proposedSpec.endpoint]) = .ok ⟨[], []⟩ := by
  obtain ⟨⟨one, built, -⟩, other, built', -⟩ := descriptors_of_proposed proposed
  have plain : entry.proposedSpec.platform = none := by
    obtain ⟨-, -, endpoint, functionCode, dataType, -, made⟩ := proposed
    rw [made]
  have shornPlain : entry.proposedSpec.shorn.platform = none := plain
  have root : entry.proposedSpec.shorn.endpoint = 0 := rfl
  rw [classifyV3_lone plain built, classifyV3_lone shornPlain built', root]
  simp [Ne.symm elsewhere]

/-- No entry of a gap report survives being accepted: what is loaded has neither its endpoint nor its
function code, and `classify_v3` can tell. -/
theorem not_survives_of_accepted {catalogue : List TraitSpec} {str : Json → String}
    {pushed : Dictionary String Json} {known : Dictionary String (Option TraitSpec)}
    {model : String} {entry : GapEntry}
    (member : entry ∈ (buildGapReport catalogue str pushed known model).entries)
    (path : AcceptPath) (overlay : Overlay) :
    ∃ loaded, reloaded path overlay model entry = some loaded ∧
      ¬ Survives entry.proposedSpec loaded ∧
      loaded.endpointId = none ∧ entry.proposedSpec.endpointId ≠ none ∧
      loaded.functionCode = none ∧ ¬ ClassifiedAlike entry.proposedSpec loaded := by
  have proposed := proposed_of_mem member
  have differs := endpointId_shorn_ne proposed
  exact ⟨entry.proposedSpec.shorn, reloaded_eq proposed path overlay model,
    fun survives => differs survives.endpointId_eq, rfl, differs.symm, rfl,
    not_classifiedAlike proposed⟩

/-- The outlet of a strip in the catalogue. -/
def outletTrait : TraitSpec :=
  { id := "2.128.85", name := "OnOff", wirePath := some "2.128.85", functionCode := some "Output" }

/-- What is proposed for the same trait on another endpoint. -/
def outletEntry : GapEntry where
  pid := "1.128.85"
  wirePath := "1.128.85"
  proposedSpec :=
    { id := "1.128.85", name := "Output", wirePath := some "1.128.85", dataType := "bool",
      functionCode := some "Output", endpointId := some 1 }
  cloudValue := .string "1"
  cloudUnit := none

/-- What the strip pushes. -/
def outletPush : Dictionary String Json := Dictionary.empty.set "1.128.85" (.string "1")

theorem outletEntry_mem :
    outletEntry ∈ (buildGapReport [outletTrait] (fun _ => "") outletPush Dictionary.empty
      "lumi.strip").entries :=
  List.mem_singleton.mpr rfl

/-- The outlet does not survive the review of a scan. -/
theorem outlet_not_survives : ∃ loaded,
    reloaded .review (fun _ => none) "lumi.strip" outletEntry = some loaded ∧
      ¬ Survives outletEntry.proposedSpec loaded ∧
      loaded.endpointId = none ∧ outletEntry.proposedSpec.endpointId ≠ none ∧
      loaded.functionCode = none ∧ ¬ ClassifiedAlike outletEntry.proposedSpec loaded :=
  not_survives_of_accepted outletEntry_mem .review fun _ => none

/-- An outlet on endpoint 1 is on the root once it has been accepted, in either flow. -/
theorem outlet_moves :
    outletEntry.proposedSpec.endpoint = 1 ∧
      outletEntry.proposedSpec.functionCode = some "Output" ∧
      ∀ path, ∃ loaded,
        reloaded path (fun _ => none) "lumi.strip" outletEntry = some loaded ∧
          loaded.endpoint = 0 ∧ loaded.functionCode = none ∧
          ¬ Survives outletEntry.proposedSpec loaded := by
  refine ⟨rfl, rfl, fun path => ⟨outletEntry.proposedSpec.shorn, ?_, rfl, rfl, fun survives => ?_⟩⟩
  · exact reloaded_eq (proposed_of_mem outletEntry_mem) path (fun _ => none) "lumi.strip"
  · have moved := survives.endpointId_eq
    cases moved

end Reference
end AqaraLanLink
