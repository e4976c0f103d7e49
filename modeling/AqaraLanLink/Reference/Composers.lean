import AqaraLanLink.Library.Grouping
import AqaraLanLink.Reference.Catalogue

/-!
# The reference's composers

`device/device_types`: how the traits of one endpoint become descriptors.  Every composer takes some
of the traits itself and leaves the others to the fallback.  The endpoint and the model that the
source also hands to a composer go into a log line only.
-/

namespace AqaraLanLink
namespace Reference

open Library

/-! ## Keys -/

/-- The key that a path gives its descriptor: `auto_` and the path with underscores for dots. -/
def autoKey (path : String) : String :=
  "auto_" ++ String.ofList (path.toList.map fun char => if char = '.' then '_' else char)

/-- The keys of the descriptors that one trait can become. -/
def keysOf (id : String) : List String := [autoKey id, autoKey id ++ "_binary"]

/-- A dotted number, such as a wire path or a resource id. -/
def Dotted (id : String) : Prop := id ≠ "" ∧ ∀ char ∈ id.toList, char.isDigit ∨ char = '.'

instance (id : String) : Decidable (Dotted id) := inferInstanceAs (Decidable (_ ∧ _))

/-- `sys.int_info.default_max_str_digits`. -/
def Python.maxStrDigits : ℕ := 4300

/-- The first of the numbers, the endpoint, is one that `int` reads. -/
def ShortEndpoint (id : String) : Prop :=
  (id.toList.takeWhile Char.isDigit).length ≤ Python.maxStrDigits

theorem toList_autoKey (path : String) :
    (autoKey path).toList =
      "auto_".toList ++ path.toList.map fun char => if char = '.' then '_' else char := by
  simp [autoKey]

theorem Dotted.not_mem_toList {id : String} (dotted : Dotted id) {char : Char}
    (letter : char.isDigit = false) (other : char ≠ '.') : char ∉ id.toList := by
  intro member
  rcases dotted.2 char member with digit | dot
  · simp [letter] at digit
  · exact other dot

/-- The dots of a dotted number can be put back. -/
theorem Dotted.map_underscores {id : String} (dotted : Dotted id) :
    (id.toList.map fun char => if char = '.' then '_' else char).map
      (fun char => if char = '_' then '.' else char) = id.toList := by
  rw [List.map_map]
  refine (List.map_congr_left fun char member => ?_).trans (List.map_id _)
  have other : char ≠ '_' := fun same =>
    dotted.not_mem_toList (by decide) (by decide) (same ▸ member)
  by_cases dot : char = '.'
  · simp [dot]
  · simp [dot, other]

/-- Dotted numbers have keys of their own. -/
theorem autoKey_inj {left right : String} (leftDotted : Dotted left) (rightDotted : Dotted right)
    (same : autoKey left = autoKey right) : left = right := by
  have mapped := congrArg String.toList same
  rw [toList_autoKey, toList_autoKey, List.append_cancel_left_eq] at mapped
  refine String.toList_injective ?_
  rw [← leftDotted.map_underscores, mapped, rightDotted.map_underscores]

/-- The suffix of a second descriptor is in no key of a first one. -/
theorem autoKey_ne_binary {left : String} (leftDotted : Dotted left) (right : String) :
    autoKey left ≠ autoKey right ++ "_binary" := by
  intro same
  have mapped := congrArg String.toList same
  rw [String.toList_append, toList_autoKey, toList_autoKey, List.append_assoc,
    List.append_cancel_left_eq] at mapped
  have letter : 'b' ∈ left.toList.map fun char => if char = '.' then '_' else char := by
    rw [mapped]
    exact List.mem_append_right _ (by decide)
  obtain ⟨char, member, image⟩ := List.mem_map.mp letter
  by_cases dot : char = '.'
  · simp [dot] at image
  · rw [if_neg dot] at image
    exact leftDotted.not_mem_toList (by decide) (by decide) (image ▸ member)

/-- The keys of different traits are different. -/
theorem eq_of_mem_keysOf {left right key : String} (leftDotted : Dotted left)
    (rightDotted : Dotted right) (leftKey : key ∈ keysOf left) (rightKey : key ∈ keysOf right) :
    left = right := by
  simp only [keysOf, List.mem_cons, List.not_mem_nil, or_false] at leftKey rightKey
  rcases leftKey with rfl | rfl <;> rcases rightKey with same | same
  · exact autoKey_inj leftDotted rightDotted same
  · exact absurd same (autoKey_ne_binary leftDotted right)
  · exact absurd same.symm (autoKey_ne_binary rightDotted left)
  · refine autoKey_inj leftDotted rightDotted ?_
    exact String.append_left_inj "_binary" |>.mp same

/-- A key starts with a letter, which no dotted number does. -/
theorem not_dotted_of_mem_keysOf {id key : String} (member : key ∈ keysOf id) : ¬ Dotted key := by
  intro dotted
  have letter : Char.isDigit 'a' = false := by decide
  refine dotted.not_mem_toList letter (by decide) ?_
  simp only [keysOf, List.mem_cons, List.not_mem_nil, or_false] at member
  have start : 'a' ∈ (autoKey id).toList := by
    rw [toList_autoKey]
    exact List.mem_append_left _ (by decide)
  rcases member with rfl | rfl
  · exact start
  · rw [String.toList_append]
    exact List.mem_append_left _ start

/-! ## One trait on one platform -/

/-- `_PRECISION_BY_DEVICE_CLASS`. -/
def precisionByDeviceClass : List (String × ℤ) :=
  [("atmospheric_pressure", 1), ("battery", 0), ("carbon_dioxide", 0), ("current", 2),
    ("energy", 3), ("humidity", 1), ("illuminance", 0), ("power", 1), ("pressure", 1),
    ("signal_strength", 0), ("temperature", 1), ("voltage", 1), ("volatile_organic_compounds", 0)]

/-- `_default_precision`. -/
def defaultPrecision (deviceClass : Option String) (dataType : String) : Option ℤ :=
  match deviceClass.bind fun name => precisionByDeviceClass.lookup name with
  | some precision => some precision
  | none => if dataType = "int" then some 0 else none

/-- The fields that most descriptors take from their trait. -/
def TraitSpec.described (spec : TraitSpec) (binding : Binding) : AnyDescriptor where
  key := autoKey spec.id
  name := spec.name
  entityCategory := spec.ec
  enabledDefault := spec.defaultEnabled
  binding

/-- `build_descriptor`. -/
def buildDescriptor (spec : TraitSpec) (platform : Platform) : Option AnyDescriptor :=
  let attr : AttrSpec := { name := spec.path }
  let unit := (given spec.unitOfMeasurement).or spec.unit
  let plain (binding : Binding) : AnyDescriptor :=
    { spec.described binding with key := autoKey spec.path, icon := spec.icon }
  let classed (binding : Binding) : AnyDescriptor :=
    { plain binding with deviceClass := spec.deviceClass }
  match platform with
  | .sensor =>
      match spec.labels with
      | some labels =>
          some
            { plain (.ofSensor
                { trait := spec, options := some (.tuple labels.values),
                  transformIn := some labels }) with
              deviceClass := some "enum" }
      | none =>
          some (classed (.ofSensor
            { trait := spec, unit, stateClass := spec.stateClass, scale := spec.scale,
              precision := spec.suggestedDisplayPrecision.or
                (defaultPrecision spec.deviceClass spec.dataType) }))
  | .binarySensor =>
      some (classed (.binarySensor { trait := spec, autoClearSeconds := spec.autoClearSeconds }))
  | .event =>
      some (classed (.event
        { triggerTrait := spec,
          eventTypes := (spec.labels.map Dictionary.values).getD ["triggered"] }))
  | .select =>
      spec.labels.map fun labels =>
        plain (.select { attr, optionsMap := labels.entries.map Prod.swap })
  | .number =>
      some (classed (.ofNumber
        { attr, minValue := spec.minValue.getD 0, maxValue := spec.maxValue.getD 100,
          step := (nonzero spec.step).getD 1, unit, scale := spec.scale }))
  | .switch => some (classed (.switch { attr }))
  | .button => some (plain (.button attr "1"))

/-- Only a select needs data that a trait may lack, the labels of its options. -/
theorem buildDescriptor_eq_none_iff {spec : TraitSpec} {platform : Platform} :
    buildDescriptor spec platform = none ↔ platform = .select ∧ spec.labels = none := by
  cases platform with
  | sensor => cases found : spec.labels <;> simp [buildDescriptor, found]
  | select => cases found : spec.labels <;> simp [buildDescriptor, found]
  | binarySensor => simp [buildDescriptor]
  | switch => simp [buildDescriptor]
  | number => simp [buildDescriptor]
  | event => simp [buildDescriptor]
  | button => simp [buildDescriptor]

/-- The descriptor is keyed by the id of its trait and routed by it. -/
structure Stands (descriptor : AnyDescriptor) (spec : TraitSpec) : Prop where
  key_eq : descriptor.key = autoKey spec.id
  traitPaths_eq : descriptor.traitPaths = [spec.id]

/-- The platforms whose entities are written.  `build_descriptor` gives them an attribute, which it
names after the wire path of the trait, and the others the trait itself. -/
def Platform.settable : Platform → Bool
  | .switch | .number | .select | .button => true
  | .sensor | .binarySensor | .event => false

/-- What reports for the entity are routed by that `build_descriptor` makes of the trait. -/
def TraitSpec.routeOn (spec : TraitSpec) (platform : Platform) : String :=
  if platform.settable then spec.path else spec.id

/-- What a trait becomes: one descriptor, or a second one with a key of its own, all routed by the
same text. -/
structure Made (spec : TraitSpec) (route : String) (descriptors : List AnyDescriptor) : Prop where
  traitPaths_eq : ∀ descriptor ∈ descriptors, descriptor.traitPaths = [route]
  route_eq : route = spec.id ∨ route = spec.path
  keys_eq : descriptors.map (·.key) = [autoKey spec.path] ∨
    route = spec.id ∧ (descriptors.map (·.key) = [autoKey spec.id] ∨
      descriptors.map (·.key) = [autoKey spec.path, autoKey spec.id ++ "_binary"])

namespace Made

variable {spec : TraitSpec} {route : String} {descriptors : List AnyDescriptor}

theorem of_stands {descriptor : AnyDescriptor} (stands : Stands descriptor spec) :
    Made spec spec.id [descriptor] where
  traitPaths_eq := List.forall_mem_singleton.mpr stands.traitPaths_eq
  route_eq := Or.inl rfl
  keys_eq := Or.inr ⟨rfl, Or.inl (by simp [stands.key_eq])⟩

theorem key_mem (made : Made spec route descriptors) {descriptor : AnyDescriptor}
    (member : descriptor ∈ descriptors) :
    descriptor.key ∈ keysOf spec.id ∨ descriptor.key ∈ keysOf spec.path := by
  have key := List.mem_map_of_mem (f := AnyDescriptor.key) member
  rcases made.keys_eq with keys | ⟨-, keys | keys⟩
  · rw [keys, List.mem_singleton] at key
    exact Or.inr (by simp [keysOf, key])
  · rw [keys, List.mem_singleton] at key
    exact Or.inl (by simp [keysOf, key])
  · rw [keys, List.mem_pair] at key
    rcases key with first | second
    · exact Or.inr (by simp [keysOf, first])
    · exact Or.inl (by simp [keysOf, second])

/-- The keys of what is routed by the wire path come from the wire path. -/
theorem keys_eq_of_path (made : Made spec route descriptors) (routed : route = spec.path) :
    descriptors.map (·.key) = [autoKey spec.path] ∨
      descriptors.map (·.key) = [autoKey spec.path, autoKey spec.path ++ "_binary"] := by
  rcases made.keys_eq with keys | ⟨own, keys | keys⟩
  · exact Or.inl keys
  · exact Or.inl (by rw [keys, ← own, routed])
  · exact Or.inr (by rw [keys, ← own, routed])

/-- Some descriptor of the trait stands for its wire path exactly when all are routed by it. -/
theorem path_mem_iff (made : Made spec route descriptors) :
    (∃ descriptor ∈ descriptors, spec.path ∈ descriptor.traitPaths) ↔ route = spec.path := by
  constructor
  · rintro ⟨descriptor, member, path⟩
    rw [made.traitPaths_eq descriptor member, List.mem_singleton] at path
    exact path.symm
  · intro routed
    have some : descriptors ≠ [] := by
      rintro rfl
      rcases made.keys_eq with keys | ⟨-, keys | keys⟩ <;> cases keys
    obtain ⟨descriptor, member⟩ := List.exists_mem_of_ne_nil _ some
    refine ⟨descriptor, member, ?_⟩
    rw [made.traitPaths_eq descriptor member, routed]
    exact List.mem_singleton_self _

end Made

theorem buildDescriptor_spec {spec : TraitSpec} {platform : Platform} {descriptor : AnyDescriptor}
    (built : buildDescriptor spec platform = some descriptor) :
    descriptor.key = autoKey spec.path ∧ descriptor.traitPaths = [spec.routeOn platform] ∧
      descriptor.hashable := by
  cases platform with
  | sensor =>
      rw [buildDescriptor] at built
      split at built
      · cases built
        exact ⟨rfl, rfl, rfl⟩
      · cases built
        exact ⟨rfl, rfl, rfl⟩
  | select =>
      obtain ⟨labels, -, rfl⟩ := Option.map_eq_some_iff.mp built
      exact ⟨rfl, rfl, rfl⟩
  | binarySensor => cases built; exact ⟨rfl, rfl, rfl⟩
  | event => cases built; exact ⟨rfl, rfl, rfl⟩
  | switch => cases built; exact ⟨rfl, rfl, rfl⟩
  | number => cases built; exact ⟨rfl, rfl, rfl⟩
  | button => cases built; exact ⟨rfl, rfl, rfl⟩

theorem made_of_buildDescriptor {spec : TraitSpec} {platform : Platform}
    {descriptor : AnyDescriptor} (built : buildDescriptor spec platform = some descriptor) :
    Made spec (spec.routeOn platform) [descriptor] where
  traitPaths_eq := List.forall_mem_singleton.mpr (buildDescriptor_spec built).2.1
  route_eq := by
    rw [TraitSpec.routeOn]
    split
    · exact Or.inr rfl
    · exact Or.inl rfl
  keys_eq := Or.inl (by simp [(buildDescriptor_spec built).1])

/-! ## The traits of an endpoint -/

/-- The id and the wire path of a trait are dotted numbers; they need not be the same. -/
structure Numbered (spec : TraitSpec) : Prop where
  id : Dotted spec.id
  path : Dotted spec.path
  idEndpoint : ShortEndpoint spec.id
  pathEndpoint : ShortEndpoint spec.path

/-- The traits of an endpoint, by their ids, which are dotted numbers and their wire paths. -/
structure Kept (specs : List TraitSpec) : Prop where
  nodup : (specs.map (·.id)).Nodup
  dotted : ∀ spec ∈ specs, Dotted spec.id
  path_eq : ∀ spec ∈ specs, spec.path = spec.id

theorem Kept.sublist {specs kept : List TraitSpec} (known : Kept specs)
    (part : kept.Sublist specs) : Kept kept where
  nodup := known.nodup.sublist (part.map _)
  dotted spec member := known.dotted spec (part.subset member)
  path_eq spec member := known.path_eq spec (part.subset member)

theorem Kept.eq_of_id {specs : List TraitSpec} (known : Kept specs) {left right : TraitSpec}
    (leftMember : left ∈ specs) (rightMember : right ∈ specs) (same : left.id = right.id) :
    left = right :=
  List.inj_on_of_nodup_map known.nodup leftMember rightMember same

/-- The descriptor is keyed by one of the traits, and stands for ids and wire paths of them. -/
structure Sourced (specs : List TraitSpec) (descriptor : AnyDescriptor) : Prop where
  key : ∃ spec ∈ specs, descriptor.key ∈ keysOf spec.id ∨ descriptor.key ∈ keysOf spec.path
  paths : ∀ path ∈ descriptor.traitPaths, ∃ spec ∈ specs, path = spec.id ∨ path = spec.path

namespace Sourced

variable {specs more : List TraitSpec} {spec : TraitSpec} {descriptor : AnyDescriptor}

theorem mono (sourced : Sourced specs descriptor) (subset : specs ⊆ more) :
    Sourced more descriptor where
  key :=
    let ⟨spec, member, keyed⟩ := sourced.key
    ⟨spec, subset member, keyed⟩
  paths path exposed :=
    let ⟨spec, member, same⟩ := sourced.paths path exposed
    ⟨spec, subset member, same⟩

theorem of_made {route : String} {descriptors : List AnyDescriptor}
    (made : Made spec route descriptors) (member : descriptor ∈ descriptors)
    (known : spec ∈ specs) : Sourced specs descriptor where
  key := ⟨spec, known, made.key_mem member⟩
  paths path exposed := by
    rw [made.traitPaths_eq descriptor member, List.mem_singleton] at exposed
    exact ⟨spec, known, exposed ▸ made.route_eq⟩

/-- Where ids are wire paths, the descriptor stands for ids. -/
theorem exists_id (sourced : Sourced specs descriptor) (kept : Kept specs) {path : String}
    (exposed : path ∈ descriptor.traitPaths) : ∃ spec ∈ specs, path = spec.id := by
  obtain ⟨spec, known, same | same⟩ := sourced.paths path exposed
  · exact ⟨spec, known, same⟩
  · exact ⟨spec, known, same.trans (kept.path_eq spec known)⟩

end Sourced

/-! ## The fallback -/

/-- `BUTTON_TRAITS`. -/
def buttonTraits : List ((Option String × Option String) × String) := []

/-- The platform that `_descriptor_for_trait` infers. -/
def inferredPlatform (spec : TraitSpec) : Platform :=
  if (buttonTraits.lookup (spec.functionCode, spec.traitCode)).isSome then .button
  else if spec.dataType = "bool" then
    if spec.writable then .switch else .binarySensor
  else if spec.dataType = "int" ∨ spec.dataType = "float" then
    if spec.writable ∧ spec.minValue.isSome ∧ spec.maxValue.isSome then .number else .sensor
  else if spec.dataType = "enum" then
    if spec.writable ∧ spec.labels.isSome then .select else .sensor
  else .sensor

/-- `replace(desc, press_value=...)` on a button. -/
def AnyDescriptor.withPressValue (descriptor : AnyDescriptor) (pressValue : String) :
    AnyDescriptor :=
  match descriptor.binding with
  | .button attr _ => { descriptor with binding := .button attr pressValue }
  | _ => descriptor

/-- `_descriptor_for_trait`. -/
def descriptorForTrait (spec : TraitSpec) : Option AnyDescriptor :=
  match buttonTraits.lookup (spec.functionCode, spec.traitCode) with
  | some pressValue =>
      (buildDescriptor spec (inferredPlatform spec)).map (·.withPressValue pressValue)
  | none => buildDescriptor spec (inferredPlatform spec)

/-- A composer: the traits of an endpoint become its descriptors. -/
abbrev Composer := List TraitSpec → List AnyDescriptor

/-- `_fallback.compose`. -/
def fallback : Composer := fun specs => specs.filterMap descriptorForTrait

/-- The fallback makes one descriptor of every trait. -/
theorem descriptorForTrait_spec (spec : TraitSpec) :
    ∃ descriptor, descriptorForTrait spec = some descriptor ∧
      Made spec (spec.routeOn (inferredPlatform spec)) [descriptor] ∧ descriptor.hashable := by
  have there : buildDescriptor spec (inferredPlatform spec) ≠ none := by
    rw [Ne, buildDescriptor_eq_none_iff]
    rintro ⟨select, unlabelled⟩
    simp [inferredPlatform, buttonTraits, unlabelled] at select
    grind
  obtain ⟨descriptor, built⟩ := Option.ne_none_iff_exists'.mp there
  exact ⟨descriptor, built, made_of_buildDescriptor built, (buildDescriptor_spec built).2.2⟩

/-- What the fallback makes of a trait. -/
theorem made_fallback (spec : TraitSpec) :
    Made spec (spec.routeOn (inferredPlatform spec)) (descriptorForTrait spec).toList ∧
      ∀ descriptor ∈ (descriptorForTrait spec).toList, descriptor.hashable := by
  obtain ⟨descriptor, built, made, hashable⟩ := descriptorForTrait_spec spec
  rw [built]
  exact ⟨made, List.forall_mem_singleton.mpr hashable⟩

theorem fallback_eq_flatMap (specs : List TraitSpec) :
    fallback specs = specs.flatMap fun spec => (descriptorForTrait spec).toList :=
  List.filterMap_eq_flatMap_toList _ _

/-! ## Composers that take each trait by itself -/

/-- What a composer does with the traits that it takes itself. -/
structure Branch where
  /-- The descriptors of a trait, unless it is left to the fallback. -/
  own : TraitSpec → Option (List AnyDescriptor)
  /-- The traits whose descriptors are not all hashable. -/
  unhashable : TraitSpec → Prop
  made : ∀ spec descriptors, own spec = some descriptors → Made spec spec.id descriptors
  hashable_iff : ∀ spec descriptors, own spec = some descriptors →
    ((∀ descriptor ∈ descriptors, descriptor.hashable) ↔ ¬ unhashable spec)
  own_ne_none : ∀ spec, unhashable spec → own spec ≠ none

namespace Branch

variable {branch : Branch} {specs : List TraitSpec}

/-- A branch that makes one descriptor of each of its traits. -/
def ofListing (pick : TraitSpec → Option AnyDescriptor) (unhashable : TraitSpec → Prop)
    (faithful : ∀ spec descriptor, pick spec = some descriptor →
      Stands descriptor spec ∧ (descriptor.hashable ↔ ¬ unhashable spec))
    (taken : ∀ spec, unhashable spec → pick spec ≠ none) : Branch where
  own spec := (pick spec).map fun descriptor => [descriptor]
  unhashable
  made spec descriptors owned := by
    obtain ⟨descriptor, picked, rfl⟩ := Option.map_eq_some_iff.mp owned
    exact .of_stands (faithful spec descriptor picked).1
  hashable_iff spec descriptors owned := by
    obtain ⟨descriptor, picked, rfl⟩ := Option.map_eq_some_iff.mp owned
    rw [List.forall_mem_singleton]
    exact (faithful spec descriptor picked).2
  own_ne_none spec bad := by
    rw [Ne, Option.map_eq_none_iff]
    exact taken spec bad

/-- A branch that makes one hashable descriptor of each of its traits. -/
def ofPick (pick : TraitSpec → Option AnyDescriptor)
    (faithful : ∀ spec descriptor, pick spec = some descriptor →
      Stands descriptor spec ∧ descriptor.hashable) : Branch :=
  ofListing pick (fun _ => False)
    (fun spec descriptor picked =>
      ⟨(faithful spec descriptor picked).1, by simpa using (faithful spec descriptor picked).2⟩)
    fun _ impossible => impossible.elim

/-- `make_single_trait_composer`, up to its loop. -/
def singleTrait (functionCode traitCode : String) (descriptorFactory : TraitSpec → AnyDescriptor)
    (faithful : ∀ spec, Stands (descriptorFactory spec) spec ∧ (descriptorFactory spec).hashable) :
    Branch :=
  ofPick
    (fun spec =>
      if spec.HasCodes functionCode traitCode then some (descriptorFactory spec) else none)
    fun spec descriptor picked => by
      split at picked
      · exact Option.some.inj picked ▸ faithful spec
      · cases picked

/-- The loop that the composers share: each trait goes to the composer's own branch or is left, and
those that are left go to the fallback. -/
def compose (branch : Branch) : Composer := fun specs =>
  (specs.filterMap branch.own).flatten ++ fallback (specs.filter fun spec => branch.own spec = none)

/-- What a trait becomes: the branch's own, or what the fallback makes of it. -/
def become (branch : Branch) (spec : TraitSpec) : List AnyDescriptor :=
  (branch.own spec).getD (descriptorForTrait spec).toList

/-- The loop works off the traits one by one, its own before the others. -/
theorem perm_compose (branch : Branch) (specs : List TraitSpec) :
    (branch.compose specs).Perm (specs.flatMap branch.become) := by
  have own : (specs.filterMap branch.own).flatten =
      (specs.filter fun spec => branch.own spec ≠ none).flatMap branch.become := by
    induction specs with
    | nil => rfl
    | cons spec specs induction =>
        cases owned : branch.own spec with
        | none => simpa [owned] using induction
        | some descriptors => simpa [owned, become] using induction
  have left : fallback (specs.filter fun spec => branch.own spec = none) =
      (specs.filter fun spec => !decide (branch.own spec ≠ none)).flatMap branch.become := by
    rw [fallback_eq_flatMap]
    simp only [ne_eq, decide_not, Bool.not_not]
    refine List.flatMap_congr fun spec member => ?_
    have free := of_decide_eq_true (List.mem_filter.mp member).2
    rw [become, free, Option.getD_none]
  rw [compose, own, left]
  exact perm_flatMap_filter _ _ _

end Branch

end Reference
end AqaraLanLink
