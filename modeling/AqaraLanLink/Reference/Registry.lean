import AqaraLanLink.Library.Dictionary
import AqaraLanLink.Library.Runs
import Mathlib.Data.Int.Notation
import Mathlib.Logic.Function.Basic

/-!
# Discovery of the model packages

`device/registry.py`: the pass that imports every package under `device/models/`, checks what it
declares and fills the tables that are read by model.  What importing a package does is an input:
the classes it registers, and its attributes unless it raises.
-/

namespace AqaraLanLink
namespace Reference
namespace Registry

open Library

/-! ## Packages -/

/-- A subclass of `Device`. -/
structure OverrideClass where
  name : String
  /-- `__module__`. -/
  moduleName : String
  deriving DecidableEq, Repr

/-- What `_validate_models` and `_populate_model_indices` complain about, with what they name. -/
inductive Fault where
  | emptyPackage
  | withoutModels (offenders : List String)
  | emptyModels
  | duplicateModel (model : String)
  | claimedModel (model : String)
  | foreignModel (override : OverrideClass) (model : String)
  | foreignWhitelabel (key : String)
  | allowNoiseTraits (typeName : String)
  | allowUnauthoredTraits (typeName : String)
  | unauthoredEntry (entry : String)
  deriving DecidableEq, Repr

/-- What is raised. -/
inductive Raised where
  | runtimeError (package : String) (fault : Fault)
  /-- What `tuple`, `dict` or `frozenset` raises on an attribute. -/
  | conversion (error : String)
  deriving DecidableEq, Repr

/-- The raising step is one of those that fill the tables of `Copied`. -/
def Raised.IsConversion : Raised → Prop
  | runtimeError _ _ => False
  | conversion _ => True

/-- `ALLOW_NOISE_TRAITS`, the empty tuple where it is missing. -/
inductive NoiseTraits where
  | ints (traits : List ℤ)
  /-- No iterable of integers. -/
  | unusable (typeName : String)
  deriving DecidableEq, Repr

/-- `ALLOW_UNAUTHORED_TRAITS`. -/
inductive UnauthoredTraits where
  | missing
  /-- The entries, those that are no integers by their text. -/
  | tuple (entries : List (Except String ℤ))
  | other (typeName : String)

/-- The attributes that are copied for each model, in the order in which they are. -/
inductive Copied where
  | endpoints
  | deviceTypes
  | capabilities
  | droppedPaths
  | droppedRids
  | settings
  | composites
  | powerClass
  deriving DecidableEq, Repr

def Copied.all : List Copied :=
  [endpoints, deviceTypes, capabilities, droppedPaths, droppedRids, settings, composites,
    powerClass]

variable {Spec Value : Type}

/-- The attributes of a package that was imported. -/
structure Attributes (Spec Value : Type) where
  /-- A subclass of `Device` is defined in the package. -/
  hasOverrideClass : Bool
  models : Option (List String)
  traits : Option (Dictionary String Spec)
  whitelabels : Option (Dictionary String String)
  manufacturer : String
  displayName : Option String
  allowNoiseTraits : NoiseTraits
  allowUnauthoredTraits : UnauthoredTraits
  /-- What the conversion of an attribute gives. -/
  copied : Copied → Option (Except String Value)

/-- A module of the directory. -/
structure Module (Spec Value : Type) where
  name : String
  /-- What importing it adds to `_BY_MODEL`. -/
  registered : List (String × OverrideClass)
  /-- Missing when importing it raises. -/
  attributes : Option (Attributes Spec Value)

/-- The package that is indexed, unless the module is private or raises. -/
def Module.package? (module : Module Spec Value) : Option (Attributes Spec Value) :=
  if module.name.startsWith "_" then none else module.attributes

/-- `full_name`. -/
def Module.fullName (module : Module Spec Value) : String :=
  "custom_components.aqara_lanlink.device.models." ++ module.name

/-! ## Tables -/

structure DisplayMetadata where
  manufacturer : String
  displayName : String
  deriving DecidableEq, Repr

/-- The tables. -/
structure Indices (Spec Value : Type) where
  traitIndex : Dictionary (String × String) Spec
  traitsByModel : Dictionary String (Dictionary String Spec)
  displayIndex : Dictionary String DisplayMetadata
  allowUnauthoredIndex : Dictionary String (List ℤ)
  noiseOverrideIndex : Dictionary String (List ℤ)
  /-- `_ENDPOINTS_INDEX` and the seven that are filled like it. -/
  copied : Copied → Dictionary String Value

/-- The module-level state. -/
structure State (Spec Value : Type) where
  byModel : Dictionary String OverrideClass
  discovered : Bool
  indices : Indices Spec Value

/-- The tables of a fresh process. -/
def Indices.empty : Indices Spec Value := ⟨.empty, .empty, .empty, .empty, .empty, fun _ => .empty⟩

/-- A fresh process. -/
def State.fresh : State Spec Value := ⟨.empty, false, .empty⟩

/-- One value for several models. -/
def putAll {α : Type} (index : Dictionary String α) (models : List String) (value : α) :
    Dictionary String α :=
  models.foldl (fun index model => index.set model value) index

/-- `_put_trait`. -/
def Indices.putTrait (indices : Indices Spec Value) (model traitId : String) (spec : Spec) :
    Indices Spec Value :=
  { indices with
    traitIndex := indices.traitIndex.set (model, traitId) spec
    traitsByModel := indices.traitsByModel.set model
      (((indices.traitsByModel.get? model).getD .empty).set traitId spec) }

/-- One attribute for several models. -/
def Indices.copy (indices : Indices Spec Value) (index : Copied) (models : List String)
    (value : Value) : Indices Spec Value :=
  { indices with
    copied := Function.update indices.copied index (putAll (indices.copied index) models value) }

/-! ## Validation -/

/-- The first entry that stood earlier. -/
def firstDuplicate : List String → List String → Option String
  | _, [] => none
  | seen, model :: models =>
      if model ∈ seen then some model else firstDuplicate (model :: seen) models

/-- A class of the package that is registered for a model that the package does not declare. -/
def foreignEntry (byModel : Dictionary String OverrideClass) (package : String)
    (models : List String) : Option (String × OverrideClass) :=
  byModel.entries.find? fun entry => entry.2.moduleName = package ∧ entry.1 ∉ models

/-- `_validate_models`. -/
def validateModels (byModel : Dictionary String OverrideClass)
    (displayIndex : Dictionary String DisplayMetadata) (package : String)
    (attributes : Attributes Spec Value) : Except Raised (Option (List String)) :=
  let fail (fault : Fault) : Except Raised (Option (List String)) :=
    .error (.runtimeError package fault)
  let hasData := attributes.models.isSome ∨ attributes.traits.isSome ∨ attributes.whitelabels.isSome
  if ¬ attributes.hasOverrideClass ∧ ¬ hasData then fail .emptyPackage
  else
    match attributes.models with
    | none =>
        if attributes.traits.isSome ∨ attributes.whitelabels.isSome then
          fail (.withoutModels
            ((if attributes.traits.isSome then ["TRAITS"] else []) ++
              if attributes.whitelabels.isSome then ["WHITELABELS"] else []))
        else .ok none
    | some models =>
        if models = [] then fail .emptyModels
        else match firstDuplicate [] models with
        | some model => fail (.duplicateModel model)
        | none =>
            match models.find? fun model => (displayIndex.get? model).isSome with
            | some model => fail (.claimedModel model)
            | none =>
                match if attributes.hasOverrideClass then foreignEntry byModel package models
                    else none with
                | some entry => fail (.foreignModel entry.2 entry.1)
                | none =>
                    match ((attributes.whitelabels.map Dictionary.keys).getD []).find? fun key =>
                        key ∉ models with
                    | some key => fail (.foreignWhitelabel key)
                    | none => .ok (some models)

/-! ## The pass -/

/-- `_populate_display`. -/
def populateDisplay (name : String) (attributes : Attributes Spec Value) (models : List String)
    (displayIndex : Dictionary String DisplayMetadata) : Dictionary String DisplayMetadata :=
  -- The package's name is the last part of its full name.
  let displayName := match attributes.displayName with
    | some text => if text = "" then name else text
    | none => name
  models.foldl
    (fun displayIndex model =>
      let whitelabel := attributes.whitelabels.bind fun labels => labels.get? model
      displayIndex.set model ⟨attributes.manufacturer, whitelabel.getD displayName⟩)
    displayIndex

/-- The tables of `Copied`, one after the other, and what is raised on the way. -/
def copyAll (attributes : Attributes Spec Value) (models : List String) :
    List Copied → Indices Spec Value → Indices Spec Value × Option Raised
  | [], indices => (indices, none)
  | index :: rest, indices =>
      match attributes.copied index with
      | none => copyAll attributes models rest indices
      | some (.error error) => (indices, some (.conversion error))
      | some (.ok value) => copyAll attributes models rest (indices.copy index models value)

/-- `TRAITS` of a package, for each of its models. -/
def putTraits (attributes : Attributes Spec Value) (models : List String)
    (indices : Indices Spec Value) : Indices Spec Value :=
  ((attributes.traits.map Dictionary.entries).getD []).foldl
    (fun indices entry =>
      models.foldl (fun indices model => indices.putTrait model entry.1 entry.2) indices)
    indices

/-- `_populate_model_indices`: the tables it leaves, and what it raises. -/
def populateModelIndices (package : String) (attributes : Attributes Spec Value)
    (models : List String) (indices : Indices Spec Value) : Indices Spec Value × Option Raised :=
  match attributes.allowNoiseTraits with
  | .unusable typeName => (indices, some (.runtimeError package (.allowNoiseTraits typeName)))
  | .ints noise =>
      let indices := { indices with
        noiseOverrideIndex := putAll indices.noiseOverrideIndex models noise }
      let indices := putTraits attributes models indices
      let allow (entries : List ℤ) : Indices Spec Value := { indices with
        allowUnauthoredIndex := putAll indices.allowUnauthoredIndex models entries }
      match attributes.allowUnauthoredTraits with
      | .other typeName =>
          (indices, some (.runtimeError package (.allowUnauthoredTraits typeName)))
      | .tuple entries =>
          match entries.mapM id with
          | .error entry => (indices, some (.runtimeError package (.unauthoredEntry entry)))
          | .ok entries => copyAll attributes models Copied.all (allow entries)
      | .missing => copyAll attributes models Copied.all (allow [])

/-- `_index_package`: the tables it leaves, and what it raises. -/
def indexPackage (byModel : Dictionary String OverrideClass) (name package : String)
    (attributes : Attributes Spec Value) (indices : Indices Spec Value) :
    Indices Spec Value × Option Raised :=
  match validateModels byModel indices.displayIndex package attributes with
  | .error raised => (indices, some raised)
  | .ok none => (indices, none)
  | .ok (some models) =>
      populateModelIndices package attributes models { indices with
        displayIndex := populateDisplay name attributes models indices.displayIndex }

/-- What importing a module leaves in `_BY_MODEL`; a private one is not imported. -/
def register (module : Module Spec Value) (byModel : Dictionary String OverrideClass) :
    Dictionary String OverrideClass :=
  if module.name.startsWith "_" then byModel
  else module.registered.foldl (fun byModel entry => byModel.set entry.1 entry.2) byModel

/-- The loop of `_ensure_discovered`: the state it leaves, and what it raises. -/
def discoverAll : List (Module Spec Value) → State Spec Value → State Spec Value × Option Raised
  | [], state => (state, none)
  | module :: modules, state =>
      let byModel := register module state.byModel
      match module.package? with
      | none => discoverAll modules { state with byModel }
      | some attributes =>
          let left := indexPackage byModel module.name module.fullName attributes state.indices
          match left.2 with
          | none => discoverAll modules { state with byModel, indices := left.1 }
          | some raised => ({ state with byModel, indices := left.1 }, some raised)

/-- The tables that are cleared when something was raised. -/
def Indices.clear (indices : Indices Spec Value) : Indices Spec Value :=
  { indices with
    traitIndex := .empty
    traitsByModel := .empty
    displayIndex := .empty
    allowUnauthoredIndex := .empty
    noiseOverrideIndex := .empty }

/-- `_ensure_discovered`, which lists no modules where the package of the models is missing. -/
def ensureDiscovered (listing : Option (List (Module Spec Value))) (state : State Spec Value) :
    State Spec Value × Option Raised :=
  if state.discovered then (state, none)
  else
    match listing with
    | none => ({ state with discovered := true }, none)
    | some modules =>
        let left := discoverAll modules state
        match left.2 with
        | none => ({ left.1 with discovered := true }, none)
        | some raised => ({ left.1 with indices := left.1.indices.clear }, some raised)

/-! ## What a package fills -/

/-- The tables that are filled before a conversion raises. -/
def copiesOf (attributes : Attributes Spec Value) : List Copied → List (Copied × Value)
  | [] => []
  | index :: rest =>
      match attributes.copied index with
      | none => copiesOf attributes rest
      | some (.error _) => []
      | some (.ok value) => (index, value) :: copiesOf attributes rest

/-- The values a package copies for each of its models. -/
def Attributes.copies (attributes : Attributes Spec Value) : List (Copied × Value) :=
  copiesOf attributes Copied.all

/-- Copies for several models. -/
def fill (models : List String) (copies : List (Copied × Value)) (indices : Indices Spec Value) :
    Indices Spec Value :=
  copies.foldl (fun indices copy => indices.copy copy.1 models copy.2) indices

variable {attributes : Attributes Spec Value} {models : List String}
  {indices : Indices Spec Value} {model : String} {value : Value}

theorem copyAll_eq (attributes : Attributes Spec Value) (models : List String)
    (order : List Copied) (indices : Indices Spec Value) :
    (copyAll attributes models order indices).1 =
        fill models (copiesOf attributes order) indices ∧
      ∀ raised, (copyAll attributes models order indices).2 = some raised →
        raised.IsConversion := by
  induction order generalizing indices with
  | nil =>
      refine ⟨rfl, fun raised some => ?_⟩
      cases some
  | cons index rest induction =>
      rw [copyAll, copiesOf]
      cases attributes.copied index with
      | none => exact induction indices
      | some outcome =>
          cases outcome with
          | error error =>
              refine ⟨rfl, fun raised some => ?_⟩
              rw [← Option.some.inj some]
              exact trivial
          | ok value => exact induction (indices.copy index models value)

theorem get?_putAll {α : Type} {index : Dictionary String α} {value : α} :
    (putAll index models value).get? model =
      if model ∈ models then some value else index.get? model := by
  rw [putAll]
  induction models generalizing index with
  | nil => rfl
  | cons first models induction =>
      rw [List.foldl_cons, induction, Dictionary.get?_set]
      by_cases rest : model ∈ models
      · rw [if_pos rest, if_pos (List.mem_cons_of_mem first rest)]
      · by_cases here : model = first
        · rw [if_neg rest, if_pos here, if_pos (here ▸ List.mem_cons_self)]
        · rw [if_neg rest, if_neg here, if_neg (by simp [rest, here])]

/-- A value that every model has already is put without a change. -/
theorem putAll_of_held {α : Type} {index : Dictionary String α} {value : α}
    (held : ∀ model ∈ models, index.get? model = some value) :
    putAll index models value = index := by
  rw [putAll]
  induction models with
  | nil => rfl
  | cons first models induction =>
      rw [List.foldl_cons, Dictionary.set_of_get? (held first List.mem_cons_self)]
      exact induction fun model member => held model (List.mem_cons_of_mem first member)

theorem copied_copy (index other : Copied) :
    (indices.copy index models value).copied other =
      if other = index then putAll (indices.copied index) models value
      else indices.copied other :=
  Function.update_apply indices.copied index _ other

theorem displayIndex_fill (copies : List (Copied × Value)) :
    (fill models copies indices).displayIndex = indices.displayIndex := by
  induction copies generalizing indices with
  | nil => rfl
  | cons copy copies induction => exact induction

/-- Other models keep what they have. -/
theorem get?_fill_of_not_mem {copies : List (Copied × Value)} (other : model ∉ models)
    (index : Copied) :
    ((fill models copies indices).copied index).get? model =
      (indices.copied index).get? model := by
  induction copies generalizing indices with
  | nil => rfl
  | cons copy copies induction =>
      rw [fill, List.foldl_cons, ← fill, induction, copied_copy]
      split
      · next same => rw [get?_putAll, if_neg other, same]
      · rfl

/-- Tables that are not among the copies stay as they are. -/
theorem copied_fill_of_not_mem {copies : List (Copied × Value)} {index : Copied}
    (absent : index ∉ copies.map Prod.fst) :
    (fill models copies indices).copied index = indices.copied index := by
  induction copies generalizing indices with
  | nil => rfl
  | cons copy copies induction =>
      rw [List.map_cons, List.mem_cons, not_or] at absent
      rw [fill, List.foldl_cons, ← fill, induction absent.2, copied_copy, if_neg absent.1]

/-- A filled table has the value that was copied. -/
theorem get?_fill_of_mem {copies : List (Copied × Value)} {index : Copied}
    (nodup : (copies.map Prod.fst).Nodup) (copied : (index, value) ∈ copies)
    (member : model ∈ models) :
    ((fill models copies indices).copied index).get? model = some value := by
  induction copies generalizing indices with
  | nil => exact absurd copied List.not_mem_nil
  | cons copy copies induction =>
      rw [List.map_cons, List.nodup_cons] at nodup
      rw [fill, List.foldl_cons, ← fill]
      rcases List.mem_cons.mp copied with here | later
      · rw [← here] at nodup ⊢
        rw [copied_fill_of_not_mem nodup.1, copied_copy, if_pos rfl, get?_putAll, if_pos member]
      · exact induction nodup.2 later

/-- Values that are held already are filled in without a change. -/
theorem copied_fill_of_held {copies : List (Copied × Value)}
    (held : ∀ copy ∈ copies, ∀ model ∈ models,
      (indices.copied copy.1).get? model = some copy.2) :
    (fill models copies indices).copied = indices.copied := by
  induction copies generalizing indices with
  | nil => rfl
  | cons copy copies induction =>
      have first : (indices.copy copy.1 models copy.2).copied = indices.copied := by
        rw [Indices.copy, putAll_of_held (held copy List.mem_cons_self), Function.update_eq_self]
      rw [fill, List.foldl_cons, ← fill, induction, first]
      intro later member
      rw [first]
      exact held later (List.mem_cons_of_mem copy member)

theorem nodup_copies (attributes : Attributes Spec Value) :
    (attributes.copies.map Prod.fst).Nodup := by
  have inside (order : List Copied) :
      ((copiesOf attributes order).map Prod.fst).Sublist order := by
    induction order with
    | nil => exact List.Sublist.slnil
    | cons index rest induction =>
        rw [copiesOf]
        cases attributes.copied index with
        | none => exact induction.cons index
        | some outcome =>
            cases outcome with
            | error error => exact List.nil_sublist _
            | ok value => exact induction.cons_cons index
  have all : Copied.all.Nodup := by decide
  exact all.sublist (inside Copied.all)

/-! ## One package -/

theorem copied_putTraits (attributes : Attributes Spec Value) (models : List String)
    (indices : Indices Spec Value) :
    (putTraits attributes models indices).copied = indices.copied ∧
      (putTraits attributes models indices).displayIndex = indices.displayIndex := by
  have one (entry : String × Spec) (indices : Indices Spec Value) :
      (models.foldl (fun indices model => indices.putTrait model entry.1 entry.2) indices).copied =
          indices.copied ∧
        (models.foldl (fun indices model =>
          indices.putTrait model entry.1 entry.2) indices).displayIndex =
          indices.displayIndex := by
    induction models generalizing indices with
    | nil => exact ⟨rfl, rfl⟩
    | cons model models induction => exact induction (indices.putTrait model entry.1 entry.2)
  rw [putTraits]
  induction (attributes.traits.map Dictionary.entries).getD [] generalizing indices with
  | nil => exact ⟨rfl, rfl⟩
  | cons entry entries induction =>
      obtain ⟨copied, displayed⟩ := induction (models.foldl (fun indices model =>
        indices.putTrait model entry.1 entry.2) indices)
      obtain ⟨copied', displayed'⟩ := one entry indices
      exact ⟨copied.trans copied', displayed.trans displayed'⟩

/-- A table has entries for all the models it had them for. -/
def Grows {α : Type} (before after : Dictionary String α) : Prop :=
  ∀ model, (before.get? model).isSome → (after.get? model).isSome

theorem grows_set {α : Type} (index : Dictionary String α) (model : String) (value : α) :
    Grows index (index.set model value) := by
  intro other has
  rw [Dictionary.get?_set]
  split
  · rfl
  · exact has

theorem populateDisplay_spec (name : String) (attributes : Attributes Spec Value)
    (models : List String) (displayIndex : Dictionary String DisplayMetadata) :
    Grows displayIndex (populateDisplay name attributes models displayIndex) ∧
      ∀ model ∈ models,
        ((populateDisplay name attributes models displayIndex).get? model).isSome := by
  rw [populateDisplay]
  induction models generalizing displayIndex with
  | nil => exact ⟨fun _ has => has, fun _ member => absurd member List.not_mem_nil⟩
  | cons first models induction =>
      rw [List.foldl_cons]
      obtain ⟨grows, named⟩ := induction (displayIndex.set first ⟨attributes.manufacturer, _⟩)
      refine ⟨fun model has => grows model (grows_set _ _ _ model has), fun model member => ?_⟩
      rcases List.mem_cons.mp member with here | later
      · refine grows model ?_
        rw [Dictionary.get?_set, if_pos here]
        rfl
      · exact named model later

/-- What indexing a package does to the tables of `Copied`: nothing, or it fills them for its
models, none of which was indexed before. -/
inductive Indexed (attributes : Attributes Spec Value) (before after : Indices Spec Value) :
    Option Raised → Prop
  | skipped {raised : Option Raised} (copied : after.copied = before.copied)
      (displayed : Grows before.displayIndex after.displayIndex)
      (complete : raised = none → attributes.models = none)
      (early : ∀ error, raised = some error → ¬ error.IsConversion) :
      Indexed attributes before after raised
  | filled {raised : Option Raised} (models : List String)
      (declared : attributes.models = some models)
      (fresh : ∀ model ∈ models, before.displayIndex.get? model = none)
      (copied : after.copied = (fill models attributes.copies before).copied)
      (displayed : Grows before.displayIndex after.displayIndex)
      (named : ∀ model ∈ models, (after.displayIndex.get? model).isSome)
      (late : ∀ error, raised = some error → error.IsConversion) :
      Indexed attributes before after raised

/-- What the validation says: the models, which are not indexed yet, or that there are none, or what
is wrong with them. -/
inductive Validated (displayIndex : Dictionary String DisplayMetadata)
    (attributes : Attributes Spec Value) : Except Raised (Option (List String)) → Prop
  | invalid (package : String) (fault : Fault) :
      Validated displayIndex attributes (.error (.runtimeError package fault))
  | undeclared (missing : attributes.models = none) : Validated displayIndex attributes (.ok none)
  | declared (models : List String) (stated : attributes.models = some models)
      (fresh : ∀ model ∈ models, displayIndex.get? model = none) :
      Validated displayIndex attributes (.ok (some models))

theorem validated_validateModels (byModel : Dictionary String OverrideClass)
    (displayIndex : Dictionary String DisplayMetadata) (package : String)
    (attributes : Attributes Spec Value) :
    Validated displayIndex attributes (validateModels byModel displayIndex package attributes) := by
  rw [validateModels]
  dsimp only
  split
  · exact .invalid _ _
  split
  · next undeclared =>
    split
    · exact .invalid _ _
    · exact .undeclared undeclared
  next models declared =>
  split
  · exact .invalid _ _
  split
  · exact .invalid _ _
  split
  · exact .invalid _ _
  next fresh =>
  split
  · exact .invalid _ _
  split
  · exact .invalid _ _
  refine .declared models declared fun model member => ?_
  have absent := List.find?_eq_none.mp fresh model member
  rwa [Bool.not_eq_true, Option.isSome_eq_false_iff, Option.isNone_iff_eq_none] at absent

theorem copied_fill_congr {copies : List (Copied × Value)} {left right : Indices Spec Value}
    (same : left.copied = right.copied) :
    (fill models copies left).copied = (fill models copies right).copied := by
  induction copies generalizing left right with
  | nil => exact same
  | cons copy copies induction =>
      refine induction ?_
      change Function.update left.copied copy.1 (putAll (left.copied copy.1) models copy.2) =
        Function.update right.copied copy.1 (putAll (right.copied copy.1) models copy.2)
      rw [same]

theorem indexed_populateModelIndices (package : String) {before entered : Indices Spec Value}
    (declared : attributes.models = some models)
    (fresh : ∀ model ∈ models, before.displayIndex.get? model = none)
    (copied : entered.copied = before.copied)
    (displayed : Grows before.displayIndex entered.displayIndex)
    (named : ∀ model ∈ models, (entered.displayIndex.get? model).isSome) :
    Indexed attributes before (populateModelIndices package attributes models entered).1
      (populateModelIndices package attributes models entered).2 := by
  -- A check of the two attributes that is not passed leaves the tables of `Copied` alone.
  have refused (after : Indices Spec Value) (fault : Fault) (same : after.copied = before.copied)
      (grows : Grows before.displayIndex after.displayIndex) :
      Indexed attributes before after (some (.runtimeError package fault)) := by
    refine .skipped same grows (fun absent => by cases absent) fun error same => ?_
    rw [← Option.some.inj same]
    exact id
  have filled (ready : Indices Spec Value) (same : ready.copied = before.copied)
      (shown : ready.displayIndex = entered.displayIndex) :
      Indexed attributes before (copyAll attributes models Copied.all ready).1
        (copyAll attributes models Copied.all ready).2 := by
    obtain ⟨left, late⟩ := copyAll_eq attributes models Copied.all ready
    rw [left, ← Attributes.copies]
    refine .filled models declared fresh (copied_fill_congr same) ?_ ?_ late
    · rwa [displayIndex_fill, shown]
    · rwa [displayIndex_fill, shown]
  rw [populateModelIndices]
  cases attributes.allowNoiseTraits with
  | unusable typeName => exact refused entered _ copied displayed
  | ints noise =>
      obtain ⟨same, shown⟩ := copied_putTraits attributes models { entered with
        noiseOverrideIndex := putAll entered.noiseOverrideIndex models noise }
      have grows : Grows before.displayIndex (putTraits attributes models { entered with
          noiseOverrideIndex := putAll entered.noiseOverrideIndex models noise }).displayIndex := by
        rw [shown]
        exact displayed
      dsimp only
      cases attributes.allowUnauthoredTraits with
      | missing => exact filled _ (same.trans copied) shown
      | other typeName => exact refused _ _ (same.trans copied) grows
      | tuple entries =>
          dsimp only
          cases read : entries.mapM id with
          | error entry => exact refused _ _ (same.trans copied) grows
          | ok entries => exact filled _ (same.trans copied) shown

theorem indexed_indexPackage (byModel : Dictionary String OverrideClass) (name package : String)
    (attributes : Attributes Spec Value) (indices : Indices Spec Value) :
    Indexed attributes indices (indexPackage byModel name package attributes indices).1
      (indexPackage byModel name package attributes indices).2 := by
  have validated := validated_validateModels byModel indices.displayIndex package attributes
  rw [indexPackage]
  generalize validateModels byModel indices.displayIndex package attributes = result at validated
  cases validated with
  | invalid package fault =>
      refine .skipped rfl (fun _ has => has) (fun absent => by cases absent) fun error same => ?_
      rw [← Option.some.inj same]
      exact id
  | undeclared missing =>
      exact .skipped rfl (fun _ has => has) (fun _ => missing) fun error same => by cases same
  | declared models declared fresh =>
      obtain ⟨grows, named⟩ := populateDisplay_spec name attributes models indices.displayIndex
      exact indexed_populateModelIndices package declared fresh rfl grows named

/-! ## A pass that fails -/

/-- The tables have what a package copies already, for each of its models. -/
def Held (indices : Indices Spec Value) (attributes : Attributes Spec Value) : Prop :=
  ∀ copy ∈ attributes.copies, ∀ model ∈ attributes.models.getD [],
    (indices.copied copy.1).get? model = some copy.2

/-- An indexed package whose values are held already leaves the tables of `Copied` alone. -/
theorem Indexed.copied_of_held {before after : Indices Spec Value} {raised : Option Raised}
    (indexed : Indexed attributes before after raised) (held : Held before attributes) :
    after.copied = before.copied := by
  cases indexed with
  | skipped copied => exact copied
  | filled models declared fresh copied =>
      rw [copied]
      refine copied_fill_of_held fun copy member model known => held copy member model ?_
      rwa [declared]

/-- What an indexed model has stays. -/
theorem Indexed.get?_of_named {before after : Indices Spec Value} {raised : Option Raised}
    (indexed : Indexed attributes before after raised)
    (named : (before.displayIndex.get? model).isSome) (index : Copied) :
    (after.displayIndex.get? model).isSome ∧
      (after.copied index).get? model = (before.copied index).get? model := by
  cases indexed with
  | skipped copied displayed => exact ⟨displayed model named, by rw [copied]⟩
  | filled models declared fresh copied displayed =>
      refine ⟨displayed model named, ?_⟩
      rw [copied, get?_fill_of_not_mem]
      intro member
      rw [fresh model member] at named
      cases named

/-- What a package copies is there when it has been indexed, or when a conversion of it raised. -/
theorem Indexed.held {before after : Indices Spec Value} {raised : Option Raised}
    (indexed : Indexed attributes before after raised)
    (late : ∀ error, raised = some error → error.IsConversion) :
    Held after attributes ∧
      ∀ model ∈ attributes.models.getD [], (after.displayIndex.get? model).isSome := by
  cases indexed with
  | skipped copied displayed complete early =>
      have missing : attributes.models = none := by
        cases raised with
        | none => exact complete rfl
        | some error => exact absurd (late error rfl) (early error rfl)
      rw [Held, missing]
      exact ⟨fun _ _ _ member => absurd member List.not_mem_nil,
        fun _ member => absurd member List.not_mem_nil⟩
  | filled models declared fresh copied displayed named =>
      rw [Held, declared, copied]
      exact ⟨fun copy member model known =>
        get?_fill_of_mem (nodup_copies attributes) member known, named⟩

/-- The pass goes through some modules and raises in the next. -/
def Stops (before : List (Module Spec Value)) (failing : Module Spec Value)
    (state : State Spec Value) (raised : Raised) : Prop :=
  ∃ reached, discoverAll before state = (reached, none) ∧
    (discoverAll [failing] reached).2 = some raised

/-- The state after a module's import. -/
def imported (module : Module Spec Value) (state : State Spec Value) : State Spec Value :=
  { state with byModel := register module state.byModel }

/-- The tables and the exception that indexing an imported package leaves. -/
def indexedBy (module : Module Spec Value) (attributes : Attributes Spec Value)
    (state : State Spec Value) : Indices Spec Value × Option Raised :=
  indexPackage (register module state.byModel) module.name module.fullName attributes state.indices

variable {module : Module Spec Value} {modules : List (Module Spec Value)}
  {state reached : State Spec Value} {raised : Raised}

theorem discoverAll_of_skipped (skipped : module.package? = none) :
    discoverAll (module :: modules) state = discoverAll modules (imported module state) := by
  rw [discoverAll, skipped]
  rfl

theorem discoverAll_of_indexed (package : module.package? = some attributes)
    (indexed : (indexedBy module attributes state).2 = none) :
    discoverAll (module :: modules) state = discoverAll modules
      { imported module state with indices := (indexedBy module attributes state).1 } := by
  rw [indexedBy] at indexed
  rw [discoverAll, package]
  simp only [indexed]
  rfl

theorem discoverAll_of_raised (package : module.package? = some attributes)
    (raises : (indexedBy module attributes state).2 = some raised) :
    discoverAll (module :: modules) state =
      ({ imported module state with indices := (indexedBy module attributes state).1 },
        some raised) := by
  rw [indexedBy] at raises
  rw [discoverAll, package]
  simp only [raises]
  rfl

theorem indexed_indexedBy (module : Module Spec Value) (attributes : Attributes Spec Value)
    (state : State Spec Value) :
    Indexed attributes state.indices (indexedBy module attributes state).1
      (indexedBy module attributes state).2 :=
  indexed_indexPackage _ _ _ _ _

/-- A pass that raises has raised in one of its modules. -/
theorem exists_stops (fails : (discoverAll modules state).2 = some raised) :
    ∃ before failing after reached, modules = before ++ failing :: after ∧
      discoverAll before state = (reached, none) ∧
      discoverAll modules state = discoverAll [failing] reached := by
  induction modules generalizing state with
  | nil => cases fails
  | cons module modules induction =>
      have later (next : State Spec Value)
          (skips : ∀ modules, discoverAll (module :: modules) state = discoverAll modules next) :
          ∃ before failing after reached, module :: modules = before ++ failing :: after ∧
            discoverAll before state = (reached, none) ∧
            discoverAll (module :: modules) state = discoverAll [failing] reached := by
        rw [skips] at fails
        obtain ⟨before, failing, after, reached, whole, through, same⟩ := induction fails
        refine ⟨module :: before, failing, after, reached, by rw [whole]; rfl, ?_, ?_⟩
        · rw [skips, through]
        · rw [skips, same]
      cases package : module.package? with
      | none => exact later _ fun _ => discoverAll_of_skipped package
      | some attributes =>
          cases outcome : (indexedBy module attributes state).2 with
          | none => exact later _ fun _ => discoverAll_of_indexed package outcome
          | some raised =>
              refine ⟨[], module, modules, state, rfl, rfl, ?_⟩
              rw [discoverAll_of_raised package outcome, discoverAll_of_raised package outcome]

/-- After a pass over modules that were all indexed, the models of before have what they had, and
those of the modules what these copy. -/
theorem discoverAll_spec (through : discoverAll modules state = (reached, none)) :
    (∀ model index, (state.indices.displayIndex.get? model).isSome →
      (reached.indices.displayIndex.get? model).isSome ∧
        (reached.indices.copied index).get? model = (state.indices.copied index).get? model) ∧
      ∀ module ∈ modules, ∀ attributes, module.package? = some attributes →
        Held reached.indices attributes ∧ ∀ model ∈ attributes.models.getD [],
          (reached.indices.displayIndex.get? model).isSome := by
  induction modules generalizing state with
  | nil =>
      rw [← (Prod.mk.inj through).1]
      exact ⟨fun _ _ named => ⟨named, rfl⟩, fun _ member => absurd member List.not_mem_nil⟩
  | cons module modules induction =>
      cases package : module.package? with
      | none =>
          rw [discoverAll_of_skipped package] at through
          obtain ⟨kept, held⟩ := induction through
          refine ⟨kept, fun other member attributes declared => ?_⟩
          rcases List.mem_cons.mp member with here | later
          · rw [here, package] at declared
            cases declared
          · exact held other later attributes declared
      | some attributes =>
          have indexed := indexed_indexedBy module attributes state
          cases outcome : (indexedBy module attributes state).2 with
          | some raised =>
              rw [discoverAll_of_raised package outcome] at through
              cases through
          | none =>
              rw [outcome] at indexed
              rw [discoverAll_of_indexed package outcome] at through
              obtain ⟨kept, held⟩ := induction through
              obtain ⟨own, named⟩ := indexed.held fun error absent => by cases absent
              refine ⟨fun model index known => ?_, fun other member attributes' declared => ?_⟩
              · obtain ⟨still, same⟩ := indexed.get?_of_named known index
                obtain ⟨last, same'⟩ := kept model index still
                exact ⟨last, same'.trans same⟩
              · rcases List.mem_cons.mp member with here | later
                · rw [here, package] at declared
                  rw [← Option.some.inj declared]
                  refine ⟨fun copy copied model known => ?_, fun model known => ?_⟩
                  · rw [(kept model copy.1 (named model known)).2]
                    exact own copy copied model known
                  · exact (kept model .endpoints (named model known)).1
                · exact held other later attributes' declared

/-- A pass over modules whose values are all held leaves the tables of `Copied` alone. -/
theorem copied_of_held (through : discoverAll modules state = (reached, none))
    (held : ∀ module ∈ modules, ∀ attributes, module.package? = some attributes →
      Held state.indices attributes) :
    reached.indices.copied = state.indices.copied := by
  induction modules generalizing state with
  | nil => rw [← (Prod.mk.inj through).1]
  | cons module modules induction =>
      have others := fun other (member : other ∈ modules) =>
        held other (List.mem_cons_of_mem module member)
      cases package : module.package? with
      | none =>
          rw [discoverAll_of_skipped package] at through
          have rest := induction through others
          exact rest
      | some attributes =>
          cases outcome : (indexedBy module attributes state).2 with
          | some raised =>
              rw [discoverAll_of_raised package outcome] at through
              cases through
          | none =>
              have alone := (indexed_indexedBy module attributes state).copied_of_held
                (held module List.mem_cons_self attributes package)
              rw [discoverAll_of_indexed package outcome] at through
              have rest := induction through (by
                intro other member attributes' declared copy copied model known
                rw [alone]
                exact others other member attributes' declared copy copied model known)
              exact rest.trans alone

/-- The tables that are cleared are empty. -/
structure Indices.Cleared (indices : Indices Spec Value) : Prop where
  traitIndex : indices.traitIndex = .empty
  traitsByModel : indices.traitsByModel = .empty
  displayIndex : indices.displayIndex = .empty
  allowUnauthoredIndex : indices.allowUnauthoredIndex = .empty
  noiseOverrideIndex : indices.noiseOverrideIndex = .empty

/-- Nothing is lost or left behind when the pass raises: the tables that are cleared were empty, and
the others have all that was copied before. -/
structure Traceless (state : State Spec Value) (before : List (Module Spec Value))
    (failing : Module Spec Value) (raised : Raised) : Prop where
  cleared : state.indices.Cleared
  before : ∀ module ∈ before, ∀ attributes, module.package? = some attributes →
    Held state.indices attributes
  failing : raised.IsConversion → ∀ attributes, failing.package? = some attributes →
    Held state.indices attributes

theorem eq_clear_iff {before after : Indices Spec Value} :
    after.clear = before ↔ before.Cleared ∧ after.copied = before.copied := by
  constructor
  · intro same
    rw [← same]
    exact ⟨⟨rfl, rfl, rfl, rfl, rfl⟩, rfl⟩
  · intro ⟨empty, same⟩
    obtain ⟨trait, traits, display, allow, noise⟩ := empty
    cases before
    simp only at trait traits display allow noise same
    rw [Indices.clear, same, trait, traits, display, allow, noise]

theorem ensureDiscovered_of_raised {listing : Option (List (Module Spec Value))}
    (raises : (ensureDiscovered listing state).2 = some raised) :
    state.discovered = false ∧ ∃ modules, listing = some modules ∧
      (discoverAll modules state).2 = some raised ∧
      (ensureDiscovered listing state).1.indices =
        (discoverAll modules state).1.indices.clear := by
  rw [ensureDiscovered.eq_def] at raises ⊢
  split at raises
  · cases raises
  next undiscovered =>
  rw [Bool.not_eq_true] at undiscovered
  refine ⟨undiscovered, ?_⟩
  rw [undiscovered, if_neg Bool.false_ne_true]
  cases listing with
  | none => cases raises
  | some modules =>
      refine ⟨modules, rfl, ?_⟩
      dsimp only at raises ⊢
      cases outcome : (discoverAll modules state).2 with
      | none =>
          rw [outcome] at raises
          cases raises
      | some error =>
          rw [outcome] at raises
          rw [← Option.some.inj raises]
          exact ⟨rfl, rfl⟩

/-- A call that raises has raised in one of the modules, and the tables are as before exactly when
nothing was lost or left behind. -/
theorem unchanged_iff {listing : Option (List (Module Spec Value))}
    (raises : (ensureDiscovered listing state).2 = some raised) :
    ∃ before failing after, listing = some (before ++ failing :: after) ∧
      Stops before failing state raised ∧
      ((ensureDiscovered listing state).1.indices = state.indices ↔
        Traceless state before failing raised) := by
  obtain ⟨-, modules, listed, fails, left⟩ := ensureDiscovered_of_raised raises
  obtain ⟨before, failing, after, reached, split, through, last⟩ := exists_stops fails
  rw [last] at fails left
  refine ⟨before, failing, after, by rw [listed, split], ⟨reached, through, fails⟩, ?_⟩
  cases package : failing.package? with
  | none =>
      rw [discoverAll_of_skipped package] at fails
      cases fails
  | some attributes =>
      have outcome : (indexedBy failing attributes reached).2 = some raised := by
        cases outcome : (indexedBy failing attributes reached).2 with
        | none =>
            rw [discoverAll_of_indexed package outcome] at fails
            cases fails
        | some error =>
            rw [discoverAll_of_raised package outcome] at fails
            exact fails
      have indexed := indexed_indexedBy failing attributes reached
      rw [outcome] at indexed
      rw [left, discoverAll_of_raised package outcome, eq_clear_iff]
      obtain ⟨kept, held⟩ := discoverAll_spec through
      constructor
      · intro ⟨cleared, same⟩
        refine ⟨cleared, fun module member other declared copy copied model known => ?_, ?_⟩
        · obtain ⟨there, named⟩ := held module member other declared
          obtain ⟨-, still⟩ := indexed.get?_of_named (named model known) copy.1
          rw [← same, still]
          exact there copy copied model known
        · intro conversion other declared copy copied model known
          rw [package] at declared
          rw [← Option.some.inj declared] at copied known
          obtain ⟨there, -⟩ := indexed.held fun error named => Option.some.inj named ▸ conversion
          rw [← same]
          exact there copy copied model known
      · intro traceless
        have through' := copied_of_held through traceless.before
        refine ⟨traceless.cleared, Eq.trans ?_ through'⟩
        by_cases conversion : raised.IsConversion
        · refine indexed.copied_of_held fun copy copied model known => ?_
          rw [through']
          exact traceless.failing conversion attributes package copy copied model known
        · cases indexed with
          | skipped copied => exact copied
          | filled models declared fresh copied displayed named late =>
              exact absurd (late raised rfl) conversion

/-! ## Later calls -/

/-- Calls of `_ensure_discovered` in one process. -/
def machine : Machine (State Spec Value) (Option (List (Module Spec Value))) where
  initial state := state = .fresh
  step state listing next := next = (ensureDiscovered listing state).1

/-- If the call raises, nothing is lost or left behind. -/
def Clean (state : State Spec Value) (listing : Option (List (Module Spec Value))) : Prop :=
  ∀ before failing after raised, listing = some (before ++ failing :: after) →
    Stops before failing state raised → Traceless state before failing raised

/-- A validation that passes does so with fewer classes registered. -/
theorem validateModels_mono {byModel fewer : Dictionary String OverrideClass}
    {displayIndex : Dictionary String DisplayMetadata} {package : String}
    {declared : Option (List String)} (subset : fewer.entries ⊆ byModel.entries)
    (valid : validateModels byModel displayIndex package attributes = .ok declared) :
    validateModels fewer displayIndex package attributes = .ok declared := by
  cases stated : attributes.models with
  | none =>
      simp only [validateModels, stated] at valid ⊢
      exact valid
  | some models =>
      cases found : if attributes.hasOverrideClass then foreignEntry byModel package models
          else none with
      | none =>
          have absent : (if attributes.hasOverrideClass then foreignEntry fewer package models
              else none) = none := by
            split at found
            · next has =>
              rw [if_pos has]
              exact List.find?_eq_none.mpr fun entry member =>
                List.find?_eq_none.mp found entry (subset member)
            · next lacks => rw [if_neg lacks]
          simp only [validateModels, stated, found] at valid
          simp only [validateModels, stated, absent]
          exact valid
      | some entry =>
          simp only [validateModels, stated, found] at valid
          split at valid
          · cases valid
          split at valid
          · cases valid
          split at valid
          · cases valid
          split at valid
          · cases valid
          · cases valid

theorem register_subset {byModel fewer : Dictionary String OverrideClass}
    (subset : fewer.entries ⊆ byModel.entries) (module : Module Spec Value) :
    (register module fewer).entries ⊆ (register module byModel).entries := by
  rw [register, register]
  split
  · exact subset
  · induction module.registered generalizing byModel fewer with
    | nil => exact subset
    | cons entry registered induction =>
        refine induction fun other member => ?_
        have found := Dictionary.get?_eq_some_iff.mpr member
        refine Dictionary.get?_eq_some_iff.mp ?_
        rw [Dictionary.get?_set] at found ⊢
        split at found
        · next here => rw [if_pos here, found]
        · next elsewhere =>
          rw [if_neg elsewhere]
          exact Dictionary.get?_eq_some_iff.mpr (subset (Dictionary.get?_eq_some_iff.mp found))

/-- Indexing does the same in a process that has fewer classes registered. -/
theorem indexPackage_mono {byModel fewer : Dictionary String OverrideClass} {name package : String}
    (subset : fewer.entries ⊆ byModel.entries)
    (indexed : (indexPackage byModel name package attributes indices).2 = none) :
    indexPackage fewer name package attributes indices =
      indexPackage byModel name package attributes indices := by
  rw [indexPackage] at indexed ⊢
  cases valid : validateModels byModel indices.displayIndex package attributes with
  | error raised =>
      rw [valid] at indexed
      cases indexed
  | ok declared => rw [validateModels_mono subset valid, indexPackage, valid]

/-- So does a pass, from the same tables. -/
theorem discoverAll_mono {other : State Spec Value} (same : other.indices = state.indices)
    (subset : other.byModel.entries ⊆ state.byModel.entries)
    (through : discoverAll modules state = (reached, none)) :
    ∃ reached', discoverAll modules other = (reached', none) ∧
      reached'.indices = reached.indices := by
  induction modules generalizing state other with
  | nil =>
      refine ⟨other, rfl, ?_⟩
      rw [← (Prod.mk.inj through).1]
      exact same
  | cons module modules induction =>
      have fewer := register_subset subset module
      cases package : module.package? with
      | none =>
          rw [discoverAll_of_skipped package] at through ⊢
          have tables : (imported module other).indices = (imported module state).indices := same
          exact induction tables fewer through
      | some attributes =>
          cases outcome : (indexedBy module attributes state).2 with
          | some raised =>
              rw [discoverAll_of_raised package outcome] at through
              cases through
          | none =>
              have alike :
                  indexedBy module attributes other = indexedBy module attributes state := by
                rw [indexedBy, same]
                exact indexPackage_mono fewer outcome
              rw [discoverAll_of_indexed package outcome] at through
              rw [discoverAll_of_indexed package (alike ▸ outcome), alike]
              refine induction ?_ ?_ through
              · rfl
              · exact fewer

/-- A call that returns, of a process that has not discovered anything. -/
theorem ensureDiscovered_of_returned {listing : Option (List (Module Spec Value))}
    (undiscovered : state.discovered = false)
    (returns : (ensureDiscovered listing state).2 = none) :
    (ensureDiscovered listing state).1.discovered = true ∧
      ∃ reached, discoverAll (listing.getD []) state = (reached, none) ∧
        (ensureDiscovered listing state).1.indices = reached.indices := by
  rw [ensureDiscovered.eq_def, undiscovered, if_neg Bool.false_ne_true] at returns ⊢
  cases listing with
  | none => exact ⟨rfl, state, rfl, rfl⟩
  | some modules =>
      dsimp only [Option.getD_some] at returns ⊢
      cases outcome : (discoverAll modules state).2 with
      | none => exact ⟨rfl, _, Prod.ext rfl outcome, rfl⟩
      | some raised =>
          rw [outcome] at returns
          cases returns

/-- The tables are empty until a call has succeeded. -/
def Unfilled (state : State Spec Value) : Prop :=
  state.discovered = false → state.indices = .empty

/-- Failing calls that leave no trace keep the tables empty. -/
theorem unfilled_of_run {listings : List (Option (List (Module Spec Value)))}
    (run : machine.Run Clean listings state) : Unfilled state := by
  refine run.invariant ?_ ?_
  · intro first begins _
    rw [begins]
    rfl
  · intro before listing after unfilled clean steps undiscovered
    rw [steps] at undiscovered ⊢
    cases outcome : (ensureDiscovered listing before).2 with
    | some raised =>
        obtain ⟨fresh, -⟩ := ensureDiscovered_of_raised outcome
        obtain ⟨passed, failing, rest, listed, stops, iff⟩ := unchanged_iff outcome
        rw [iff.mpr (clean passed failing rest raised listed stops), unfilled fresh]
    | none =>
        cases found : before.discovered with
        | true =>
            rw [ensureDiscovered.eq_def, if_pos found, found] at undiscovered
            cases undiscovered
        | false =>
            rw [(ensureDiscovered_of_returned found outcome).1] at undiscovered
            cases undiscovered

theorem ensureDiscovered_of_through {listing : Option (List (Module Spec Value))}
    (undiscovered : state.discovered = false)
    (through : discoverAll (listing.getD []) state = (reached, none)) :
    ensureDiscovered listing state = ({ reached with discovered := true }, none) := by
  rw [ensureDiscovered.eq_def, undiscovered, if_neg Bool.false_ne_true]
  cases listing with
  | none =>
      rw [← (Prod.mk.inj through).1]
  | some modules =>
      rw [Option.getD_some] at through
      simp only [through]

/-- A call that succeeds after such a run fills the tables as in a fresh process. -/
theorem eq_fresh_of_run {listings : List (Option (List (Module Spec Value)))}
    (run : machine.Run Clean listings state) (undiscovered : state.discovered = false)
    {listing : Option (List (Module Spec Value))}
    (returns : (ensureDiscovered listing state).2 = none) :
    (ensureDiscovered listing .fresh).2 = none ∧
      (ensureDiscovered listing state).1.indices = (ensureDiscovered listing .fresh).1.indices := by
  obtain ⟨-, reached, through, filled⟩ := ensureDiscovered_of_returned undiscovered returns
  have tables : (State.fresh : State Spec Value).indices = state.indices :=
    (unfilled_of_run run undiscovered).symm
  have fewer : (State.fresh : State Spec Value).byModel.entries ⊆ state.byModel.entries :=
    List.nil_subset _
  obtain ⟨reached', through', same⟩ := discoverAll_mono tables fewer through
  rw [ensureDiscovered_of_through rfl through', filled]
  exact ⟨rfl, same.symm⟩

/-- Failed discoveries: after a call that raises, the tables are as before exactly when nothing was
lost or left behind; and where that is so for every call that raised, a call that returns fills the
tables as it does in a fresh process. -/
theorem failed_discovery :
    (∀ (state : State Spec Value) listing raised, (ensureDiscovered listing state).2 = some raised →
      ∃ before failing after, listing = some (before ++ failing :: after) ∧
        Stops before failing state raised ∧
        ((ensureDiscovered listing state).1.indices = state.indices ↔
          Traceless state before failing raised)) ∧
    ∀ listings (state : State Spec Value), machine.Run Clean listings state →
      state.discovered = false → ∀ listing, (ensureDiscovered listing state).2 = none →
        (ensureDiscovered listing .fresh).2 = none ∧
          (ensureDiscovered listing state).1.indices =
            (ensureDiscovered listing .fresh).1.indices :=
  ⟨fun _ _ _ raises => unchanged_iff raises,
    fun _ _ run undiscovered _ returns => eq_fresh_of_run run undiscovered returns⟩

/-- A package of one plug, with or without endpoints. -/
def plug (name : String) (endpoints : Option String) : Module String String where
  name := name
  registered := []
  attributes := some
    { hasOverrideClass := false
      models := some ["lumi.plug.a"]
      traits := none
      whitelabels := none
      manufacturer := "Aqara"
      displayName := some "Plug"
      allowNoiseTraits := .ints []
      allowUnauthoredTraits := .missing
      copied := fun index => if index = .endpoints then endpoints.map .ok else none }

/-- Two packages without endpoints that claim one model. -/
def claimedTwice : Option (List (Module String String)) :=
  some [plug "plug_a" none, plug "plug_b" none]

/-- A package without endpoints leaves nothing behind. -/
theorem held_plug {name : String} {attributes : Attributes String String}
    (package : (plug name none).package? = some attributes) (indices : Indices String String) :
    Held indices attributes := by
  have copies : attributes.copies = [] := by
    rw [Module.package?] at package
    split at package
    · cases package
    · obtain rfl := Option.some.inj package
      rfl
  intro copy member
  rw [copies] at member
  exact absurd member List.not_mem_nil

theorem clean_claimedTwice : Clean .fresh claimedTwice := by
  intro before failing after raised listing _
  have plugs : ∀ module ∈ before ++ failing :: after, ∃ name, module = plug name none := by
    rw [← Option.some.inj listing]
    intro module member
    rcases List.mem_pair.mp member with rfl | rfl
    · exact ⟨_, rfl⟩
    · exact ⟨_, rfl⟩
  refine ⟨⟨rfl, rfl, rfl, rfl, rfl⟩, fun module member attributes package => ?_,
    fun _ attributes package => ?_⟩
  · obtain ⟨name, rfl⟩ := plugs module (List.mem_append_left _ member)
    exact held_plug package _
  · obtain ⟨name, rfl⟩ := plugs failing (List.mem_append_right _ List.mem_cons_self)
    exact held_plug package _

/-- Discovery fails over the two, and later finds one of them alone as a fresh process does. -/
theorem failed_discovery_claimed :
    (∃ before failing after, claimedTwice = some (before ++ failing :: after) ∧
      Stops before failing .fresh (.runtimeError (plug "plug_b" none).fullName
        (.claimedModel "lumi.plug.a")) ∧
      ((ensureDiscovered claimedTwice .fresh).1.indices = State.fresh.indices ↔
        Traceless .fresh before failing (.runtimeError (plug "plug_b" none).fullName
          (.claimedModel "lumi.plug.a")))) ∧
    machine.Run Clean [claimedTwice] (ensureDiscovered claimedTwice .fresh).1 ∧
      (ensureDiscovered (some [plug "plug_b" none]) .fresh).2 = none ∧
        (ensureDiscovered (some [plug "plug_b" none])
          (ensureDiscovered claimedTwice .fresh).1).1.indices =
            (ensureDiscovered (some [plug "plug_b" none]) .fresh).1.indices := by
  have run : machine.Run Clean [claimedTwice] (ensureDiscovered claimedTwice .fresh).1 :=
    (Machine.Run.start rfl).extend claimedTwice clean_claimedTwice rfl
  exact ⟨failed_discovery.1 .fresh _ _ (by decide +kernel), run,
    failed_discovery.2 _ _ run (by decide +kernel) (some [plug "plug_b" none])
      (by decide +kernel)⟩

/-- Of two packages that claim one model, the first leaves its endpoints behind, and the second has
them when it is discovered alone. -/
theorem endpoints_left_behind :
    (¬ ∀ (state : State String String) listing raised,
      (ensureDiscovered listing state).2 = some raised →
        (ensureDiscovered listing state).1.indices = state.indices) ∧
    ¬ ∀ (state : State String String) listing raised later,
      (ensureDiscovered listing state).2 = some raised →
        (ensureDiscovered later (ensureDiscovered listing state).1).2 = none →
          (ensureDiscovered later (ensureDiscovered listing state).1).1.indices =
            (ensureDiscovered later State.fresh).1.indices := by
  have raises :
      (ensureDiscovered (some [plug "plug_a" (some "1"), plug "plug_b" none]) .fresh).2 =
        some (.runtimeError (plug "plug_b" none).fullName (.claimedModel "lumi.plug.a")) := by
    decide +kernel
  constructor
  · intro unchanged
    have tables := unchanged .fresh _ _ raises
    have left := congrArg (fun indices => (indices.copied .endpoints).get? "lumi.plug.a") tables
    exact absurd left (by decide +kernel)
  · intro restored
    have tables := restored .fresh _ _ (some [plug "plug_b" none]) raises (by decide +kernel)
    have left := congrArg (fun indices => (indices.copied .endpoints).get? "lumi.plug.a") tables
    exact absurd left (by decide +kernel)

end Registry
end Reference
end AqaraLanLink
